import Easel.Text

namespace Easel.Options

-- What can be asked for on the command line.
inductive Switch
  | bind
  | output
  | width
  | height
  | palette
  | maxShapes
  | readTimeout
  | color
  | verbose
  | quiet
  | help
  | version
  deriving DecidableEq

namespace Switch

def all : List Switch :=
  [bind, output, width, height, palette, maxShapes, readTimeout, color, verbose, quiet, help, version]

def long : Switch → Text
  | bind        => "bind".toList
  | output      => "output".toList
  | width       => "width".toList
  | height      => "height".toList
  | palette     => "palette".toList
  | maxShapes   => "max-shapes".toList
  | readTimeout => "read-timeout".toList
  | color       => "color".toList
  | verbose     => "verbose".toList
  | quiet       => "quiet".toList
  | help        => "help".toList
  | version     => "version".toList

-- What stands for the value of a switch that has one.
def valueName? : Switch → Option Text
  | bind        => some "BIND".toList
  | output      => some "OUTPUT".toList
  | width       => some "WIDTH".toList
  | height      => some "HEIGHT".toList
  | palette     => some "NAME=#RRGGBB".toList
  | maxShapes   => some "MAX_SHAPES".toList
  | readTimeout => some "SECONDS".toList
  | color       => some "WHEN".toList
  | _           => none

def takesValue (s : Switch) : Bool :=
  s.valueName?.isSome

def ofLong? (name : Text) : Option Switch :=
  all.find? (·.long == name)

-- The letter of a switch that can be asked for with one.
def short? : Switch → Option Char
  | verbose => some 'v'
  | quiet   => some 'q'
  | help    => some 'h'
  | version => some 'V'
  | _       => none

def ofShort? (letter : Char) : Option Switch :=
  all.find? (·.short? == some letter)

-- How a switch is spelled in messages. Those that add up when they are repeated end in dots.
def usage (s : Switch) : Text :=
  let spelling := "--".toList ++ s.long
  match s, s.valueName? with
  | _, some value              => spelling ++ " <".toList ++ value ++ ['>']
  | verbose, none | quiet, none => spelling ++ "...".toList
  | _, none                    => spelling

end Switch
end Easel.Options
