import Easel.Options.Switch

namespace Easel.Options

-- What a switch is good for.
def Switch.purpose : Switch → Text
  | bind        => "address to listen on".toList
  | output      => "file that the canvas is published to after every drawn shape".toList
  | width       => "width of the canvas".toList
  | height      => "height of the canvas".toList
  | palette     => "a further color, such as orange=#ffa500".toList
  | maxShapes   => "most shapes on the canvas, the oldest ones go first".toList
  | readTimeout => "how long to wait for a client to send its command".toList
  | color       => "whether the log is in colors: auto, always or never".toList
  | verbose     => "more of the log".toList
  | quiet       => "less of the log".toList
  | help        => "this text".toList
  | version     => "the version".toList

-- The column in which the purposes stand.
def purposeColumn : Nat := 36

def Switch.usageLine (s : Switch) : Text :=
  let short := match s.short? with
    | some c => ['-', c, ',', ' ']
    | none   => [' ', ' ', ' ', ' ']
  let spelling : Text := ' ' :: ' ' :: short ++ s.usage
  spelling ++ List.replicate (purposeColumn - spelling.length) ' ' ++ s.purpose ++ ['\n']

-- What is shown to those who ask for help.
def usage : Text :=
  "Usage: easel [OPTIONS]\n\nOptions:\n".toList ++ Switch.all.flatMap Switch.usageLine

end Easel.Options
