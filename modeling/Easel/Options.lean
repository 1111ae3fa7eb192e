import Easel.Canvas
import Easel.Options.Error
import Easel.Options.Number
import Easel.Palette.Entry

namespace Easel

-- When the log is written in colors.
inductive ColorWhen
  | auto
  | always
  | never
  deriving DecidableEq

-- How much of the log is shown.
inductive Verbosity
  | off
  | error
  | warn
  | info
  | debug
  | trace
  deriving DecidableEq

namespace Verbosity

-- Errors are shown from the start. Each request for more or for less is one step, up to either end.
def ofSteps (more less : Nat) : Verbosity :=
  match 1 + more - less with
  | 0 => off
  | 1 => error
  | 2 => warn
  | 3 => info
  | 4 => debug
  | _ => trace

def rank : Verbosity → Nat
  | off   => 0
  | error => 1
  | warn  => 2
  | info  => 3
  | debug => 4
  | trace => 5

end Verbosity

def Level.rank : Level → Nat
  | error => 1
  | warn  => 2
  | info  => 3
  | debug => 4
  | trace => 5

def Verbosity.shows (v : Verbosity) (l : Level) : Bool :=
  l.rank ≤ v.rank

-- The settings that the command line decides on. A timeout is a number of seconds.
structure Options where
  bind        : Text
  output      : Text
  width       : Nat
  height      : Nat
  palette     : List Palette.Entry
  maxShapes   : Nat
  readTimeout : Option Nat
  color       : ColorWhen
  verbosity   : Verbosity

namespace Options

-- The settings that have been made so far. The last field holds the switches that ask for more or
-- for less of the log, the latest first.
structure Draft where
  bind        : Option Text := none
  output      : Option Text := none
  width       : Option Nat := none
  height      : Option Nat := none
  palette     : List Palette.Entry := []
  maxShapes   : Option Nat := none
  readTimeout : Option Nat := none
  color       : Option ColorWhen := none
  volume      : List Switch := []

def max32 : Nat := UInt32.size - 1
def max63 : Nat := UInt64.size / 2 - 1
def max64 : Nat := UInt64.size - 1

def readPath (s : Switch) (value : Text) : Except Error Text :=
  if value.isEmpty then .error (.missingValue s) else .ok value

-- A length in pixels has 32 bits.
def readLength (s : Switch) (value : Text) : Except Error Nat :=
  match readInteger max63 value with
  | .error e => .error (.invalidValue s value e.message)
  | .ok n    =>
    if 0 ≤ n ∧ n ≤ max32 then .ok n.toNat
    else
      let range := " is not in 0..=".toList ++ Text.ofNat max32
      .error (.invalidValue s value (Text.ofInt n ++ range))

def readCount (s : Switch) (value : Text) : Except Error Nat :=
  match readNatural max64 value with
  | .error e => .error (.invalidValue s value e.message)
  | .ok n    => .ok n

def readEntry (s : Switch) (value : Text) : Except Error Palette.Entry :=
  match Palette.Entry.parse value with
  | .error e => .error (.invalidValue s value e.message)
  | .ok e    => .ok e

def readWhen (s : Switch) (value : Text) : Except Error ColorWhen :=
  if value = "auto".toList then .ok .auto
  else if value = "always".toList then .ok .always
  else if value = "never".toList then .ok .never
  else if value.isEmpty then .error (.missingValue s)
  else .error (.invalidChoice s value)

-- Most settings can be made only once, whether or not the second value would be any good.
def once {α : Type} (s : Switch) (current : Option α) (value : Except Error α) :
    Except Error (Option α) :=
  if current.isSome then .error (.repeated s) else value.map some

namespace Draft

-- Makes a setting that has a value. Entries of the palette add up.
def set (d : Draft) (s : Switch) (value : Text) : Except Error Draft := do
  match s with
  | .bind        => return { d with bind := ← once s d.bind (.ok value) }
  | .output      => return { d with output := ← once s d.output (readPath s value) }
  | .width       => return { d with width := ← once s d.width (readLength s value) }
  | .height      => return { d with height := ← once s d.height (readLength s value) }
  | .palette     => return { d with palette := d.palette ++ [← readEntry s value] }
  | .maxShapes   => return { d with maxShapes := ← once s d.maxShapes (readCount s value) }
  | .readTimeout => return { d with readTimeout := ← once s d.readTimeout (readCount s value) }
  | .color       => return { d with color := ← once s d.color (readWhen s value) }
  | _            => return d

-- Does what a switch without a value asks for.
def apply (d : Draft) : Switch → Except Error Draft
  | .help    => .error .help
  | .version => .error .version
  | s        => .ok { d with volume := s :: d.volume }

-- More and less of the log cannot be asked for at once. The switch that had the last word is named
-- last.
def finish (d : Draft) : Except Error Options :=
  let more := d.volume.count .verbose
  let less := d.volume.count .quiet
  if 0 < more ∧ 0 < less then
    .error (if d.volume.head? = some .quiet then .conflict .verbose .quiet
      else .conflict .quiet .verbose)
  else
    .ok {
      bind        := d.bind.getD "0.0.0.0:8080".toList
      output      := d.output.getD "drawing.svg".toList
      width       := d.width.getD Canvas.defaultWidth
      height      := d.height.getD Canvas.defaultHeight
      palette     := d.palette
      maxShapes   := d.maxShapes.getD Canvas.defaultCapacity
      readTimeout := d.readTimeout
      color       := d.color.getD .auto
      verbosity   := .ofSteps more less
    }

end Draft

-- A switch whose value is an argument of its own. It takes effect when the next one does, or at
-- the end of the command line.
structure Pending where
  switch : Switch
  value  : Option Text

def settle (d : Draft) : Option Pending → Except Error Draft
  | none                    => .ok d
  | some ⟨s, none⟩          => .error (.missingValue s)
  | some ⟨s, some value⟩    => d.set s value

-- Switches of one letter each, behind a single dash.
def applyLetters (d : Draft) (pending : Option Pending) : Text → Except Error Draft
  | []      => settle d pending
  | c :: cs =>
    match Switch.ofShort? c with
    | none   => .error (.unknownArgument ['-', c])
    | some s => do applyLetters (← (← settle d pending).apply s) none cs

-- A switch that is written out, with what follows its equals sign if it has one.
def applyLong (d : Draft) (pending : Option Pending) (name : Text) (value : Option Text) :
    Except Error (Draft × Option Pending) :=
  match Switch.ofLong? name with
  | none   => .error (.unknownArgument ("--".toList ++ name))
  | some s =>
    match s.takesValue, value with
    | true, some v  => do return (← (← settle d pending).set s v, none)
    | true, none    => do return (← settle d pending, some ⟨s, none⟩)
    | false, some v => .error (.unexpectedValue s v)
    | false, none   => do return (← (← settle d pending).apply s, none)

-- The part of an argument behind its first equals sign.
def attached? (arg : Text) : Option Text :=
  match arg.dropWhile (· != '=') with
  | []         => none
  | _ :: value => some value

-- Works off the arguments. One that starts with a dash is a switch, even where a value is due, and
-- nothing but switches and their values is allowed.
def scan (d : Draft) (pending : Option Pending) : List Text → Except Error Draft
  | []          => settle d pending
  | arg :: args =>
    match arg with
    | ['-', '-']          =>
      match args with
      | []         => settle d pending
      | extra :: _ => .error (.unknownArgument extra)
    | '-' :: '-' :: long  => do
      let (d, pending) ← applyLong d pending (long.takeWhile (· != '=')) (attached? long)
      scan d pending args
    | '-' :: c :: letters => do scan (← applyLetters d pending (c :: letters)) none args
    | value               =>
      match pending with
      | some ⟨s, none⟩ => scan d (some ⟨s, some value⟩) args
      | _              => .error (.unknownArgument value)

-- The options that a command line asks for. It comes without the name of the program.
def parse (args : List Text) : Except Error Options := do
  (← scan {} none args).finish

end Options
end Easel
