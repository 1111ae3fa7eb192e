import Easel.Canvas.Document
import Easel.Disk
import Easel.Renderer
import Easel.Text.Quoted

namespace Easel

-- Something outside of the program that spoils the publication of a frame: the file cannot be
-- created, or written only up to some byte, or put in its place.
inductive Obstacle
  | create (failure : Failure)
  | write (kept : Nat) (failure : Failure)
  | rename (failure : Failure)
  deriving DecidableEq

-- A canvas and the disk it is published to. The publications to come meet the obstacles one after
-- the other, and none when there are no more of them.
structure Display where
  canvas    : Canvas
  disk      : Disk
  obstacles : List (Option Obstacle)

namespace Display

-- Documents are written under this name first.
def staging (output : Text) : Text :=
  output ++ ".tmp".toList

def create (disk : Disk) (path : Text) : Option Obstacle → Except Failure Disk
  | some (.create failure) => .error failure
  | _                      => disk.create path

-- The file at `path` gets the content `bytes`, or the part of it that could be written.
def write (disk : Disk) (path : Text) (bytes : List UInt8) :
    Option Obstacle → Disk × Except Failure Unit
  | some (.write kept failure) => (disk.insert path (.file (bytes.take kept)), .error failure)
  | _                          => (disk.insert path (.file bytes), .ok ())

def rename (disk : Disk) (source target : Text) : Option Obstacle → Except Failure Disk
  | some (.rename failure) => .error failure
  | _                      => disk.rename source target

-- Writes a whole document to the staging file before it takes the place of the frame before it, so
-- that nobody ever sees half a frame.
def publish (disk : Disk) (output : Text) (document : List UInt8) (obstacle : Option Obstacle) :
    Disk × Except Failure Unit :=
  match create disk (staging output) obstacle with
  | .error failure => (disk, .error failure)
  | .ok created    =>
    match write created (staging output) document obstacle with
    | (written, .error failure) => (written, .error failure)
    | (written, .ok ())         =>
      match rename written (staging output) output obstacle with
      | .error failure => (written, .error failure)
      | .ok renamed    => (renamed, .ok ())

def presented (c : Canvas) (output : Text) : Record :=
  .debug ("presented ".toList ++ Text.ofNat c.shapes.size ++ " shapes to ".toList ++ output.quoted)

def render (d : Display) (shape : Shape) (color : Color) : Effect Display Unit :=
  let drawn := d.canvas.draw shape color
  ⟨{ d with canvas := drawn.value }, drawn.log, .ok ()⟩

-- Without an output there is nothing to publish.
def present (d : Display) : Effect Display Unit :=
  match d.canvas.output with
  | none        => .pure d ()
  | some output =>
    let obstacle := d.obstacles.head?.join
    let next     := { d with obstacles := d.obstacles.tail }
    match publish d.disk output d.canvas.document.bytes obstacle with
    | (disk, .ok ())         => ⟨{ next with disk }, [presented d.canvas output], .ok ()⟩
    | (disk, .error failure) => ⟨{ next with disk }, [], .error failure⟩

instance : Renderer Display where
  render  := render
  present := present

end Display
end Easel
