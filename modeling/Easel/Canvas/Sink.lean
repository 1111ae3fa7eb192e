import Easel.Failure

namespace Easel

-- A place to write bytes to, which may have an end.
structure Sink where
  room    : Option Nat
  written : Array UInt8

namespace Sink

def unbounded : Sink :=
  ⟨none, #[]⟩

def bounded (room : Nat) : Sink :=
  ⟨some room, #[]⟩

def full : Failure :=
  ⟨.writeZero, "failed to write whole buffer".toList⟩

-- Of a piece that does not fit, the beginning is written.
def write (s : Sink) (piece : Text) : Sink × Except Failure Unit :=
  let bytes := piece.bytes
  match s.room with
  | none      => ({ s with written := s.written ++ bytes }, .ok ())
  | some room =>
    if bytes.length ≤ room then
      (⟨some (room - bytes.length), s.written ++ bytes⟩, .ok ())
    else
      (⟨some 0, s.written ++ bytes.take room⟩, .error full)

def writeAll (s : Sink) : List Text → Sink × Except Failure Unit
  | []              => (s, .ok ())
  | piece :: pieces =>
    match s.write piece with
    | (s', .ok ())   => s'.writeAll pieces
    | (s', .error e) => (s', .error e)

theorem writeAll_unbounded (pieces : List Text) (written : Array UInt8) :
    writeAll ⟨none, written⟩ pieces = (⟨none, written ++ Text.bytes pieces.flatten⟩, .ok ()) := by
  induction pieces generalizing written with
  | nil => simp [writeAll, Text.bytes]
  | cons piece pieces ih =>
    have h : written ++ piece.bytes ++ Text.bytes pieces.flatten =
        written ++ (piece.bytes ++ Text.bytes pieces.flatten) := Array.ext' (by simp)
    simp [writeAll, write, ih, h]

end Sink
end Easel
