import Easel.Failure

namespace Easel

-- What a read on a connection can come to. A read that delivers no byte means that the client has
-- closed its side, and so does the end of a stream.
inductive Delivery
  | bytes (bs : List UInt8)
  | failure (f : Failure)
  deriving DecidableEq

-- The deliveries of a connection, in the order in which they are read.
abbrev Stream := List Delivery

namespace Request

-- No more bytes than these are read from a connection.
def maxBytes : Nat := 65536

def lineFeed : UInt8 := 10

-- The bytes up to and including the first line feed.
def throughLineFeed : List UInt8 → List UInt8
  | []      => []
  | b :: bs => if b = lineFeed then [b] else b :: throughLineFeed bs

-- Reads the rest of a line of which at most `room` bytes are wanted. It ends with the first line
-- feed, or where the room or the stream ends, and nothing behind it is read. Reads that were
-- interrupted are tried again, and any other failure is final.
def readLine (room : Nat) : Stream → Except Failure (List UInt8)
  | []                   => .ok []
  | .failure f :: stream =>
    if room = 0 then .ok []
    else if f.kind = .interrupted then readLine room stream
    else .error f
  | .bytes bs :: stream  =>
    let taken := bs.take room
    if taken.isEmpty then .ok []
    else if lineFeed ∈ taken then .ok (throughLineFeed taken)
    else (readLine (room - taken.length) stream).map (taken ++ ·)

def invalidText : Failure :=
  ⟨.invalidData, "stream did not contain valid UTF-8".toList⟩

def tooLong : Failure :=
  ⟨.invalidData, "request longer than ".toList ++ Text.ofNat maxBytes ++ " bytes".toList⟩

def isLineEnd (c : Char) : Bool :=
  c == '\r' || c == '\n'

-- The request that a line makes. A line that has used up all the room may have lost its end, so it
-- makes none.
def ofLine (line : List UInt8) : Except Failure Text :=
  match Text.ofBytes? line with
  | none   => .error invalidText
  | some t =>
    if t.getLast? ≠ some '\n' ∧ maxBytes ≤ line.length then .error tooLong
    else .ok (t.dropEndWhile isLineEnd)

-- The request of a client.
def read (stream : Stream) : Except Failure Text :=
  readLine maxBytes stream >>= ofLine

end Request
end Easel
