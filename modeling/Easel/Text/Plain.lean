import Easel.Text

namespace Easel.Text

-- Where a text stands with respect to the sequences that steer a terminal. All of them begin with
-- an escape. A control sequence ends with a letter, a command with a bell. What is sent to a device
-- has some parameters first and goes on as a string, which lasts until its terminator.
inductive Steering
  | outside
  | escape
  | intermediate
  | control
  | command
  | device
  | deviceParameters
  | deviceIntermediate
  | string
  deriving DecidableEq

-- Blanks that are control characters as well.
def isLayout (c : Char) : Bool :=
  c == '\t' || c == '\n' || c == '\x0c' || c == '\r'

def isControl (c : Char) : Bool :=
  c.toNat < 0x20 || c.toNat == 0x7F

def isWide (c : Char) : Bool :=
  0x80 ≤ c.toNat

-- What is shown of a text that steers nothing.
def isShown (c : Char) : Bool :=
  isWide c || isLayout c || !isControl c

-- The terminator of a string is the byte 9C. It is found in the middle of a character as well.
def terminates (c : Char) : Bool :=
  (String.utf8EncodeChar c).contains 0x9C

namespace Steering

-- How a sequence goes on with a character that is neither a control character nor wide.
def after (s : Steering) (c : Char) : Steering :=
  match s with
  | escape =>
    if c.toNat < 0x30 then intermediate
    else if c = '[' then control
    else if c = ']' then command
    else if c = 'P' then device
    else if c = 'X' ∨ c = '^' ∨ c = '_' then string
    else outside
  | intermediate => if c.toNat < 0x30 then intermediate else outside
  | control      => if c.toNat < 0x40 then control else outside
  | device       =>
    if c.toNat < 0x30 then deviceIntermediate
    else if c.toNat < 0x40 then deviceParameters
    else string
  | deviceParameters =>
    if c.toNat < 0x30 then deviceIntermediate
    else if c.toNat < 0x3C then deviceParameters
    else string
  | deviceIntermediate => if c.toNat < 0x30 then deviceIntermediate else string
  | s                  => s

-- What a character changes, and whether it is shown. An escape begins a new sequence, and the
-- characters 18 and 1A break one off, wherever they stand. Layout is shown in the middle of the
-- shorter sequences, which stay open.
def step (s : Steering) (c : Char) : Steering × Bool :=
  if c = '\x1b' then (escape, false)
  else if c = '\x18' ∨ c = '\x1a' then (outside, false)
  else
    match s with
    | outside => (outside, isShown c)
    | command => (if c = '\x07' then outside else command, false)
    | string  => (if terminates c then outside else string, false)
    | device | deviceParameters | deviceIntermediate =>
      (if isWide c || isControl c then s else s.after c, false)
    | escape | intermediate | control =>
      (if isWide c || isControl c then s else s.after c, isLayout c)

end Steering

def plainFrom (s : Steering) : Text → Text
  | []      => []
  | c :: cs =>
    match s.step c with
    | (_, true)     => c :: plainFrom .outside cs
    | (next, false) => plainFrom next cs

-- What is left of a text without control characters, other than layout, and without the sequences
-- that would steer a terminal. Layout in the middle of a sequence ends it.
def plain (t : Text) : Text :=
  plainFrom .outside t

-- As long as characters are `shown`, the sequence that is open does not take notice of them. Wide
-- ones close it.
def passedFrom (s : Steering) (shown : Bool) : Text → Text
  | []      => []
  | c :: cs =>
    if shown && isShown c then
      c :: passedFrom (if isWide c then .outside else s) true cs
    else
      match s.step c with
      | (next, true)  => c :: passedFrom next true cs
      | (next, false) => passedFrom next false cs

-- What an output that is no terminal gets of a text. Layout in the middle of a sequence interrupts
-- it: the sequence goes on where something comes that is not shown.
def passed (t : Text) : Text :=
  passedFrom .outside false t

end Easel.Text
