import Easel.Text

namespace Easel.Options

-- Why a text is no number of the kind that is asked for.
inductive NumberError
  | empty
  | invalidDigit
  | tooLarge
  | tooSmall
  deriving DecidableEq

def NumberError.message : NumberError → Text
  | empty        => "cannot parse integer from empty string".toList
  | invalidDigit => "invalid digit found in string".toList
  | tooLarge     => "number too large to fit in target type".toList
  | tooSmall     => "number too small to fit in target type".toList

-- Reads digits behind those that make up `n`. The first thing that is wrong, from left to right, is
-- what counts: a character that is no digit, or a value beyond `max`.
def readDigits (max : Nat) (beyond : NumberError) (n : Nat) : Text → Except NumberError Nat
  | []      => .ok n
  | c :: cs =>
    if !c.isDigit then .error .invalidDigit
    else
      let n' := 10 * n + (c.toNat - '0'.toNat)
      if max < n' then .error beyond else readDigits max beyond n' cs

-- A number needs at least one digit.
def readSome (max : Nat) (beyond : NumberError) (t : Text) : Except NumberError Nat :=
  if t.isEmpty then .error .invalidDigit else readDigits max beyond 0 t

-- A number that may have a plus in front.
def readNatural (max : Nat) : Text → Except NumberError Nat
  | []        => .error .empty
  | '+' :: cs => readSome max .tooLarge cs
  | cs        => readSome max .tooLarge cs

-- A number that may have a plus or a minus in front, from `-max - 1` up to `max`.
def readInteger (max : Nat) : Text → Except NumberError Int
  | []        => .error .empty
  | '+' :: cs => (readSome max .tooLarge cs).map fun n => n
  | '-' :: cs => (readSome (max + 1) .tooSmall cs).map fun n => -n
  | cs        => (readSome max .tooLarge cs).map fun n => n

end Easel.Options
