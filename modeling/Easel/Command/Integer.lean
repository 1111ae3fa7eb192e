import Easel.Text

namespace Easel.Command

-- The value of a run of decimal digits, which may not be empty.
def natural? (t : Text) : Option Nat :=
  if t.isEmpty || !t.all Char.isDigit then none else some (Nat.ofDigitChars 10 t 0)

-- The value of a decimal number with at most one sign, whatever its size.
def signed? : Text → Option Int
  | '-' :: digits => (natural? digits).map fun n => -n
  | '+' :: digits => (natural? digits).map fun n => n
  | digits        => (natural? digits).map fun n => n

-- The value of a token that is an integer from one end to the other and fits into 32 bits.
def integer? (token : Text) : Option Int32 :=
  ((signed? token).filter fun v => Int32.minValue.toInt ≤ v && v ≤ Int32.maxValue.toInt).map .ofInt

end Easel.Command
