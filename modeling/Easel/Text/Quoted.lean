import Easel.Text
import Easel.Unicode.GraphemeExtend
import Easel.Unicode.Unprintable

namespace Easel.Text

open Unicode

-- A character by its number: `\u`, and in braces the number in base sixteen.
def codeEscape (c : Char) : Text :=
  ['\\', 'u', '{'] ++ Nat.toDigits 16 c.toNat ++ ['}']

-- How a character is shown between quotes. Characters that would join the one before them, and
-- those that cannot be seen, are shown by their number.
def escape (c : Char) : Text :=
  match c with
  | '"'    => ['\\', '"']
  | '\\'   => ['\\', '\\']
  | '\t'   => ['\\', 't']
  | '\r'   => ['\\', 'r']
  | '\n'   => ['\\', 'n']
  | '\x00' => ['\\', '0']
  | c      => if isJoining c || isDefaultIgnorable c || !isPrintable c then codeEscape c else [c]

def quoted (t : Text) : Text :=
  '"' :: t.flatMap escape ++ ['"']

end Easel.Text
