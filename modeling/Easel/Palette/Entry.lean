import Easel.Palette
import Easel.Unicode.Alphanumeric

namespace Easel.Palette

-- A color that is added to a palette by hand, as in `orange=#ffa500`.
structure Entry where
  name  : Text
  color : Color
  deriving DecidableEq

namespace Entry

open Unicode

def isNameChar (c : Char) : Bool :=
  isAlphanumeric c || c == '_' || c == '-'

def hexDigit? (c : Char) : Option Nat :=
  if '0' ≤ c ∧ c ≤ '9' then some (c.toNat - 48)
  else if 'a' ≤ c ∧ c ≤ 'f' then some (c.toNat - 87)
  else if 'A' ≤ c ∧ c ≤ 'F' then some (c.toNat - 55)
  else none

def hexByte? (high low : Char) : Option UInt8 := do
  let h ← hexDigit? high
  let l ← hexDigit? low
  return UInt8.ofNat (16 * h + l)

-- A color in base sixteen: a number sign, and two digits each for red, green and blue.
def hexColor? : Text → Option Color
  | ['#', r₁, r₀, g₁, g₀, b₁, b₀] => return ⟨← hexByte? r₁ r₀, ← hexByte? g₁ g₀, ← hexByte? b₁ b₀⟩
  | _                             => none

-- A text that is no entry, as it was given: with the blanks around it.
structure Malformed where
  text : Text
  deriving DecidableEq

def Malformed.message (m : Malformed) : Text :=
  "invalid palette entry ".toList ++ m.text.quoted ++ ", expected NAME=#RRGGBB".toList

-- Blanks around an entry do not count. A name runs up to the first character that cannot be part
-- of one, and what follows it is the equals sign and the color, up to the end.
def parse (t : Text) : Except Malformed Entry :=
  let name : Text := t.trim.takeWhile isNameChar
  match name, t.trim.dropWhile isNameChar with
  | _ :: _, '=' :: rest =>
    match hexColor? rest with
    | some color => .ok ⟨name.normal, color⟩
    | none       => .error ⟨t⟩
  | _, _ => .error ⟨t⟩

end Entry

def withEntry (p : Palette) (e : Entry) : Palette :=
  p.withColor e.name e.color

end Easel.Palette
