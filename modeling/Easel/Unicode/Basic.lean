namespace Easel.Unicode

-- A property of code points, as the closed ranges on which it holds: ascending and apart.
-- Every table of this folder follows version 17.0 of the standard.
abbrev Ranges := List (Nat × Nat)

namespace Ranges

-- As the ranges ascend, the walk stops at the first one that begins above `n`.
def contains : Ranges → Nat → Bool
  | [], _             => false
  | (lo, hi) :: rs, n => if n < lo then false else if n ≤ hi then true else contains rs n

end Ranges

-- The property White_Space: the 25 characters that count as blank wherever a name is trimmed.
def whiteSpace : Ranges :=
  [(0x0009, 0x000D), (0x0020, 0x0020), (0x0085, 0x0085), (0x00A0, 0x00A0), (0x1680, 0x1680),
   (0x2000, 0x200A), (0x2028, 0x2029), (0x202F, 0x202F), (0x205F, 0x205F), (0x3000, 0x3000)]

def isWhiteSpace (c : Char) : Bool :=
  whiteSpace.contains c.toNat

end Easel.Unicode
