import Easel.Command.Integer
import Mathlib.Data.List.Induction
import Mathlib.Data.Nat.Digits.Defs

namespace Easel.Command

structure IsDigits (digits : Text) : Prop where
  nonempty : digits ≠ []
  digit    : ∀ c ∈ digits, c.isDigit

-- The number that some digits stand for: the last one counts the ones, the one before it the tens,
-- and so on.
def decimal (digits : Text) : Nat :=
  Nat.ofDigits 10 (digits.reverse.map fun c => c.toNat - '0'.toNat)

inductive Numeral : Text → Int → Prop
  | unsigned : IsDigits digits → Numeral digits (decimal digits)
  | positive : IsDigits digits → Numeral ('+' :: digits) (decimal digits)
  | negative : IsDigits digits → Numeral ('-' :: digits) (-decimal digits)

-- A token that stands for an integer of 32 bits.
structure Literal (token : Text) (v : Int) : Prop where
  numeral : Numeral token v
  lower   : -2147483648 ≤ v
  upper   : v ≤ 2147483647

theorem decimal_append (digits : Text) (c : Char) :
    decimal (digits ++ [c]) = 10 * decimal digits + (c.toNat - '0'.toNat) := by
  simp [decimal, Nat.ofDigits_cons, Nat.add_comm]

-- Digits are read from the left, but count from the right.
theorem ofDigitChars_eq_decimal (digits : Text) : Nat.ofDigitChars 10 digits 0 = decimal digits := by
  induction digits using List.reverseRecOn
  case nil => rfl
  case append_singleton digits c ih =>
    rw [decimal_append, Nat.ofDigitChars_append, ih, Nat.ofDigitChars_cons, Nat.ofDigitChars_nil]

theorem isDigits_iff {digits : Text} :
    IsDigits digits ↔ ¬(digits.isEmpty || !digits.all Char.isDigit) := by
  simp only [Bool.or_eq_true, List.isEmpty_iff, Bool.not_eq_true', not_or, Bool.not_eq_false,
    List.all_eq_true]
  constructor
  case mp  => exact fun ⟨hn, hd⟩ => ⟨hn, hd⟩
  case mpr => exact fun ⟨hn, hd⟩ => ⟨hn, hd⟩

theorem natural?_eq_some_iff {t : Text} {n : Nat} :
    natural? t = some n ↔ IsDigits t ∧ decimal t = n := by
  simp only [natural?, ofDigitChars_eq_decimal, isDigits_iff]
  split
  case isTrue h  => simp [h]
  case isFalse h => simp [h]

theorem IsDigits.head_ne {c : Char} {digits : Text} (h : IsDigits (c :: digits)) :
    c ≠ '+' ∧ c ≠ '-' := by
  have hd := h.digit c List.mem_cons_self
  constructor
  all_goals rintro rfl; contradiction

theorem signed?_eq_some_iff {t : Text} {v : Int} : signed? t = some v ↔ Numeral t v := by
  constructor
  case mp =>
    intro h
    unfold signed? at h
    split at h
    all_goals
      simp [Option.bind_eq_some_iff, natural?_eq_some_iff] at h
      have ⟨hd, rfl⟩ := h
    · exact .negative hd
    · exact .positive hd
    · exact .unsigned hd
  case mpr =>
    intro h
    cases h
    case unsigned h =>
      have ⟨c, digits, hc⟩ := List.exists_cons_of_ne_nil h.nonempty
      subst hc
      have hn := natural?_eq_some_iff.mpr ⟨h, rfl⟩
      simp [signed?, h.head_ne, hn]
    all_goals
      have hn := natural?_eq_some_iff.mpr ⟨‹IsDigits _›, rfl⟩
      simp [signed?, hn]

namespace Literal

variable {token : Text} {v : Int}

theorem toInt_ofInt (h : Literal token v) : (Int32.ofInt v).toInt = v :=
  Int32.toInt_ofInt_of_le h.lower (Int.lt_of_le_sub_one h.upper)

end Literal

theorem integer?_eq_some_iff {token : Text} {v : Int32} :
    integer? token = some v ↔ Literal token v.toInt := by
  simp only [integer?, Option.map_eq_some_iff, Option.filter_eq_some_iff, signed?_eq_some_iff,
    Bool.and_eq_true, decide_eq_true_eq]
  constructor
  case mp =>
    rintro ⟨n, ⟨hn, hl, hu⟩, rfl⟩
    have h : Literal token n := ⟨hn, hl, hu⟩
    rwa [h.toInt_ofInt]
  case mpr => exact fun ⟨hn, hl, hu⟩ => ⟨v.toInt, ⟨hn, hl, hu⟩, v.ofInt_toInt⟩

theorem map_toInt_integer?_eq_some_iff {token : Text} {v : Int} :
    (integer? token).map Int32.toInt = some v ↔ Literal token v := by
  simp only [Option.map_eq_some_iff, integer?_eq_some_iff]
  constructor
  case mp =>
    rintro ⟨_, h, rfl⟩
    exact h
  case mpr =>
    intro h
    exact ⟨.ofInt v, h.toInt_ofInt.symm ▸ h, h.toInt_ofInt⟩

theorem integer?_eq_none_iff {token : Text} : integer? token = none ↔ ∀ v, ¬Literal token v := by
  rw [← Option.map_eq_none_iff (f := Int32.toInt), Option.eq_none_iff_forall_ne_some]
  simp only [ne_eq, map_toInt_integer?_eq_some_iff]

end Easel.Command
