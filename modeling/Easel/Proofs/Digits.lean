import Easel.Color
import Mathlib.Data.List.TakeWhile

namespace Easel

namespace Text

variable {rest rest' : Text}

-- Texts that do not go on with a digit, so that a number that stands before them ends there.
def EndsNumber (t : Text) : Prop :=
  ∀ c ∈ t.head?, ¬c.isDigit

@[simp]
theorem endsNumber_cons {c : Char} : EndsNumber (c :: rest) ↔ ¬c.isDigit := by
  simp [EndsNumber]

theorem endsNumber_append {t : Text} (h : t.head?.any fun c => !c.isDigit) :
    EndsNumber (t ++ rest) := by
  cases t
  case nil       => contradiction
  case cons c t  => simpa using h

theorem takeWhile_ofNat_append (n : Nat) (h : rest.EndsNumber) :
    (ofNat n ++ rest).takeWhile Char.isDigit = ofNat n := by
  have hd : ∀ c ∈ ofNat n, c.isDigit := fun _ =>
    Nat.isDigit_of_mem_toDigits (by decide) (by decide)
  have hr : rest.takeWhile Char.isDigit = [] := by
    cases rest
    case nil         => rfl
    case cons c rest => exact List.takeWhile_cons_of_neg (endsNumber_cons.mp h)
  rw [List.takeWhile_append_of_pos hd, hr, List.append_nil]

theorem ofNat_inj {m n : Nat} (h : ofNat m = ofNat n) : m = n := by
  have hd := congrArg (Nat.ofDigitChars 10 · 0) h
  simpa only [ofNat, Nat.ofDigitChars_ten_toDigits] using hd

theorem ofNat_append_inj {m n : Nat} (h : rest.EndsNumber) (h' : rest'.EndsNumber) :
    ofNat m ++ rest = ofNat n ++ rest' ↔ m = n ∧ rest = rest' := by
  constructor
  case mpr =>
    rintro ⟨rfl, rfl⟩
    rfl
  case mp =>
    intro he
    have ht := congrArg (List.takeWhile Char.isDigit) he
    rw [takeWhile_ofNat_append m h, takeWhile_ofNat_append n h'] at ht
    rw [ht] at he
    exact ⟨ofNat_inj ht, List.append_cancel_left he⟩

theorem ofNat_append_ne {n : Nat} {c : Char} (h : ¬c.isDigit) : ofNat n ++ rest ≠ c :: rest' := by
  have hn : ofNat n ≠ [] := Nat.toDigits_ne_nil
  intro he
  cases hd : ofNat n
  case nil => exact hn hd
  case cons d digits =>
    rw [hd, List.cons_append] at he
    have hm : c ∈ ofNat n := hd ▸ (List.cons.inj he).left ▸ List.mem_cons_self
    exact h (Nat.isDigit_of_mem_toDigits (by decide) (by decide) hm)

theorem ofInt_append_inj {x y : Int} (h : rest.EndsNumber) (h' : rest'.EndsNumber) :
    ofInt x ++ rest = ofInt y ++ rest' ↔ x = y ∧ rest = rest' := by
  have hm {n : Nat} {rest rest' : Text} : ofNat n ++ rest ≠ '-' :: rest' :=
    ofNat_append_ne (by decide)
  cases x <;> cases y
  case ofNat.ofNat     => simp [ofInt, ofNat_append_inj h h', -Int.ofNat_eq_natCast]
  case ofNat.negSucc   => simp [ofInt, hm]
  case negSucc.ofNat   => simp [ofInt, hm.symm]
  case negSucc.negSucc => simp [ofInt, ofNat_append_inj h h']

theorem ofInt_append_ne {x : Int} {c : Char} (h : ¬c.isDigit) (hm : c ≠ '-') :
    ofInt x ++ rest ≠ c :: rest' := by
  cases x
  case ofNat   => exact ofNat_append_ne h
  case negSucc => simp [ofInt, hm.symm]

section

-- What stands between a number and the next one.
variable {t : Text} (h : t.head?.any fun c => !c.isDigit)

include h

theorem ofNat_literal_inj {m n : Nat} :
    ofNat m ++ (t ++ rest) = ofNat n ++ (t ++ rest') ↔ m = n ∧ rest = rest' := by
  rw [ofNat_append_inj (endsNumber_append h) (endsNumber_append h), List.append_cancel_left_eq]

theorem ofInt_literal_inj {x y : Int} :
    ofInt x ++ (t ++ rest) = ofInt y ++ (t ++ rest') ↔ x = y ∧ rest = rest' := by
  rw [ofInt_append_inj (endsNumber_append h) (endsNumber_append h), List.append_cancel_left_eq]

end

end Text

-- The bracket of a color is where it ends.
theorem Color.text_append_inj {color color' : Color} {rest rest' : Text} :
    color.text ++ rest = color'.text ++ rest' ↔ color = color' ∧ rest = rest' := by
  obtain ⟨r, g, b⟩ := color
  obtain ⟨r', g', b'⟩ := color'
  delta text
  simp [Text.ofNat_append_inj, UInt8.toNat_inj, and_assoc]

end Easel
