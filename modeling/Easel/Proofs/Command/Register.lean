import Easel.Proofs.Command.Numeral
import Mathlib.Data.List.TakeWhile

namespace Easel.Command

-- What a register of 32 bits can hold.
def Fits (v : Int) : Prop :=
  -2147483648 ≤ v ∧ v ≤ 2147483647

instance : DecidablePred Fits :=
  fun v => inferInstanceAs (Decidable (-2147483648 ≤ v ∧ v ≤ 2147483647))

theorem literal_iff {t : Text} {v : Int} : Literal t v ↔ Numeral t v ∧ Fits v where
  mp h  := ⟨h.numeral, h.lower, h.upper⟩
  mpr h := ⟨h.left, h.right.left, h.right.right⟩

-- A number that is made up of its size and its sign.
def signed (negative : Bool) (n : Nat) : Int :=
  if negative then -n else n

theorem Fits.of_le {negative : Bool} {m n : Nat} (h : m ≤ n) (hn : Fits (signed negative n)) :
    Fits (signed negative m) := by
  unfold Fits signed at *
  cases negative
  all_goals
    simp only [if_true, Bool.false_eq_true, if_false] at hn ⊢
    omega

abbrev Register := BitVec 32

namespace Register

-- Operations that have no result where it would not fit.
def mul? (v w : Register) : Option Register :=
  if v.smulOverflow w then none else some (v * w)

def add? (v w : Register) : Option Register :=
  if v.saddOverflow w then none else some (v + w)

def sub? (v w : Register) : Option Register :=
  if v.ssubOverflow w then none else some (v - w)

def digit (c : Char) : Register :=
  .ofInt 32 ↑(c.toNat - '0'.toNat)

-- One more digit. Below zero it is subtracted: there is one number more below zero than above, so
-- the digits of the least one cannot be added up first.
def push? (negative : Bool) (w : Register) (c : Char) : Option Register := do
  let tens ← mul? w 10
  if negative then sub? tens (digit c) else add? tens (digit c)

def pushAll? (negative : Bool) (w : Register) (digits : Text) : Option Register :=
  digits.foldlM (push? negative) w

def ofNumeral? : Text → Option Register
  | '-' :: digits => pushAll? true 0 digits
  | '+' :: digits => pushAll? false 0 digits
  | digits        => pushAll? false 0 digits

-- The sign at the beginning of a text, if there is one, and the rest of it.
def splitSign : Text → Text × Text
  | '+' :: rest => (['+'], rest)
  | '-' :: rest => (['-'], rest)
  | rest        => ([], rest)

-- The longest part at the beginning of a text that looks like a number, and the rest of it.
def splitNumeral? (t : Text) : Option (Text × Text) :=
  let (sign, rest) := splitSign t
  let digits := rest.takeWhile Char.isDigit
  if digits.isEmpty then none else some (sign ++ digits, rest.dropWhile Char.isDigit)

-- Reads a token as a machine does: it looks for the end of the number, works off the digits in a
-- register, and has a look at last at what there is behind the number.
def read? (token : Text) : Option Register := do
  let (numeral, rest) ← splitNumeral? token
  let w ← ofNumeral? numeral
  if rest.isEmpty then some w else none

variable {u v w : Register} {c : Char} {digits t : Text} {negative : Bool} {n : Nat}

theorem fits_toInt (w : Register) : Fits w.toInt :=
  ⟨w.le_toInt, Int.le_of_lt_add_one w.toInt_lt⟩

theorem toInt_ofInt {x : Int} (h : Fits x) : (BitVec.ofInt 32 x).toInt = x := by
  have ⟨hl, hu⟩ := h
  rw [BitVec.toInt_ofInt]
  exact Int.bmod_eq_of_le (by omega) (by omega)

theorem some_eq_some_iff {x : Int} (hw : w.toInt = x) :
    some w = some u ↔ Fits x ∧ u.toInt = x := by
  rw [Option.some_inj, ← BitVec.toInt_inj, hw, eq_comm]
  exact (and_iff_right (hw ▸ fits_toInt w)).symm

-- Whether there is a result, and what it stands for.
theorem result_eq_some_iff {overflow : Bool} {x : Int} (ho : overflow ↔ ¬Fits x)
    (hw : ¬overflow → w.toInt = x) :
    (if overflow then none else some w) = some u ↔ Fits x ∧ u.toInt = x := by
  cases overflow
  case true  => simpa using fun h => (ho.mp rfl h).elim
  case false =>
    rw [if_neg nofun]
    exact some_eq_some_iff (hw nofun)

theorem mul?_eq_some_iff :
    mul? v w = some u ↔ Fits (v.toInt * w.toInt) ∧ u.toInt = v.toInt * w.toInt := by
  refine result_eq_some_iff ?_ BitVec.toInt_mul_of_not_smulOverflow
  simp only [BitVec.smulOverflow, Bool.or_eq_true, decide_eq_true_iff, Fits]
  omega

theorem add?_eq_some_iff :
    add? v w = some u ↔ Fits (v.toInt + w.toInt) ∧ u.toInt = v.toInt + w.toInt := by
  refine result_eq_some_iff ?_ BitVec.toInt_add_of_not_saddOverflow
  simp only [BitVec.saddOverflow, Bool.or_eq_true, decide_eq_true_iff, Fits]
  omega

theorem sub?_eq_some_iff :
    sub? v w = some u ↔ Fits (v.toInt - w.toInt) ∧ u.toInt = v.toInt - w.toInt := by
  refine result_eq_some_iff ?_ BitVec.toInt_sub_of_not_ssubOverflow
  simp only [BitVec.ssubOverflow, Bool.or_eq_true, decide_eq_true_iff, Fits]
  omega

theorem toInt_digit (h : c.isDigit) : (digit c).toInt = (c.toNat - '0'.toNat : Nat) := by
  have hc : c.toNat ≤ '9'.toNat := by
    simp only [Char.isDigit, Bool.and_eq_true, decide_eq_true_iff, UInt32.le_iff_toNat_le] at h
    exact h.right
  refine toInt_ofInt ⟨by omega, ?_⟩
  simp only [Char.reduceToNat] at hc ⊢
  omega

-- If the number with one digit more fits, so does the one with a zero in its place.
theorem push?_eq_some_iff (hw : w.toInt = signed negative n) (hc : c.isDigit) :
    push? negative w c = some u ↔
      Fits (signed negative (10 * n + (c.toNat - '0'.toNat))) ∧
        u.toInt = signed negative (10 * n + (c.toNat - '0'.toNat)) := by
  have hd := toInt_digit hc
  generalize c.toNat - '0'.toNat = d at hd ⊢
  have hf : Fits (signed negative (10 * n + d)) → Fits (signed negative n * 10) := by
    unfold Fits signed
    split <;> omega
  have hs {tens : Register} (ht : tens.toInt = signed negative n * 10) :
      (if negative then sub? tens (digit c) else add? tens (digit c)) = some u ↔
        Fits (signed negative (10 * n + d)) ∧ u.toInt = signed negative (10 * n + d) := by
    cases negative
    case true =>
      have he : tens.toInt - d = signed true (10 * n + d) := by
        simp only [ht, signed, if_true]
        omega
      rw [if_pos rfl, sub?_eq_some_iff, hd, he]
    case false =>
      have he : tens.toInt + d = signed false (10 * n + d) := by
        simp only [ht, signed, Bool.false_eq_true, if_false]
        omega
      rw [if_neg nofun, add?_eq_some_iff, hd, he]
  have ht : BitVec.toInt (10 : Register) = 10 := by decide
  simp only [push?, Option.bind_eq_bind, Option.bind_eq_some_iff, mul?_eq_some_iff, hw, ht]
  constructor
  case mp  => exact fun ⟨tens, ⟨_, ht⟩, h⟩ => (hs ht).mp h
  case mpr =>
    intro h
    have ht := toInt_ofInt (hf h.left)
    exact ⟨_, ⟨hf h.left, ht⟩, (hs ht).mpr h⟩

theorem le_ofDigitChars (digits : Text) (n : Nat) : n ≤ Nat.ofDigitChars 10 digits n := by
  induction digits generalizing n
  case nil => exact Nat.le_refl n
  case cons c digits ih =>
    rw [Nat.ofDigitChars_cons]
    have := ih (10 * n + (c.toNat - '0'.toNat))
    omega

-- No digit makes up for those before it: a number that does not fit gets no smaller.
theorem pushAll?_eq_some_iff (hw : w.toInt = signed negative n) (hd : ∀ c ∈ digits, c.isDigit) :
    pushAll? negative w digits = some u ↔
      Fits (signed negative (Nat.ofDigitChars 10 digits n)) ∧
        u.toInt = signed negative (Nat.ofDigitChars 10 digits n) := by
  induction digits generalizing w n
  case nil => exact some_eq_some_iff hw
  case cons c digits ih =>
    have ⟨hc, hd⟩ := List.forall_mem_cons.mp hd
    have hp : pushAll? negative w (c :: digits) =
        (push? negative w c).bind (pushAll? negative · digits) := List.foldlM_cons
    simp only [hp, Option.bind_eq_some_iff, push?_eq_some_iff hw hc, Nat.ofDigitChars_cons]
    constructor
    case mp  => exact fun ⟨v, ⟨_, hv⟩, h⟩ => (ih hv hd).mp h
    case mpr =>
      intro h
      have hf := h.left.of_le (le_ofDigitChars digits _)
      have hv := toInt_ofInt hf
      exact ⟨_, ⟨hf, hv⟩, (ih hv hd).mpr h⟩

theorem ofNumeral?_eq_some_iff {v : Int} (h : Numeral t v) :
    ofNumeral? t = some w ↔ Fits v ∧ w.toInt = v := by
  have h₀ (negative : Bool) : BitVec.toInt (0 : Register) = signed negative 0 := by
    cases negative <;> decide
  have hp (negative : Bool) {digits : Text} (hd : IsDigits digits) :
      pushAll? negative 0 digits = some w ↔
        Fits (signed negative (decimal digits)) ∧ w.toInt = signed negative (decimal digits) := by
    rw [pushAll?_eq_some_iff (h₀ negative) hd.digit, ofDigitChars_eq_decimal]
  cases h
  case negative digits hd => exact hp true hd
  case positive digits hd => exact hp false hd
  case unsigned hd =>
    have ⟨c, digits, hc⟩ := List.exists_cons_of_ne_nil hd.nonempty
    subst hc
    have ⟨h₁, h₂⟩ := hd.head_ne
    have ho : ofNumeral? (c :: digits) = pushAll? false 0 (c :: digits) := by
      simp [ofNumeral?, h₁, h₂]
    exact ho ▸ hp false hd

theorem splitSign_append (t : Text) : (splitSign t).1 ++ (splitSign t).2 = t := by
  unfold splitSign
  split <;> rfl

theorem exists_numeral_iff : (∃ v, Numeral t v) ↔ IsDigits (splitSign t).2 := by
  constructor
  case mp =>
    rintro ⟨v, h⟩
    cases h
    case positive hd => exact hd
    case negative hd => exact hd
    case unsigned hd =>
      have ⟨c, digits, hc⟩ := List.exists_cons_of_ne_nil hd.nonempty
      subst hc
      have ⟨h₁, h₂⟩ := hd.head_ne
      simpa [splitSign, h₁, h₂] using hd
  case mpr =>
    intro h
    unfold splitSign at h
    split at h
    · exact ⟨_, .positive h⟩
    · exact ⟨_, .negative h⟩
    · exact ⟨_, .unsigned h⟩

-- Nothing stands behind a number if all of the text is one.
theorem splitNumeral?_eq_some_nil_iff {numeral : Text} :
    splitNumeral? t = some (numeral, []) ↔ numeral = t ∧ ∃ v, Numeral t v := by
  have ht := splitSign_append t
  rw [exists_numeral_iff]
  simp only [splitNumeral?]
  generalize (splitSign t).1 = sign, (splitSign t).2 = rest at ht ⊢
  subst ht
  constructor
  case mp =>
    intro h
    split at h
    case isTrue => contradiction
    case isFalse hn =>
      have ⟨hs, hr⟩ := Prod.mk.inj (Option.some.inj h)
      have hd := List.dropWhile_eq_nil_iff.mp hr
      rw [List.takeWhile_eq_self_iff.mpr hd] at hs hn
      exact ⟨hs.symm, by simpa using hn, hd⟩
  case mpr =>
    rintro ⟨rfl, hn, hd⟩
    rw [List.takeWhile_eq_self_iff.mpr hd, List.dropWhile_eq_nil_iff.mpr hd]
    simp [hn]

theorem read?_eq_some_iff : read? t = some w ↔ Literal t w.toInt := by
  have hr : read? t = some w ↔ (∃ v, Numeral t v) ∧ ofNumeral? t = some w := by
    simp only [read?, Option.bind_eq_bind, Option.bind_eq_some_iff, Prod.exists]
    constructor
    case mp =>
      rintro ⟨numeral, rest, hs, v, hv, h⟩
      split at h
      case isFalse => contradiction
      case isTrue he =>
        cases h
        obtain rfl := List.isEmpty_iff.mp he
        obtain ⟨rfl, hn⟩ := splitNumeral?_eq_some_nil_iff.mp hs
        exact ⟨hn, hv⟩
    case mpr =>
      intro ⟨hn, hv⟩
      exact ⟨t, [], splitNumeral?_eq_some_nil_iff.mpr ⟨rfl, hn⟩, w, hv, rfl⟩
  rw [hr, literal_iff]
  constructor
  case mp =>
    rintro ⟨⟨v, hn⟩, ho⟩
    obtain ⟨hf, rfl⟩ := (ofNumeral?_eq_some_iff hn).mp ho
    exact ⟨hn, hf⟩
  case mpr => exact fun ⟨hn, hf⟩ => ⟨⟨_, hn⟩, (ofNumeral?_eq_some_iff hn).mpr ⟨hf, rfl⟩⟩

theorem map_ofBitVec_read? (t : Text) : (read? t).map Int32.ofBitVec = integer? t := by
  refine Option.ext fun v => ?_
  rw [integer?_eq_some_iff, Option.map_eq_some_iff]
  constructor
  case mp =>
    rintro ⟨w, hw, rfl⟩
    exact read?_eq_some_iff.mp hw
  case mpr => exact fun h => ⟨v.toBitVec, read?_eq_some_iff.mpr h, rfl⟩

end Register

theorem Numeral.unique {t : Text} {u v : Int} (h : Numeral t u) (h' : Numeral t v) : u = v :=
  Option.some.inj ((signed?_eq_some_iff.mpr h).symm.trans (signed?_eq_some_iff.mpr h'))

theorem integer?_of_numeral {t : Text} {v : Int} (h : Numeral t v) :
    (integer? t).map Int32.toInt = if Fits v then some v else none := by
  split
  case isTrue hf  => exact map_toInt_integer?_eq_some_iff.mpr (literal_iff.mpr ⟨h, hf⟩)
  case isFalse hf =>
    rw [Option.map_eq_none_iff, integer?_eq_none_iff]
    intro u hu
    have ⟨hu, hf'⟩ := literal_iff.mp hu
    exact hf (hu.unique h ▸ hf')

-- A number with some zeros in front of its digits.
def padded (zeros n : Nat) : Text :=
  List.replicate zeros '0' ++ Text.ofNat n

theorem isDigits_padded (zeros n : Nat) : IsDigits (padded zeros n) where
  nonempty := List.append_ne_nil_of_right_ne_nil _ Nat.toDigits_ne_nil
  digit c hc := by
    rcases List.mem_append.mp hc with hc | hc
    · exact List.eq_of_mem_replicate hc ▸ rfl
    · exact Nat.isDigit_of_mem_toDigits (by decide) (by decide) hc

theorem decimal_padded (zeros n : Nat) : decimal (padded zeros n) = n := by
  have hz : Nat.ofDigitChars 10 (List.replicate zeros '0') 0 = 0 := by
    induction zeros
    case zero         => rfl
    case succ zeros ih => exact ih
  rw [← ofDigitChars_eq_decimal, padded, Nat.ofDigitChars_append, hz]
  exact Nat.ofDigitChars_ten_toDigits

theorem integer?_ofInt (v : Int) :
    (integer? (Text.ofInt v)).map Int32.toInt = if Fits v then some v else none := by
  cases v
  case ofNat n   =>
    have h := Numeral.unsigned (isDigits_padded 0 n)
    rw [decimal_padded] at h
    exact integer?_of_numeral h
  case negSucc n =>
    have h := Numeral.negative (isDigits_padded 0 (n + 1))
    rw [decimal_padded] at h
    exact integer?_of_numeral h

-- A token is an integer if all of it is a number that fits into 32 bits, and it stands for the
-- number that it spells. A machine that reads it digit by digit, in a register of that size, comes
-- to the same: it never misses that a digit was too much. So every integer can be sent as it is
-- printed, with zeros in front of it, and with a plus.
theorem integer?_reads_numerals :
    (∀ (t : Text) (v : Int), (integer? t).map Int32.toInt = some v ↔
      Numeral t v ∧ -2147483648 ≤ v ∧ v ≤ 2147483647) ∧
    (∀ t : Text, integer? t = none ↔
      ∀ v, Numeral t v → v < -2147483648 ∨ 2147483647 < v) ∧
    (∀ t : Text, (Register.read? t).map Int32.ofBitVec = integer? t) ∧
    (∀ zeros n : Nat,
      (integer? (padded zeros n)).map Int32.toInt =
        (if n ≤ 2147483647 then some (n : Int) else none) ∧
      (integer? ('+' :: padded zeros n)).map Int32.toInt =
        (if n ≤ 2147483647 then some (n : Int) else none) ∧
      (integer? ('-' :: padded zeros n)).map Int32.toInt =
        (if n ≤ 2147483648 then some (-n : Int) else none)) ∧
    ∀ v : Int, (integer? (Text.ofInt v)).map Int32.toInt =
      if -2147483648 ≤ v ∧ v ≤ 2147483647 then some v else none := by
  refine ⟨fun t v => map_toInt_integer?_eq_some_iff.trans literal_iff, ?none,
    Register.map_ofBitVec_read?, ?padded, integer?_ofInt⟩
  case none =>
    intro t
    simp only [integer?_eq_none_iff, literal_iff, Fits]
    refine forall_congr' fun v => ?_
    rw [not_and, not_and_or, Int.not_le, Int.not_le]
  case padded =>
    intro zeros n
    have hd := isDigits_padded zeros n
    have hu := integer?_of_numeral (.unsigned hd)
    have hp := integer?_of_numeral (.positive hd)
    have hm := integer?_of_numeral (.negative hd)
    have hf : Fits n ↔ n ≤ 2147483647 := by
      unfold Fits
      omega
    have hf' : Fits (-n) ↔ n ≤ 2147483648 := by
      unfold Fits
      omega
    simp only [decimal_padded, hf, hf'] at hu hp hm
    exact ⟨hu, hp, hm⟩

-- Tokens that are no integers, each for a reason of its own.
example : ∀ t ∈ ["", "+", "+-1", "--1", "1.0", "\u0663", "1\u00a0", "2147483648", "-0002147483649"],
    integer? t.toList = none := by
  decide

end Easel.Command
