import Easel.Shape

namespace Easel.Kind

-- The spellings of a keyword, up to the case of the letters A to Z.
inductive Spelled : Kind → Text → Prop
  | circle   : t.map Char.toUpper = "CIRCLE".toList → Spelled circle t
  | segment  : t.map Char.toUpper = "SEGMENT".toList → Spelled segment t
  | triangle : t.map Char.toUpper = "TRIANGLE".toList → Spelled triangle t
  | polygon  : t.map Char.toUpper = "POLYGON".toList → Spelled polygon t
  | polygone : t.map Char.toUpper = "POLYGONE".toList → Spelled polygon t

theorem Spelled.unique {k₁ k₂ : Kind} {t : Text} (h₁ : k₁.Spelled t) (h₂ : k₂.Spelled t) :
    k₁ = k₂ := by
  cases h₁ <;> cases h₂ <;> simp_all

theorem isUpper_iff {c : Char} : c.isUpper ↔ 65 ≤ c.toNat ∧ c.toNat ≤ 90 := by
  delta Char.isUpper
  simp [UInt32.le_iff_toNat_le]

theorem toNat_toLower (c : Char) :
    c.toLower.toNat = if 65 ≤ c.toNat ∧ c.toNat ≤ 90 then c.toNat + 32 else c.toNat := by
  delta Char.toLower
  simp only [UInt32.le_iff_toNat_le, ge_iff_le, Char.reduceVal, UInt32.reduceToNat]
  split
  case isTrue h =>
    have hc : c.val.toNat + 32 < 4294967296 := by omega
    simpa [h, ← Char.toNat_val] using hc
  case isFalse h => exact (if_neg h).symm

theorem toNat_toUpper (c : Char) :
    c.toUpper.toNat = if 97 ≤ c.toNat ∧ c.toNat ≤ 122 then c.toNat - 32 else c.toNat := by
  delta Char.toUpper
  simp only [UInt32.le_iff_toNat_le, Char.reduceVal, UInt32.reduceToNat]
  split
  case isTrue h =>
    have hc : (c.val.toNat + 4294967264) % 4294967296 = c.val.toNat - 32 := by omega
    simpa [h, ← Char.toNat_val] using hc
  case isFalse h => exact (if_neg h).symm

-- Two letters that differ in case only have the same capital. The first one is a capital already,
-- so it is the capital of both.
theorem toLower_eq_toLower_iff {c d : Char} (h : c.isUpper) :
    c.toLower = d.toLower ↔ d.toUpper = c := by
  have hc := isUpper_iff.mp h
  simp only [← Char.toNat_inj, toNat_toLower, toNat_toUpper]
  split
  · split <;> split <;> omega
  · omega

theorem sameLetters_iff {t u : Text} (h : ∀ c ∈ t, c.isUpper) :
    t.sameLetters u ↔ u.map Char.toUpper = t := by
  simp only [Text.sameLetters, beq_iff_eq]
  induction t generalizing u
  case nil => simp [eq_comm]
  case cons c t ih =>
    have ⟨hc, ht⟩ := List.forall_mem_cons.mp h
    cases u
    case nil      => simp
    case cons d u => simp [toLower_eq_toLower_iff hc, ih ht]

theorem keyword_isUpper (k : Kind) : ∀ c ∈ k.keyword, c.isUpper := by
  have h : k.keyword.all Char.isUpper := by cases k <;> rfl
  exact List.all_eq_true.mp h

theorem alias_isUpper {k : Kind} {t : Text} (h : t ∈ k.aliases) : ∀ c ∈ t, c.isUpper := by
  cases k <;> simp_all [aliases]

theorem named_iff_capitals {k : Kind} {t : Text} :
    k.named t ↔ t.map Char.toUpper = k.keyword ∨ t.map Char.toUpper ∈ k.aliases := by
  have ha : k.aliases.any (·.sameLetters t) ↔ t.map Char.toUpper ∈ k.aliases := by
    simp only [List.any_eq_true]
    constructor
    case mp =>
      intro ⟨u, hu, hs⟩
      exact (sameLetters_iff (alias_isUpper hu)).mp hs ▸ hu
    case mpr => exact fun h => ⟨_, h, (sameLetters_iff (alias_isUpper h)).mpr rfl⟩
  simp only [named, Bool.or_eq_true, sameLetters_iff k.keyword_isUpper, ha]

theorem named_iff {k : Kind} {t : Text} : k.named t ↔ k.Spelled t := by
  rw [named_iff_capitals]
  constructor
  case mp =>
    cases k
    all_goals
      unfold keyword aliases
      simp only [List.not_mem_nil, List.mem_singleton, or_false]
    case circle   => exact .circle
    case segment  => exact .segment
    case triangle => exact .triangle
    case polygon  => exact (Or.elim · .polygon .polygone)
  case mpr =>
    intro h
    cases h
    case polygone h => exact .inr (List.mem_singleton.mpr h)
    all_goals exact .inl ‹_›

end Easel.Kind
