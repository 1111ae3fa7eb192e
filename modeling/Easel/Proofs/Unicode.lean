import Easel.Proofs.Keyword
import Easel.Unicode.Alphanumeric
import Mathlib.Data.List.Basic

namespace Easel.Unicode

theorem Ranges.exists_of_contains {rs : Ranges} {n : Nat} (h : rs.contains n) :
    ∃ r ∈ rs, r.fst ≤ n ∧ n ≤ r.snd := by
  induction rs
  case nil => contradiction
  case cons r rs ih =>
    unfold contains at h
    split at h
    case isTrue => contradiction
    case isFalse hl =>
      split at h
      case isTrue hr => exact ⟨r, List.mem_cons_self, by omega, hr⟩
      case isFalse =>
        have ⟨r, hm, hr⟩ := ih h
        exact ⟨r, List.mem_cons_of_mem _ hm, hr⟩

theorem not_isAlphanumeric_of_isWhiteSpace {c : Char} (h : isWhiteSpace c) : ¬isAlphanumeric c := by
  have hb : ∀ r ∈ whiteSpace, ∀ n ∈ List.range' r.fst (r.snd + 1 - r.fst),
    ¬alphanumeric.contains n := by decide +kernel
  have ⟨r, hm, hr⟩ := Ranges.exists_of_contains h
  exact hb r hm c.toNat (List.mem_range'_1.mpr (by omega))

namespace CaseRun

-- The lower case of a run: code points that have none of their own.
def image (r : CaseRun) : CaseRun :=
  ⟨r.apply r.first, r.apply r.last, r.stride, 0⟩

-- Two runs have no code point in common if one of them ends before the other begins. In between
-- that is so as well if both take every second code point, and these take turns.
def apart (r s : CaseRun) : Bool :=
  r.last.blt s.first || s.last.blt r.first ||
    (r.first == r.last || r.stride == 2) && s.stride == 2 && (r.first + s.first) % 2 == 1

-- All the code points from `lo` to `hi`.
def block (lo hi : Nat) : CaseRun :=
  ⟨lo, hi, 1, 0⟩

theorem covers_iff {r : CaseRun} {n : Nat} :
    r.covers n ↔ r.first ≤ n ∧ n ≤ r.last ∧ (n - r.first) % r.stride = 0 := by
  simp [covers, and_assoc]

theorem covers_block_iff {lo hi n : Nat} : (block lo hi).covers n ↔ lo ≤ n ∧ n ≤ hi := by
  simp [covers_iff, block, Nat.mod_one]

theorem not_covers_of_apart {r s : CaseRun} {n : Nat} (h : r.apart s) (hr : r.covers n) :
    ¬s.covers n := by
  rw [covers_iff] at hr ⊢
  simp only [apart, Bool.or_eq_true, Bool.and_eq_true, Nat.blt_eq, beq_iff_eq] at h
  rintro ⟨hf, hl, hs⟩
  rcases h with (h | h) | ⟨⟨h | h, h₂⟩, ht⟩
  · omega
  · omega
  · rw [h₂] at hs
    omega
  · rw [h₂] at hs
    rw [h] at hr
    omega

theorem covers_image {r : CaseRun} {n : Nat} (h : 0 ≤ r.first + r.shift) (hn : r.covers n) :
    r.image.covers (r.apply n) := by
  have ⟨hf, hl, hs⟩ := covers_iff.mp hn
  have hd : (n + r.shift).toNat - (r.first + r.shift).toNat = n - r.first := by omega
  refine covers_iff.mpr ⟨?_, ?_, ?_⟩ <;> simp only [image, apply]
  · omega
  · omega
  · rw [hd, hs]

end CaseRun

theorem toNat_ofNat {n : Nat} (h : n.isValidChar) : (Char.ofNat n).toNat = n := by
  rw [Char.ofNat, dif_pos h]
  rfl

-- No code point like these is the lower case of another one: those that have a lower case, the
-- surrogates, and the blanks.
def notLower : List CaseRun :=
  lowercaseRuns ++ .block 0x0130 0x0130 :: .block 0xD800 0xDFFF ::
    whiteSpace.map fun r => .block r.fst r.snd

-- A code point that stays as it is in lower case, and is no blank.
def Settled (n : Nat) : Prop :=
  ∀ r ∈ notLower, ¬r.covers n

instance : DecidablePred Settled :=
  fun n => inferInstanceAs (Decidable (∀ r ∈ notLower, ¬r.covers n))

-- Runs are compared as a whole. To look up each of their code points would take far longer.
theorem image_apart : lowercaseRuns.all fun r => notLower.all r.image.apart := by
  decide +kernel

theorem image_bounded :
    ∀ r ∈ lowercaseRuns, 0 ≤ r.first + r.shift ∧ r.image.last < 0x110000 := by
  decide +kernel

theorem settled_apply {r : CaseRun} {n : Nat} (hr : r ∈ lowercaseRuns) (hn : r.covers n) :
    Settled (r.apply n) := by
  intro s hs
  have ha := List.all_eq_true.mp (List.all_eq_true.mp image_apart r hr) s hs
  exact CaseRun.not_covers_of_apart ha (CaseRun.covers_image (image_bounded r hr).left hn)

theorem isValidChar_apply {r : CaseRun} {n : Nat} (hr : r ∈ lowercaseRuns) (hn : r.covers n) :
    (r.apply n).isValidChar := by
  have ⟨hb, hl⟩ := image_bounded r hr
  have hi := CaseRun.covers_image hb hn
  have hs := settled_apply hr hn (.block 0xD800 0xDFFF) (by simp [notLower])
  rw [CaseRun.covers_iff] at hi
  rw [CaseRun.covers_block_iff] at hs
  simp only [Nat.isValidChar]
  omega

theorem lowercaseIn_eq_self {runs : List CaseRun} {n : Nat} (h : ∀ r ∈ runs, ¬r.covers n) :
    lowercaseIn runs n = n := by
  induction runs
  case nil => rfl
  case cons r rs ih =>
    have ⟨hr, hrs⟩ := List.forall_mem_cons.mp h
    simp [lowercaseIn, hr, ih hrs]

theorem lowercaseIn_eq_self_or (runs : List CaseRun) (n : Nat) :
    lowercaseIn runs n = n ∨ ∃ r ∈ runs, r.covers n ∧ lowercaseIn runs n = r.apply n := by
  induction runs
  case nil => exact .inl rfl
  case cons r rs ih =>
    unfold lowercaseIn
    split
    case isTrue => exact .inl rfl
    case isFalse =>
      split
      case isTrue hr => exact .inr ⟨r, List.mem_cons_self, hr, rfl⟩
      case isFalse =>
        exact ih.imp_right fun ⟨r, hm, hr⟩ => ⟨r, List.mem_cons_of_mem _ hm, hr⟩

-- A character that is its own lower case.
def IsLower (c : Char) : Prop :=
  lowercase c = [c]

instance : DecidablePred IsLower :=
  fun c => inferInstanceAs (Decidable (lowercase c = [c]))

-- The sigma has a lower case, so it is not among these characters.
theorem IsLower.ne_sigma {c : Char} (h : IsLower c) : c ≠ 'Σ' := by
  rintro rfl
  have hn : ¬IsLower 'Σ' := by decide +kernel
  exact hn h

theorem isLower_of_settled {c : Char} (h : Settled c.toNat) : IsLower c := by
  have hi : c ≠ '\u0130' := by
    rintro rfl
    exact h (.block 0x0130 0x0130) (by simp [notLower]) (by decide)
  have hl := lowercaseIn_eq_self fun r hr => h r (List.mem_append_left _ hr)
  rw [IsLower, lowercase, if_neg hi, hl, Char.ofNat_toNat]

theorem not_isWhiteSpace_of_settled {c : Char} (h : Settled c.toNat) : ¬isWhiteSpace c := by
  intro hc
  have ⟨r, hm, hr⟩ := Ranges.exists_of_contains hc
  refine h (.block r.fst r.snd) ?_ (CaseRun.covers_block_iff.mpr hr)
  simp only [notLower, List.mem_append, List.mem_cons, List.mem_map]
  exact .inr (.inr (.inr ⟨r, hm, rfl⟩))

theorem settled_of_mem_lowercase {c d : Char} (hc : lowercase c ≠ [c]) (h : d ∈ lowercase c) :
    Settled d.toNat := by
  unfold lowercase at hc h
  split at h
  case isTrue =>
    have hi : Settled 'i'.toNat := by decide +kernel
    have hd : Settled '\u0307'.toNat := by decide +kernel
    rcases List.mem_pair.mp h with rfl | rfl
    · exact hi
    · exact hd
  case isFalse hi =>
    rw [if_neg hi] at hc
    rcases lowercaseIn_eq_self_or lowercaseRuns c.toNat with he | ⟨r, hr, hn, he⟩
    · simp [he] at hc
    · rw [List.mem_singleton.mp h, he, toNat_ofNat (isValidChar_apply hr hn)]
      exact settled_apply hr hn

theorem isLower_of_mem_lowercase {c d : Char} (h : d ∈ lowercase c) : IsLower d := by
  by_cases hc : lowercase c = [c]
  case pos =>
    have hd : d ∈ [c] := hc ▸ h
    rwa [List.mem_singleton.mp hd]
  case neg => exact isLower_of_settled (settled_of_mem_lowercase hc h)

theorem not_isWhiteSpace_of_mem_lowercase {c d : Char} (hc : ¬isWhiteSpace c)
    (h : d ∈ lowercase c) : ¬isWhiteSpace d := by
  by_cases hl : lowercase c = [c]
  case pos =>
    have hd : d ∈ [c] := hl ▸ h
    rwa [List.mem_singleton.mp hd]
  case neg => exact not_isWhiteSpace_of_settled (settled_of_mem_lowercase hl h)

-- Whatever is the same for both cases of the letters A to Z is so for all characters, as the others
-- stay as they are.
theorem apply_toLower {α : Type} {f : Char → α}
    (h : ∀ n ∈ List.range' 65 26, f (Char.ofNat n).toLower = f (Char.ofNat n)) (c : Char) :
    f c.toLower = f c := by
  by_cases hc : 65 ≤ c.toNat ∧ c.toNat ≤ 90
  case pos =>
    have hm : c.toNat ∈ List.range' 65 26 := List.mem_range'_1.mpr ⟨hc.left, by omega⟩
    simpa only [Char.ofNat_toNat] using h c.toNat hm
  case neg =>
    have ht : c.toLower = c := Char.toNat_inj.mp (by rw [Kind.toNat_toLower, if_neg hc])
    rw [ht]

theorem isWhiteSpace_toLower (c : Char) : isWhiteSpace c.toLower = isWhiteSpace c :=
  apply_toLower (by decide) c

theorem isCased_toLower (c : Char) : isCased c.toLower = isCased c :=
  apply_toLower (by decide) c

theorem isCaseIgnorable_toLower (c : Char) : isCaseIgnorable c.toLower = isCaseIgnorable c :=
  apply_toLower (by decide) c

theorem lowercase_toLower (c : Char) : lowercase c.toLower = lowercase c :=
  apply_toLower (by decide) c

theorem toLower_eq_sigma_iff (c : Char) : c.toLower = 'Σ' ↔ c = 'Σ' := by
  simpa using apply_toLower (f := (decide <| · = 'Σ')) (by decide) c

end Easel.Unicode
