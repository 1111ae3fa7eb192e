import Easel.Proofs.Name
import Easel.Proofs.Unicode

namespace Easel.Text

open Unicode

-- What a single character becomes in lower case, wherever in a word it stands.
structure Lowered (c : Char) (part : Text) : Prop where
  nonempty : part ≠ []
  lower    : ∀ d ∈ part, IsLower d
  visible  : ¬isWhiteSpace c → ∀ d ∈ part, ¬isWhiteSpace d

theorem Lowered.of_lowercase (c : Char) : Lowered c (lowercase c) where
  nonempty := lowercase_ne_nil c
  lower _  := isLower_of_mem_lowercase
  visible hc _ := not_isWhiteSpace_of_mem_lowercase hc

theorem Lowered.singleton {c d : Char} (hl : IsLower d) (hv : ¬isWhiteSpace d) : Lowered c [d] where
  nonempty  := List.cons_ne_nil _ _
  lower     := List.forall_mem_singleton.mpr hl
  visible _ := List.forall_mem_singleton.mpr hv

theorem Lowered.of_sigma (c : Char) (before after : Text) : Lowered c [sigma before after] := by
  unfold Text.sigma
  split
  case isTrue  => exact .singleton (by decide +kernel) (by decide)
  case isFalse => exact .singleton (by decide +kernel) (by decide)

variable {t core : Text} {parts : List Text}

theorem lowerAfter_eq_flatten (before t : Text) :
    ∃ parts, List.Forall₂ Lowered t parts ∧ lowerAfter before t = parts.flatten := by
  induction t generalizing before
  case nil => exact ⟨[], .nil, rfl⟩
  case cons c t ih =>
    have ⟨parts, hp, he⟩ := ih (c :: before)
    unfold lowerAfter
    split
    case isTrue  => exact ⟨_, .cons (.of_sigma c before t) hp, by rw [he, List.flatten_cons]⟩
    case isFalse => exact ⟨_, .cons (.of_lowercase c) hp, by rw [he, List.flatten_cons]⟩

theorem isLower_of_mem_flatten (h : List.Forall₂ Lowered t parts) :
    ∀ d ∈ parts.flatten, IsLower d := by
  induction h
  case nil => simp
  case cons hl _ ih =>
    rw [List.flatten_cons]
    exact List.forall_mem_append.mpr ⟨hl.lower, ih⟩

theorem head?_flatten (h : List.Forall₂ Lowered t parts) (ht : ∀ c ∈ t.head?, ¬isWhiteSpace c) :
    ∀ d ∈ parts.flatten.head?, ¬isWhiteSpace d := by
  cases h
  case nil => simp
  case cons c t part parts hl _ =>
    intro d hd
    rw [List.flatten_cons, List.head?_append_of_ne_nil _ hl.nonempty] at hd
    exact hl.visible (ht c rfl) d (List.mem_of_head? hd)

theorem getLast?_flatten (h : List.Forall₂ Lowered t parts)
    (ht : ∀ c ∈ t.getLast?, ¬isWhiteSpace c) : ∀ d ∈ parts.flatten.getLast?, ¬isWhiteSpace d := by
  induction h
  case nil => simp
  case cons c part t parts hl hp ih =>
    intro d hd
    rw [List.flatten_cons] at hd
    cases hp
    case nil =>
      rw [List.flatten_nil, List.append_nil] at hd
      exact hl.visible (ht c rfl) d (List.mem_of_getLast? hd)
    case cons hl' hp =>
      rw [List.getLast?_append_of_ne_nil _ (by simp [hl'.nonempty])] at hd
      exact ih (by simpa using ht) d hd

theorem lowerAfter_eq_self (h : ∀ c ∈ t, IsLower c) (before : Text) : lowerAfter before t = t := by
  induction t generalizing before
  case nil => rfl
  case cons c t ih =>
    have ⟨hc, ht⟩ := List.forall_mem_cons.mp h
    rw [lowerAfter, if_neg hc.ne_sigma, hc, ih ht]
    rfl

theorem isLower_of_mem_lower (t : Text) : ∀ c ∈ t.lower, IsLower c := by
  have ⟨_, hp, he⟩ := lowerAfter_eq_flatten [] t
  rw [lower, he]
  exact isLower_of_mem_flatten hp

theorem lower_lower (t : Text) : t.lower.lower = t.lower :=
  lowerAfter_eq_self (isLower_of_mem_lower t) []

theorem Trimmed.of_ends (hf : ∀ c ∈ t.head?, ¬isWhiteSpace c)
    (hl : ∀ c ∈ t.getLast?, ¬isWhiteSpace c) : Trimmed t t :=
  ⟨⟨[], [], by simp, by simp, by simp⟩, hf, hl⟩

-- No blanks come up in lower case, so there is nothing more to be trimmed.
theorem Trimmed.lower (h : Trimmed t core) : Trimmed core.lower core.lower := by
  have ⟨_, hp, he⟩ := lowerAfter_eq_flatten [] core
  rw [Text.lower, he]
  exact .of_ends (head?_flatten hp h.first) (getLast?_flatten hp h.last)

theorem Trimmed.normal_eq (h : Trimmed t core) : t.normal = core.lower := by
  rw [normal, h.trim_eq]

theorem normal_normal (t : Text) : t.normal.normal = t.normal := by
  have h := (trimmed_trim t).lower.normal_eq
  rwa [lower_lower] at h

theorem normal_eq_nil_iff : t.normal = [] ↔ ∀ c ∈ t, isWhiteSpace c :=
  lower_eq_nil_iff.trans trim_eq_nil_iff

-- Blanks around a text change nothing.
theorem normal_surrounded {before after : Text} (hb : ∀ c ∈ before, isWhiteSpace c)
    (ha : ∀ c ∈ after, isWhiteSpace c) (t : Text) : (before ++ t ++ after).normal = t.normal := by
  have ht := trimmed_trim t
  have ⟨b, a, he, hb', ha'⟩ := ht.split
  have hs : Trimmed (before ++ t ++ after) t.trim := by
    refine ⟨⟨before ++ b, a ++ after, ?_, List.forall_mem_append.mpr ⟨hb, hb'⟩,
      List.forall_mem_append.mpr ⟨ha', ha⟩⟩, ht.first, ht.last⟩
    conv_lhs => rw [he]
    simp only [List.append_assoc]
  rw [hs.normal_eq, normal]

theorem trim_map_toLower (t : Text) : trim (t.map Char.toLower) = t.trim.map Char.toLower := by
  have h : isWhiteSpace ∘ Char.toLower = isWhiteSpace := funext isWhiteSpace_toLower
  simp only [trim, dropEndWhile, List.dropWhile_map, ← List.map_reverse, h]

theorem startsCased_map_toLower (t : Text) : startsCased (t.map Char.toLower) = startsCased t := by
  have h : isCaseIgnorable ∘ Char.toLower = isCaseIgnorable := funext isCaseIgnorable_toLower
  simp only [startsCased, List.dropWhile_map, h]
  cases t.dropWhile isCaseIgnorable
  case nil => rfl
  case cons c _ => exact isCased_toLower c

theorem lowerAfter_map_toLower (before t : Text) :
    lowerAfter (before.map Char.toLower) (t.map Char.toLower) = lowerAfter before t := by
  induction t generalizing before
  case nil => rfl
  case cons c t ih =>
    have ih := ih (c :: before)
    simp only [List.map_cons] at ih
    simp only [List.map_cons, lowerAfter, sigma, toLower_eq_sigma_iff, lowercase_toLower,
      startsCased_map_toLower, ih]

theorem normal_map_toLower (t : Text) : normal (t.map Char.toLower) = t.normal := by
  rw [normal, trim_map_toLower]
  exact lowerAfter_map_toLower [] t.trim

theorem normal_eq_of_sameLetters {u : Text} (h : t.sameLetters u) : t.normal = u.normal := by
  rw [← normal_map_toLower t, ← normal_map_toLower u, beq_iff_eq.mp h]

end Easel.Text
