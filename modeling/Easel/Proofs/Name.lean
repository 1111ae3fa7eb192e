import Easel.Shape
import Mathlib.Data.List.DropRight

namespace Easel

open Unicode

-- What is left of a text without the blanks at either end. If there is nothing else in the text
-- nothing is left.
structure Text.Trimmed (t core : Text) : Prop where
  split : ∃ before after, t = before ++ core ++ after ∧
    (∀ c ∈ before, isWhiteSpace c) ∧ (∀ c ∈ after, isWhiteSpace c)
  first : ∀ c ∈ core.head?, ¬isWhiteSpace c
  last  : ∀ c ∈ core.getLast?, ¬isWhiteSpace c

namespace Text

theorem dropEndWhile_eq (p : Char → Bool) (t : Text) : dropEndWhile p t = t.rdropWhile p :=
  rfl

theorem Trimmed.trim_eq {t core : Text} (h : Trimmed t core) : t.trim = core := by
  obtain ⟨before, after, rfl, hb, ha⟩ := h.split
  have hr : ∀ c ∈ after.reverse, isWhiteSpace c := by simpa using ha
  rw [trim, List.append_assoc, List.dropWhile_append_of_pos hb, dropEndWhile_eq]
  cases core
  case nil =>
    rw [List.nil_append, List.dropWhile_eq_nil_iff.mpr ha, List.rdropWhile_nil]
  case cons c core =>
    have hc : ¬isWhiteSpace c := h.first c rfl
    have hl : (c :: core).rdropWhile isWhiteSpace = c :: core :=
      List.rdropWhile_eq_self_iff.mpr fun hn => h.last _ (List.getLast?_eq_some_getLast hn)
    rw [List.cons_append, List.dropWhile_cons_of_neg hc, ← List.cons_append, List.rdropWhile,
      List.reverse_append, List.dropWhile_append_of_pos hr]
    exact hl

theorem trimmed_trim (t : Text) : Trimmed t t.trim := by
  have hp : t.trim <+: t.dropWhile isWhiteSpace := List.rdropWhile_prefix _ _
  refine ⟨⟨t.takeWhile isWhiteSpace, (t.dropWhile isWhiteSpace).rtakeWhile isWhiteSpace, ?_, ?_, ?_⟩,
    ?first, ?last⟩
  · rw [List.append_assoc, trim, dropEndWhile_eq, List.rdropWhile_append_rtakeWhile,
      List.takeWhile_append_dropWhile]
  · exact fun c hc => List.mem_takeWhile_imp hc
  · exact fun c hc => List.mem_rtakeWhile_imp hc
  case first =>
    intro c hc
    have hn := List.head?_dropWhile_not isWhiteSpace t
    have ⟨rest, hr⟩ := hp
    have ⟨core, hcore⟩ := List.head?_eq_some_iff.mp hc
    simp [← hr, hcore] at hn
    simp [hn]
  case last =>
    intro c hc
    obtain ⟨hn, rfl⟩ := List.mem_getLast?_eq_getLast hc
    exact List.rdropWhile_last_not _ _ hn

theorem trim_eq_nil_iff {t : Text} : t.trim = [] ↔ ∀ c ∈ t, isWhiteSpace c := by
  constructor
  case mp =>
    intro h
    have ⟨before, after, ht, hb, ha⟩ := (trimmed_trim t).split
    rw [ht, h, List.append_nil]
    exact List.forall_mem_append.mpr ⟨hb, ha⟩
  case mpr =>
    intro h
    exact Trimmed.trim_eq ⟨⟨t, [], by simpa using h⟩, by simp, by simp⟩

end Text

-- The name that a token gives a color.
structure ColorName.Spelled (token : Text) (name : ColorName) : Prop where
  visible : ∃ c ∈ token, ¬isWhiteSpace c
  text    : ∃ core, Text.Trimmed token core ∧ name.text = core.lower

namespace ColorName

variable {token : Text} {name : ColorName}

theorem ofText?_eq_none_iff : ofText? token = none ↔ ∀ c ∈ token, isWhiteSpace c := by
  simp [ofText?, ← Text.trim_eq_nil_iff]

theorem ofText?_eq_some_iff : ofText? token = some name ↔ Spelled token name := by
  have hv : ¬token.trim = [] ↔ ∃ c ∈ token, ¬isWhiteSpace c := by
    simp [Text.trim_eq_nil_iff]
  unfold ofText?
  constructor
  case mp =>
    intro h
    split at h
    case isTrue => contradiction
    case isFalse hn =>
      cases h
      exact ⟨hv.mp hn, _, Text.trimmed_trim token, rfl⟩
  case mpr =>
    intro ⟨h, core, hc, ht⟩
    rw [dif_neg (hv.mpr h), Option.some_inj]
    ext1
    rw [ht, ← hc.trim_eq]
    rfl

theorem exists_spelled (h : ∃ c ∈ token, ¬isWhiteSpace c) : ∃ name, Spelled token name := by
  have hn : ofText? token ≠ none := by
    rw [ne_eq, ofText?_eq_none_iff]
    simpa using h
  have ⟨name, hs⟩ := Option.ne_none_iff_exists'.mp hn
  exact ⟨name, ofText?_eq_some_iff.mp hs⟩

end ColorName
end Easel
