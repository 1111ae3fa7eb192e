import Easel.Proofs.Command.Token
import Mathlib.Data.List.DropRight

namespace Easel.Command

-- The characters that words stand apart by.
def separators : Text :=
  [' ', '\t', '\r', '\n']

-- Words, and the gaps around them. No two words touch, but there may be nothing in front of the
-- first one, and nothing behind the last one.
structure Spacing where
  lead    : Text
  parts   : List (Text × Text)
  leading : IsGap lead
  solid   : ∀ p ∈ parts, IsWord p.1
  hollow  : ∀ p ∈ parts, IsGap p.2
  apart   : ∀ p ∈ parts.dropLast, p.2 ≠ []

-- The line in which each word is followed by its gap.
def Spacing.line (s : Spacing) : Text :=
  s.lead ++ s.parts.flatMap fun (word, gap) => word ++ gap

def Spacing.words (s : Spacing) : List Text :=
  s.parts.map Prod.fst

-- A character that has `a` in front of it and `b` behind it is in the middle of a token, which goes
-- on to both sides up to a separator or to the end of the line.
inductive InToken : Text → Char → Text → Prop
  | intro : (∀ d ∈ before.getLast?, d ∈ separators) → (∀ d ∈ after.head?, d ∈ separators) →
      tokens (before ++ u ++ c :: (v ++ after)) = tokens before ++ (u ++ c :: v) :: tokens after →
      InToken (before ++ u) c (v ++ after)

instance : DecidablePred IsGap :=
  fun gap => gap.decidableBAll (isSeparator ·)

instance : DecidablePred IsWord := fun word =>
  have : Decidable (∀ c ∈ word, ¬isSeparator c) := word.decidableBAll _
  decidable_of_iff (word ≠ [] ∧ ∀ c ∈ word, ¬isSeparator c)
    ⟨fun ⟨hn, hs⟩ => ⟨hn, hs⟩, fun ⟨hn, hs⟩ => ⟨hn, hs⟩⟩

theorem isSeparator_iff {c : Char} : isSeparator c ↔ c ∈ separators := by
  simp [isSeparator, separators, or_assoc]

theorem IsWord.forall_mem_head? {word : Text} (hw : IsWord word) (rest : Text) :
    ∀ c ∈ (word ++ rest).head?, ¬isSeparator c := by
  intro c hc
  rw [List.head?_append_of_ne_nil _ hw.nonempty] at hc
  exact hw.solid c (List.mem_of_mem_head? hc)

theorem forall_mem_dropLast_cons {α : Type} {p : α → Prop} {a : α} {l : List α} :
    (∀ b ∈ (a :: l).dropLast, p b) ↔ (l ≠ [] → p a) ∧ ∀ b ∈ l.dropLast, p b := by
  cases l <;> simp

namespace Spacing

-- A word may end where the line begins, unless the line begins with a word itself.
theorem forall_mem_head?_line (s : Spacing) :
    (∀ c ∈ s.line.head?, isSeparator c) ↔ (s.parts ≠ [] → s.lead ≠ []) := by
  obtain ⟨lead, parts, hl, hw, hg, ha⟩ := s
  cases lead
  case cons c lead =>
    have hc : isSeparator c := hl c List.mem_cons_self
    simp [line, hc]
  case nil =>
    cases parts
    case nil => simp [line]
    case cons part parts =>
      obtain ⟨word, gap⟩ := part
      have ⟨hn, hs⟩ := hw (word, gap) List.mem_cons_self
      obtain ⟨c, word, rfl⟩ := List.exists_cons_of_ne_nil hn
      have hc : ¬isSeparator c := hs c List.mem_cons_self
      simp [line, hc]

theorem spaced (s : Spacing) : Spaced s.line s.words := by
  obtain ⟨lead, parts, hl, hw, hg, ha⟩ := s
  induction parts generalizing lead
  case nil => simpa [line, words] using Spaced.gap hl
  case cons part parts ih =>
    have ⟨hw, hws⟩ := List.forall_mem_cons.mp hw
    have ⟨hg, hgs⟩ := List.forall_mem_cons.mp hg
    have ⟨ha, has⟩ := forall_mem_dropLast_cons.mp ha
    let rest : Spacing := ⟨part.2, parts, hg, hws, hgs, has⟩
    have hr := rest.forall_mem_head?_line.mpr ha
    simpa [line, words, rest] using Spaced.word hl hw hr (ih part.2 hg hws hgs has)

theorem exists_of_spaced {line : Text} {words : List Text} (h : Spaced line words) :
    ∃ s : Spacing, s.line = line ∧ s.words = words := by
  induction h
  case gap gap hg => exact ⟨⟨gap, [], hg, nofun, nofun, nofun⟩, List.append_nil gap, rfl⟩
  case word gap word _ _ hg hw hr _ ih =>
    obtain ⟨s, rfl, rfl⟩ := ih
    have ha := s.forall_mem_head?_line.mp hr
    let longer : Spacing := {
      lead    := gap
      parts   := (word, s.lead) :: s.parts
      leading := hg
      solid   := List.forall_mem_cons.mpr ⟨hw, s.solid⟩
      hollow  := List.forall_mem_cons.mpr ⟨s.leading, s.hollow⟩
      apart   := forall_mem_dropLast_cons.mpr ⟨ha, s.apart⟩
    }
    exact ⟨longer, by simp [longer, Spacing.line], rfl⟩

theorem tokens_eq_iff {line : Text} {words : List Text} :
    tokens line = words ↔ ∃ s : Spacing, s.line = line ∧ s.words = words := by
  rw [← spaced_iff]
  constructor
  case mp  => exact exists_of_spaced
  case mpr =>
    rintro ⟨s, rfl, rfl⟩
    exact s.spaced

end Spacing

variable {gap word before after : Text}

theorem tokens_nil : tokens [] = [] :=
  rfl

theorem tokensAfter_append_gap (hg : IsGap gap) (hn : gap ≠ []) (word a b : Text) :
    tokensAfter word (a ++ (gap ++ b)) = tokensAfter word a ++ tokensAfter [] b := by
  induction a generalizing word
  case nil =>
    obtain ⟨c, gap, rfl⟩ := List.exists_cons_of_ne_nil hn
    have ⟨hc, hg⟩ := List.forall_mem_cons.mp hg
    simp [tokensAfter, hc, tokensAfter_gap hg]
  case cons c a ih =>
    simp only [List.cons_append, tokensAfter]
    split
    case isTrue  => rw [ih, List.append_assoc]
    case isFalse => exact ih (c :: word)

theorem tokens_append_gap_append (hg : IsGap gap) (hn : gap ≠ []) (a b : Text) :
    tokens (a ++ gap ++ b) = tokens a ++ tokens b := by
  rw [List.append_assoc]
  exact tokensAfter_append_gap hg hn [] a b

-- A word that nothing touches is a token.
theorem tokens_around (hb : ∀ c ∈ before.getLast?, isSeparator c) (hw : IsWord word)
    (ha : ∀ c ∈ after.head?, isSeparator c) :
    tokens (before ++ word ++ after) = tokens before ++ word :: tokens after := by
  have hwa : tokens (word ++ after) = word :: tokens after :=
    (Spaced.cons_word hw ha (spaced_tokens after)).tokens_eq
  rcases List.eq_nil_or_concat' before with rfl | ⟨before, c, rfl⟩
  · exact hwa
  · have hg : IsGap [c] := .cons (hb c (by simp)) .nil
    have hbc := tokens_append_gap_append hg nofun before []
    rw [List.append_nil, tokens_nil, List.append_nil] at hbc
    rw [List.append_assoc, tokens_append_gap_append hg nofun, hbc, hwa]

theorem exists_solid_back (a : Text) :
    ∃ before u, a = before ++ u ∧ (∀ d ∈ before.getLast?, isSeparator d) ∧
      ∀ d ∈ u, ¬isSeparator d := by
  let solid (c : Char) : Bool := !isSeparator c
  refine ⟨a.rdropWhile solid, a.rtakeWhile solid,
    (List.rdropWhile_append_rtakeWhile (p := solid)).symm, fun d hd => ?_, fun d hd => ?_⟩
  · obtain ⟨hn, rfl⟩ := List.mem_getLast?_eq_getLast hd
    simpa [solid] using List.rdropWhile_last_not solid a hn
  · simpa [solid] using List.mem_rtakeWhile_imp hd

theorem exists_solid_front (b : Text) :
    ∃ v after, b = v ++ after ∧ (∀ d ∈ v, ¬isSeparator d) ∧
      ∀ d ∈ after.head?, isSeparator d := by
  let solid (c : Char) : Bool := !isSeparator c
  refine ⟨b.takeWhile solid, b.dropWhile solid, List.takeWhile_append_dropWhile.symm,
    fun d hd => ?_, fun d hd => ?_⟩
  · simpa [solid] using List.mem_takeWhile_imp hd
  · have h := List.head?_dropWhile_not solid b
    simpa [Option.mem_def.mp hd, solid] using h

theorem inToken_of_not_mem {c : Char} (hc : c ∉ separators) (a b : Text) : InToken a c b := by
  obtain ⟨before, u, rfl, hl, hu⟩ := exists_solid_back a
  obtain ⟨v, after, rfl, hv, hr⟩ := exists_solid_front b
  have hs : ¬isSeparator c := mt isSeparator_iff.mp hc
  have hw : IsWord (u ++ c :: v) :=
    ⟨by simp, List.forall_mem_append.mpr ⟨hu, List.forall_mem_cons.mpr ⟨hs, hv⟩⟩⟩
  have ht := tokens_around hl hw hr
  simp only [List.append_assoc, List.cons_append] at ht
  simp only [isSeparator_iff] at hl hr
  exact .intro hl hr (by rw [List.append_assoc, ht])

end Easel.Command
