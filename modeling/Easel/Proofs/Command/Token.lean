import Easel.Command.Token

namespace Easel.Command

def IsGap (gap : Text) : Prop :=
  ∀ c ∈ gap, isSeparator c

structure IsWord (word : Text) : Prop where
  nonempty : word ≠ []
  solid    : ∀ c ∈ word, ¬isSeparator c

-- A line, and the longest runs of characters in it that are no separators. What follows a word is
-- the end of the line or a separator, as the word would not be as long as it could be otherwise.
inductive Spaced : Text → List Text → Prop
  | gap  : IsGap gap → Spaced gap []
  | word : IsGap gap → IsWord word → (∀ c ∈ rest.head?, isSeparator c) → Spaced rest words →
      Spaced (gap ++ word ++ rest) (word :: words)

theorem IsGap.nil : IsGap [] :=
  List.forall_mem_nil _

theorem IsGap.cons {c : Char} {gap : Text} (hc : isSeparator c) (h : IsGap gap) : IsGap (c :: gap) :=
  List.forall_mem_cons.mpr ⟨hc, h⟩

namespace Spaced

variable {c : Char} {line word : Text} {words : List Text}

theorem cons_separator (hc : isSeparator c) (s : Spaced line words) : Spaced (c :: line) words := by
  cases s
  case gap hg           => exact .gap (hg.cons hc)
  case word hg hw hr hs => exact .word (hg.cons hc) hw hr hs

theorem cons_word
    (hw : IsWord word) (h : ∀ c ∈ line.head?, isSeparator c) (s : Spaced line words) :
    Spaced (word ++ line) (word :: words) :=
  .word .nil hw h s

theorem isWord (s : Spaced line words) : ∀ word ∈ words, IsWord word := by
  induction s
  case gap              => exact nofun
  case word hw _ _ ih   => exact List.forall_mem_cons.mpr ⟨hw, ih⟩

end Spaced

theorem tokensAfter_gap {gap : Text} (h : IsGap gap) (line : Text) :
    tokensAfter [] (gap ++ line) = tokensAfter [] line := by
  induction gap
  case nil => rfl
  case cons c gap ih =>
    have ⟨hc, hg⟩ := List.forall_mem_cons.mp h
    simp [tokensAfter, hc, finish, ih hg]

theorem tokensAfter_solid {part : Text} (h : ∀ c ∈ part, ¬isSeparator c) (word line : Text) :
    tokensAfter word (part ++ line) = tokensAfter (part.reverse ++ word) line := by
  induction part generalizing word
  case nil => rfl
  case cons c part ih =>
    have ⟨hc, hp⟩ := List.forall_mem_cons.mp h
    simp [tokensAfter, hc, ih hp]

theorem tokensAfter_boundary {word line : Text}
    (hw : word ≠ []) (h : ∀ c ∈ line.head?, isSeparator c) :
    tokensAfter word line = word.reverse :: tokensAfter [] line := by
  cases line
  case nil => simp [tokensAfter, finish, hw]
  case cons c line =>
    have hc : isSeparator c := h c rfl
    simp [tokensAfter, finish, hc, hw]

theorem Spaced.tokens_eq {line : Text} {words : List Text} (s : Spaced line words) :
    tokens line = words := by
  induction s
  case gap gap hg =>
    have h := tokensAfter_gap hg []
    simpa [tokens, tokensAfter, finish] using h
  case word gap word rest words hg hw hr _ ih =>
    have hn : word.reverse ≠ [] := by simp [hw.nonempty]
    calc tokens (gap ++ word ++ rest)
      _ = tokensAfter [] (word ++ rest)     := by simp [tokens, tokensAfter_gap hg]
      _ = tokensAfter word.reverse rest     := by simp [tokensAfter_solid hw.solid]
      _ = word :: tokensAfter [] rest       := by simp [tokensAfter_boundary hn hr]
      _ = word :: words                     := by rw [← ih]; rfl

-- The induction is on what is still to be read. The word under way is a part of the line as well.
theorem spaced_tokensAfter {word line : Text} (h : ∀ c ∈ word, ¬isSeparator c) :
    Spaced (word.reverse ++ line) (tokensAfter word line) := by
  induction line generalizing word
  case nil =>
    by_cases hw : word = []
    case pos => simpa [hw, tokensAfter, finish] using Spaced.gap .nil
    case neg =>
      have hr : IsWord word.reverse := ⟨by simpa using hw, by simpa using h⟩
      simpa [hw, tokensAfter, finish] using Spaced.cons_word hr (by simp) (.gap .nil)
  case cons c line ih =>
    by_cases hc : isSeparator c
    case neg =>
      have hs := ih (List.forall_mem_cons.mpr ⟨hc, h⟩)
      simpa [tokensAfter, hc] using hs
    case pos =>
      have ih : Spaced line (tokensAfter [] line) := ih (List.forall_mem_nil _)
      have hs := ih.cons_separator hc
      by_cases hw : word = []
      case pos => simpa [hw, tokensAfter, hc, finish] using hs
      case neg =>
        have hr : IsWord word.reverse := ⟨by simpa using hw, by simpa using h⟩
        simpa [hw, tokensAfter, hc, finish] using hs.cons_word hr (by simpa using hc)

theorem spaced_tokens (line : Text) : Spaced line (tokens line) :=
  spaced_tokensAfter (List.forall_mem_nil _)

theorem spaced_iff {line : Text} {words : List Text} : Spaced line words ↔ tokens line = words where
  mp  := Spaced.tokens_eq
  mpr := (· ▸ spaced_tokens line)

end Easel.Command
