import Easel.Proofs.Command.Spacing
import Mathlib.Data.List.TakeWhile

namespace Easel.Command

-- Why a scanner gets nowhere: what it looks for is not there, so that something else may be looked
-- for, or nothing is to be looked for any more.
inductive Refusal
  | mismatch
  | failure
  deriving DecidableEq

-- Something that reads the beginning of a text, and leaves the rest of it to those that come next.
abbrev Scanner (α : Type) :=
  StateT Text (Except Refusal) α

namespace Scanner

variable {α β : Type}

-- How often a scanner is run if it is run over and over for as long as it finds something, and what
-- comes of it. A run that reads nothing would be followed by the same run forever, so it is turned
-- down.
inductive Repeats (s : Scanner α) : Text → Nat → Except Refusal (List α × Text) → Prop
  | stop  : s.run t = .error .mismatch → Repeats s t 1 (.ok ([], t))
  | fail  : s.run t = .error .failure → Repeats s t 1 (.error .failure)
  | stuck : s.run t = .ok (a, rest) → ¬rest.length < t.length → Repeats s t 1 (.error .mismatch)
  | again : s.run t = .ok (a, rest) → rest.length < t.length → Repeats s rest n result →
      Repeats s t (n + 1) (result.map (Prod.map (a :: ·) id))

-- The same, worked out. Each run that is followed by another one leaves less to be read.
def repeated (s : Scanner α) (t : Text) : Except Refusal (List α × Text) :=
  match s.run t with
  | .error .mismatch => .ok ([], t)
  | .error .failure  => .error .failure
  | .ok (a, rest)    =>
    if rest.length < t.length then (repeated s rest).map (Prod.map (a :: ·) id)
    else .error .mismatch
termination_by t.length

theorem Repeats.repeated_eq {s : Scanner α} {t : Text} {n : Nat}
    {result : Except Refusal (List α × Text)} (h : Repeats s t n result) :
    s.repeated t = result := by
  induction h
  case stop h | fail h => rw [repeated, h]
  case stuck h hn =>
    rw [repeated, h]
    exact if_neg hn
  case again h hl _ ih =>
    rw [repeated, h]
    exact (if_pos hl).trans (congrArg _ ih)

theorem run_seqRight {p : Scanner α} {q : Scanner β} {t rest : Text} {a : α}
    (h : p.run t = .ok (a, rest)) : (p *> q).run t = q.run rest := by
  rw [StateT.run_seqRight, h]
  rfl

theorem run_seqLeft {p : Scanner α} {q : Scanner β} {t rest rest' : Text} {a : α} {b : β}
    (h : p.run t = .ok (a, rest)) (h' : q.run rest = .ok (b, rest')) :
    (p <* q).run t = .ok (a, rest') := by
  have hl : (p <* q).run t = p.run t >>= fun r => q.run r.2 >>= fun r' => pure (r.1, r'.2) := rfl
  rw [hl, h]
  change (q.run rest >>= fun r => pure (a, r.2)) = _
  rw [h']
  rfl

end Scanner

theorem takeWhile_dropWhile_append {p : Char → Bool} {part rest : Text} (hp : ∀ c ∈ part, p c)
    (hr : ∀ c ∈ rest.head?, ¬p c) :
    (part ++ rest).takeWhile p = part ∧ (part ++ rest).dropWhile p = rest := by
  have h : rest.takeWhile p = [] ∧ rest.dropWhile p = rest := by
    cases rest
    case nil         => exact ⟨rfl, rfl⟩
    case cons c rest =>
      have hc : ¬p c := hr c rfl
      exact ⟨List.takeWhile_cons_of_neg hc, List.dropWhile_cons_of_neg hc⟩
  rw [List.takeWhile_append_of_pos hp, List.dropWhile_append_of_pos hp, h.left, h.right]
  exact ⟨List.append_nil part, rfl⟩

-- The scanners that other ones are made of. It does not matter how they do what they are for: skip
-- blanks, read on up to one of some characters, and repeat another scanner.
structure Toolkit where
  blanks     : Scanner Text
  noneOf     : Text → Scanner Text
  many       : Scanner Text → Scanner (List Text)
  run_blanks : ∀ t,
    let blank (c : Char) : Bool := c ∈ [' ', '\t', '\r', '\n']
    blanks.run t = .ok (t.takeWhile blank, t.dropWhile blank)
  run_noneOf : ∀ chars t,
    let other (c : Char) : Bool := c ∉ chars
    (noneOf chars).run t =
      if (t.takeWhile other).isEmpty then .error .mismatch
      else .ok (t.takeWhile other, t.dropWhile other)
  run_many   : ∀ s t n result, s.Repeats t n result → (many s).run t = result

namespace Toolkit

def plain : Toolkit where
  blanks t :=
    let blank (c : Char) : Bool := c ∈ [' ', '\t', '\r', '\n']
    .ok (t.takeWhile blank, t.dropWhile blank)
  noneOf chars t :=
    let other (c : Char) : Bool := c ∉ chars
    if (t.takeWhile other).isEmpty then .error .mismatch
    else .ok (t.takeWhile other, t.dropWhile other)
  many                := Scanner.repeated
  run_blanks _        := rfl
  run_noneOf _ _      := rfl
  run_many  _ _ _ _ h := h.repeated_eq

-- A word, with the gap in front of it.
def word (k : Toolkit) : Scanner Text :=
  k.blanks *> k.noneOf separators

def words (k : Toolkit) : Scanner (List Text) :=
  k.many k.word <* k.blanks

-- The words of a line, as far as they can be found at all.
def tokens (k : Toolkit) (line : Text) : List Text :=
  match k.words.run line with
  | .ok (words, _) => words
  | .error _       => []

variable (k : Toolkit) {gap word rest line : Text} {words : List Text}

theorem run_blanks_eq (t : Text) :
    k.blanks.run t = .ok (t.takeWhile isSeparator, t.dropWhile isSeparator) := by
  have hs : (fun c : Char => decide (c ∈ [' ', '\t', '\r', '\n'])) = isSeparator :=
    funext fun c => Bool.eq_iff_iff.mpr (decide_eq_true_iff.trans isSeparator_iff.symm)
  rw [k.run_blanks, hs]

theorem run_blanks_append (hg : IsGap gap) (hr : ∀ c ∈ rest.head?, ¬isSeparator c) :
    k.blanks.run (gap ++ rest) = .ok (gap, rest) := by
  have ⟨ht, hd⟩ := takeWhile_dropWhile_append hg hr
  rw [run_blanks_eq, ht, hd]

theorem run_blanks_gap (hg : IsGap gap) : k.blanks.run gap = .ok (gap, []) := by
  have hn : ∀ c ∈ ([] : Text).head?, ¬isSeparator c := nofun
  have h := k.run_blanks_append hg hn
  rwa [List.append_nil] at h

theorem run_noneOf_separators (hw : IsWord word) (hr : ∀ c ∈ rest.head?, isSeparator c) :
    (k.noneOf separators).run (word ++ rest) = .ok (word, rest) := by
  have hs : (fun c : Char => decide (c ∉ separators)) = fun c => !isSeparator c := by
    funext c
    simp [← isSeparator_iff]
  have hw' : ∀ c ∈ word, !isSeparator c := by simpa using hw.solid
  have hr' : ∀ c ∈ rest.head?, ¬!isSeparator c := by simpa using hr
  have ⟨ht, hd⟩ := takeWhile_dropWhile_append hw' hr'
  rw [k.run_noneOf, hs]
  simp [ht, hd, hw.nonempty]

theorem run_word_gap (hg : IsGap gap) : k.word.run gap = .error .mismatch := by
  rw [Toolkit.word, Scanner.run_seqRight (k.run_blanks_gap hg)]
  exact k.run_noneOf separators []

theorem run_word_append (hg : IsGap gap) (hw : IsWord word)
    (hr : ∀ c ∈ rest.head?, isSeparator c) :
    k.word.run (gap ++ word ++ rest) = .ok (word, rest) := by
  have hb := k.run_blanks_append hg (hw.forall_mem_head? rest)
  rw [List.append_assoc, Toolkit.word, Scanner.run_seqRight hb]
  exact k.run_noneOf_separators hw hr

-- Each run finds one word, and the run behind the last word finds none. Every word makes the rest of
-- the line shorter, so it never comes to a run that reads nothing.
theorem repeats_word (s : Spaced line words) :
    ∃ rest, IsGap rest ∧ k.word.Repeats line (words.length + 1) (.ok (words, rest)) := by
  induction s
  case gap gap hg => exact ⟨gap, hg, .stop (k.run_word_gap hg)⟩
  case word gap word line words hg hw hr _ ih =>
    have ⟨rest, hg', ih⟩ := ih
    refine ⟨rest, hg', .again (k.run_word_append hg hw hr) ?_ ih⟩
    have := List.length_pos_of_ne_nil hw.nonempty
    simp only [List.length_append]
    omega

theorem run_words (s : Spaced line words) : k.words.run line = .ok (words, []) := by
  have ⟨rest, hg, h⟩ := k.repeats_word s
  exact Scanner.run_seqLeft (k.run_many _ _ _ _ h) (k.run_blanks_gap hg)

end Toolkit

-- The tokens of a line are its words: no others stand in it with gaps around them. A gap between two
-- lines keeps their tokens apart, and no character but the four separators does. A reader that is
-- made of scanners finds the same tokens. It looks for a word once more than there are any, reads to
-- the end of the line then, and never fails.
theorem tokens_finds_words :
    (∀ (line : Text) (words : List Text),
      tokens line = words ↔ ∃ s : Spacing, s.line = line ∧ s.words = words) ∧
    (∀ a gap b : Text, gap ≠ [] → (∀ c ∈ gap, c ∈ separators) →
      tokens (a ++ gap ++ b) = tokens a ++ tokens b) ∧
    (∀ (a b : Text) (c : Char), c ∉ separators → InToken a c b) ∧
    ∀ (k : Toolkit) (line : Text),
      (∃ rest, k.word.Repeats line ((tokens line).length + 1) (.ok (tokens line, rest))) ∧
      k.words.run line = .ok (tokens line, []) ∧ k.tokens line = tokens line := by
  refine ⟨fun line words => Spacing.tokens_eq_iff, ?gap, fun a b c hc => inToken_of_not_mem hc a b,
    ?scanned⟩
  case gap =>
    intro a gap b hn hg
    exact tokens_append_gap_append (fun c hc => isSeparator_iff.mpr (hg c hc)) hn a b
  case scanned =>
    intro k line
    have hs := spaced_tokens line
    have ⟨rest, _, hr⟩ := k.repeats_word hs
    have hw := k.run_words hs
    exact ⟨⟨rest, hr⟩, hw, by rw [Toolkit.tokens, hw]⟩

-- Blanks that are no separators are parts of tokens, like any other character.
theorem tokens_finds_words_with_odd_blanks :
    let s : Spacing := ⟨" \t".toList,
      [("X\x0cY".toList, " ".toList), ("\u00a0Z\u3000".toList, "\r\n".toList)],
      by decide, by decide, by decide, by decide⟩
    tokens s.line = s.words ∧
      tokens ("X\u0085Y".toList ++ "\r \n".toList ++ "\x0b".toList) =
        tokens "X\u0085Y".toList ++ tokens "\x0b".toList ∧
      InToken "X CIR".toList '\x0c' "CLE 1".toList ∧
      (∃ rest, Toolkit.plain.word.Repeats s.line 3 (.ok (s.words, rest))) ∧
      Toolkit.plain.words.run s.line = .ok (s.words, []) ∧
      Toolkit.plain.tokens s.line = s.words := by
  intro s
  have ⟨hs, hg, hc, hk⟩ := tokens_finds_words
  have ht : tokens s.line = s.words := (hs s.line s.words).mpr ⟨s, rfl, rfl⟩
  have hgap : IsGap "\r \n".toList := by decide
  have hp := hk Toolkit.plain s.line
  rw [ht] at hp
  exact ⟨ht, hg _ _ _ nofun fun c h => isSeparator_iff.mp (hgap c h),
    hc _ _ '\x0c' (by decide), hp⟩

end Easel.Command
