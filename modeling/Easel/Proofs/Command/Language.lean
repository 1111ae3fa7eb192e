import Easel.Command.Chain
import Easel.Proofs.Command.Reading
import Easel.Proofs.Command.Token
import Easel.Proofs.Keyword

namespace Easel.Command

open Unicode

-- The commands: a header, a keyword, as many integers as the kind of shape takes, and the name of a
-- color.
structure Spells (line : Text) (f : Fields) (k : Kind) (numbers : List Int) : Prop where
  tokens  : Spaced line (f.header :: f.keyword :: (f.arguments ++ [f.color]))
  keyword : k.Spelled f.keyword
  numbers : List.Forall₂ Literal f.arguments numbers
  count   : k.Takes f.arguments.length
  color   : ∃ c ∈ f.color, ¬isWhiteSpace c

theorem mapError_eq_ok_iff {ε ε' α : Type} {e : Except ε α} {f : ε → ε'} {a : α} :
    e.mapError f = .ok a ↔ e = .ok a := by
  cases e <;> simp [Except.mapError]

theorem Interpreter.interpret_eq_ok_iff {i : Interpreter Logged} {tokens : List Text}
    {shape : Shape} :
    (i.interpret tokens).value = .ok shape ↔
      ∃ f, Fields.ofTokens tokens = .ok f ∧ (i.read f).value = .ok shape := by
  unfold Interpreter.interpret
  cases Fields.ofTokens tokens
  case error => simp
  case ok f  => simp [mapError_eq_ok_iff]

namespace Chain

-- Interpreters that answer to the first kind of a pair, and have the reader of the second one.
def ofPairs {m : Type → Type} (readers : Kind → Fields → m (Except ArgumentError Shape))
    (pairs : List (Kind × Kind)) : Chain m :=
  ⟨pairs.map fun (kind, layout) => ⟨kind, readers layout⟩⟩

-- A chain that has no other readers than those of the kinds of shapes, though an interpreter may have
-- that of another kind.
def Furnished (c : Chain Logged) : Prop :=
  ∃ pairs, c = ofPairs Reading.ofKind pairs

variable {c : Chain Logged} {i : Interpreter Logged} {keyword : Text}

theorem dispatch_of_find? {tokens : List Text} (hk : tokens[1]? = some keyword)
    (hi : c.find? keyword = some i) :
    c.dispatch tokens = (i.interpret tokens).after [handledBy keyword i] := by
  simp only [dispatch, hk, hi]
  rfl

theorem dispatch_eq_ok_iff {tokens : List Text} {shape : Shape} :
    (c.dispatch tokens).value = .ok shape ↔
      ∃ keyword i, tokens[1]? = some keyword ∧ c.find? keyword = some i ∧
        (i.interpret tokens).value = .ok shape := by
  cases hk : tokens[1]?
  case none => simp [dispatch, hk]
  case some keyword =>
    cases hi : c.find? keyword
    case none   => simp [dispatch, hk, hi]
    case some i => simp [dispatch_of_find? hk hi, hi, Logged.after]

theorem mem_of_find? (h : c.find? keyword = some i) : i ∈ c.interpreters :=
  List.mem_of_find?_eq_some h

theorem spelled_of_find? (h : c.find? keyword = some i) : i.kind.Spelled keyword := by
  have hn : i.canHandle keyword := by simpa using List.find?_some h
  exact Kind.named_iff.mp hn

theorem mem_standard_iff : i ∈ standard.interpreters ↔ ∃ k, i = .ofKind k := by
  constructor
  case mp =>
    simp only [standard, List.mem_cons, List.not_mem_nil, or_false]
    grind
  case mpr =>
    rintro ⟨k, rfl⟩
    cases k <;> simp [standard]

theorem furnished_standard : standard.Furnished :=
  ⟨[(.circle, .circle), (.segment, .segment), (.triangle, .triangle), (.polygon, .polygon)], rfl⟩

theorem Furnished.exists_read (h : c.Furnished) (hi : i ∈ c.interpreters) :
    ∃ k, i.read = Reading.ofKind k := by
  obtain ⟨pairs, rfl⟩ := h
  obtain ⟨⟨_, layout⟩, _, rfl⟩ := List.mem_map.mp hi
  exact ⟨layout, rfl⟩

-- No keyword is one of two kinds, so it does not matter which interpreter is asked first.
theorem find?_standard_eq_some_iff :
    standard.find? keyword = some i ↔ ∃ k : Kind, i = .ofKind k ∧ k.Spelled keyword := by
  constructor
  case mp =>
    intro h
    have ⟨k, hk⟩ := mem_standard_iff.mp (mem_of_find? h)
    subst hk
    exact ⟨k, rfl, spelled_of_find? h⟩
  case mpr =>
    rintro ⟨k, rfl, hs⟩
    cases h : standard.find? keyword
    case none =>
      have hk : ¬k.named keyword := List.find?_eq_none.mp h _ (mem_standard_iff.mpr ⟨k, rfl⟩)
      exact absurd (Kind.named_iff.mpr hs) hk
    case some j =>
      have ⟨k', hk⟩ := mem_standard_iff.mp (mem_of_find? h)
      subst hk
      have hk : k = k' := hs.unique (spelled_of_find? h)
      rw [hk]

theorem handle_standard_eq_ok_iff {line : Text} {shape : Shape} :
    (standard.handle line).value = .ok shape ↔
      ∃ f, Spells line f shape.kind shape.numbers ∧ ColorName.Spelled f.color shape.color := by
  simp only [handle, dispatch_eq_ok_iff, find?_standard_eq_some_iff,
    Interpreter.interpret_eq_ok_iff, Fields.ofTokens_eq_ok_iff]
  constructor
  case mp =>
    rintro ⟨keyword, _, ht, ⟨k, rfl, hk⟩, f, hf, hr⟩
    have hd := Reading.ofKind_eq_ok_iff.mp hr
    have hw : f.keyword = keyword := by simpa [hf] using ht
    have hk' : shape.kind = k := hd.kind
    subst hw hk'
    exact ⟨f, ⟨spaced_iff.mpr hf, hk, hd.numbers, hd.count, hd.color.visible⟩, hd.color⟩
  case mpr =>
    intro ⟨f, h, hc⟩
    have hf := spaced_iff.mp h.tokens
    exact ⟨f.keyword, .ofKind shape.kind, by simp [hf], ⟨_, rfl, h.keyword⟩, f, hf,
      Reading.ofKind_eq_ok_iff.mpr ⟨rfl, h.numbers, h.count, hc⟩⟩

-- The standard chain accepts the commands and nothing else. What it makes of a command is the shape
-- with the numbers of the command in their order.
theorem standard_accepts_commands (line : Text) :
    ((∃ shape, (standard.handle line).value = .ok shape) ↔ ∃ f k numbers, Spells line f k numbers) ∧
      ∀ f k numbers, Spells line f k numbers →
        ∃ shape, (standard.handle line).value = .ok shape ∧ shape.kind = k ∧
          shape.numbers = numbers ∧ ColorName.Spelled f.color shape.color ∧
          ∀ vertices name, shape = .polygon vertices name →
            vertices.length = ((tokens line).length - 2) / 2 := by
  have hs {f k numbers} (h : Spells line f k numbers) : ∃ shape,
      (standard.handle line).value = .ok shape ∧ shape.kind = k ∧ shape.numbers = numbers ∧
        ColorName.Spelled f.color shape.color := by
    obtain ⟨vs, rfl⟩ := exists_integers h.numbers
    have ht : k.Takes vs.length := by
      rw [← List.length_map Int32.toInt, ← h.numbers.length_eq]
      exact h.count
    have ⟨name, hn⟩ := ColorName.exists_spelled h.color
    obtain ⟨shape, rfl, hv, rfl⟩ := ht.exists_shape name
    rw [← hv] at h ⊢
    exact ⟨shape, handle_standard_eq_ok_iff.mpr ⟨f, h, hn⟩, rfl, rfl, hn⟩
  refine ⟨⟨?accepted, ?command⟩, ?shape⟩
  case accepted =>
    intro ⟨shape, h⟩
    have ⟨f, h, _⟩ := handle_standard_eq_ok_iff.mp h
    exact ⟨f, _, _, h⟩
  case command =>
    intro ⟨f, k, numbers, h⟩
    have ⟨shape, ha, _⟩ := hs h
    exact ⟨shape, ha⟩
  case shape =>
    intro f k numbers h
    have ⟨shape, ha, hk, hn, hc⟩ := hs h
    refine ⟨shape, ha, hk, hn, hc, ?_⟩
    rintro vertices name rfl
    have hl : f.arguments.length = 2 * vertices.length := by
      rw [h.numbers.length_eq, ← hn]
      exact length_coordinates vertices
    simp [spaced_iff.mp h.tokens, hl]
    omega

theorem standard_accepts_polygone_command :
    ∃ shape, (standard.handle "X\tpolygone +0 -0 0005 0 5 5 Red\r".toList).value = .ok shape ∧
      shape.kind = .polygon ∧ shape.numbers = [0, 0, 5, 0, 5, 5] ∧
      ColorName.Spelled "Red".toList shape.color ∧
      ∀ vertices name, shape = .polygon vertices name →
        vertices.length = ((tokens "X\tpolygone +0 -0 0005 0 5 5 Red\r".toList).length - 2) / 2 := by
  have h (token : Text) (v : Int32) (h : integer? token = some v) : Literal token v.toInt :=
    integer?_eq_some_iff.mp h
  have hn := List.Forall₂.cons (h "+0".toList 0 (by decide)) <| .cons (h "-0".toList 0 (by decide)) <|
    .cons (h "0005".toList 5 (by decide)) <| .cons (h "0".toList 0 (by decide)) <|
    .cons (h "5".toList 5 (by decide)) <| .cons (h "5".toList 5 (by decide)) .nil
  exact (standard_accepts_commands _).right
    ⟨"X".toList, "polygone".toList, _, "Red".toList⟩ .polygon _
    ⟨spaced_iff.mpr (by decide), .polygone (by decide), hn, ⟨rfl, by decide⟩, 'R', by decide⟩

end Chain
end Easel.Command
