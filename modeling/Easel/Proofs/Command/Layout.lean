import Easel.Proofs.Command.Language

namespace Easel

-- Spellings that no kind of shape tells apart: the case of the letters A to Z does not matter, nor does
-- the E that old clients write at the end of POLYGON.
inductive Kind.Respelled : Text → Text → Prop
  | letters : t.map Char.toUpper = u.map Char.toUpper → Respelled t u
  | polygon : polygon.Spelled t → polygon.Spelled u → Respelled t u

theorem Kind.Respelled.named_eq {t u : Text} (h : Respelled t u) (k : Kind) :
    k.named t = k.named u := by
  cases h
  case letters h => exact Bool.eq_iff_iff.mpr (by rw [named_iff_capitals, named_iff_capitals, h])
  case polygon ht hu =>
    rw [Bool.eq_iff_iff, named_iff, named_iff]
    exact ⟨fun hk => hk.unique ht ▸ hu, fun hk => hk.unique hu ▸ ht⟩

namespace Command

-- Nobody looks at the header, and nobody but the chain at the keyword.
theorem Reading.ofKind_congr {f g : Fields} (ha : f.arguments = g.arguments)
    (hc : f.color = g.color) (k : Kind) : ofKind k f = ofKind k g := by
  obtain ⟨_, _, arguments, color⟩ := f
  obtain ⟨_, _, _, _⟩ := g
  cases ha
  cases hc
  cases k <;> rfl

variable {header header' keyword keyword' : Text} {rest : List Text}

theorem Interpreter.interpret_congr {i : Interpreter Logged} {k : Kind}
    (h : i.read = Reading.ofKind k) :
    i.interpret (header :: keyword :: rest) = i.interpret (header' :: keyword' :: rest) := by
  cases rest
  case nil => rfl
  case cons =>
    simp only [interpret, Fields.ofTokens, h]
    refine congrArg _ (Reading.ofKind_congr ?_ ?_ k) <;> rfl

namespace Chain

variable {c : Chain Logged}

theorem find?_congr (h : Kind.Respelled keyword keyword') : c.find? keyword = c.find? keyword' :=
  congrArg (List.find? · c.interpreters) (funext fun i => h.named_eq i.kind)

theorem value_handle_of_find? {line : Text} {i : Interpreter Logged}
    (hl : Spaced line (header :: keyword :: rest)) (h : c.find? keyword = some i) :
    (c.handle line).value = (i.interpret (header :: keyword :: rest)).value := by
  have hk : (tokens line)[1]? = some keyword := by rw [spaced_iff.mp hl]; rfl
  rw [handle, dispatch_of_find? hk h, spaced_iff.mp hl]
  rfl

theorem value_handle_of_not_find? {line : Text} (hl : Spaced line (header :: keyword :: rest))
    (h : c.find? keyword = none) : (c.handle line).value = .error (.unsupportedShape keyword) := by
  simp [handle, dispatch, spaced_iff.mp hl, h]

-- Commands may be laid out as one likes. What they come to depends on neither their header, nor the
-- spelling of their keyword, nor what stands between their tokens, unless it is the keyword that they
-- are rejected for.
theorem handle_ignores_layout {c : Chain Logged} (hc : c.Furnished) {line line' : Text}
    (h : Spaced line (header :: keyword :: rest)) (h' : Spaced line' (header' :: keyword' :: rest))
    (hk : Kind.Respelled keyword keyword') :
    ((∃ i ∈ c.interpreters, i.kind.Spelled keyword) →
      (c.handle line).value = (c.handle line').value) ∧
    ((∀ i ∈ c.interpreters, ¬i.kind.Spelled keyword) →
      (c.handle line).value = .error (.unsupportedShape keyword) ∧
        (c.handle line').value = .error (.unsupportedShape keyword')) := by
  constructor
  case left =>
    rintro ⟨i, hi, hs⟩
    cases hf : c.find? keyword
    case none   => exact (List.find?_eq_none.mp hf i hi (Kind.named_iff.mpr hs)).elim
    case some j =>
      have ⟨_, hr⟩ := hc.exists_read (mem_of_find? hf)
      rw [value_handle_of_find? h hf, value_handle_of_find? h' (find?_congr hk ▸ hf),
        Interpreter.interpret_congr hr]
  case right =>
    intro hn
    have hf : c.find? keyword = none :=
      List.find?_eq_none.mpr fun i hi hs => hn i hi (Kind.named_iff.mp hs)
    exact ⟨value_handle_of_not_find? h hf, value_handle_of_not_find? h' (find?_congr hk ▸ hf)⟩

theorem handle_ignores_layout_of_old_client :
    let line    := "X POLYGON 0 0 5 0 5 5 red".toList
    let line'   := "\r\n hello\tpolygonE  0 0 5 0 5 5 red \n".toList
    let rest    := ["0", "0", "5", "0", "5", "5", "red"].map String.toList
    let circles : Chain Logged := ⟨[.ofKind .circle]⟩
    standard.Furnished ∧ circles.Furnished ∧
      Spaced line ("X".toList :: "POLYGON".toList :: rest) ∧
      Spaced line' ("hello".toList :: "polygonE".toList :: rest) ∧
      Kind.Respelled "POLYGON".toList "polygonE".toList ∧
      (standard.handle line).value = (standard.handle line').value ∧
      (circles.handle line).value = .error (.unsupportedShape "POLYGON".toList) ∧
      (circles.handle line').value = .error (.unsupportedShape "polygonE".toList) := by
  intro line line' rest circles
  have h : Spaced line ("X".toList :: "POLYGON".toList :: rest) := spaced_iff.mpr (by decide)
  have h' : Spaced line' ("hello".toList :: "polygonE".toList :: rest) := spaced_iff.mpr (by decide)
  have hs : Kind.polygon.Spelled "POLYGON".toList := .polygon (by decide)
  have hk : Kind.Respelled "POLYGON".toList "polygonE".toList :=
    .polygon hs (.polygone (by decide))
  have hc : ∀ i ∈ circles.interpreters, ¬i.kind.Spelled "POLYGON".toList := by
    intro i hi hn
    cases List.mem_singleton.mp hi
    cases hn.unique hs
  have hp : ∃ i ∈ standard.interpreters, i.kind.Spelled "POLYGON".toList :=
    ⟨.ofKind .polygon, mem_standard_iff.mpr ⟨.polygon, rfl⟩, hs⟩
  have hf : circles.Furnished := ⟨[(.circle, .circle)], rfl⟩
  exact ⟨furnished_standard, hf, h, h', hk,
    (handle_ignores_layout furnished_standard h h' hk).left hp,
    (handle_ignores_layout hf h h' hk).right hc⟩

end Chain
end Command
end Easel
