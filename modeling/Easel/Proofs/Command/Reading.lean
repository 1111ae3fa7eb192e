import Easel.Command.Reading
import Easel.Proofs.Command.Numeral
import Easel.Proofs.Name
import Mathlib.Data.List.Forall2

namespace Easel

def Point.coordinates (p : Point) : List Int :=
  [p.x.toInt, p.y.toInt]

-- The numbers of a shape, in the order in which commands give them.
def Shape.numbers : Shape → List Int
  | circle center radius _ => center.coordinates ++ [radius.toInt]
  | segment start stop _   => start.coordinates ++ stop.coordinates
  | triangle a b c _       => a.coordinates ++ b.coordinates ++ c.coordinates
  | polygon vertices _     => vertices.flatMap Point.coordinates

-- How many numbers a shape of this kind can have.
def Kind.Takes : Kind → Nat → Prop
  | circle, n   => n = 3
  | segment, n  => n = 4
  | triangle, n => n = 6
  | polygon, n  => n % 2 = 0 ∧ 6 ≤ n

theorem length_coordinates (vertices : List Point) :
    (vertices.flatMap Point.coordinates).length = 2 * vertices.length := by
  induction vertices
  case nil            => rfl
  case cons v rest ih => simp [Point.coordinates, ih]; omega

-- Numbers come in pairs, so an even number of them makes vertices.
theorem exists_vertices :
    (numbers : List Int32) → numbers.length % 2 = 0 →
      ∃ vs : List Point, vs.flatMap Point.coordinates = numbers.map Int32.toInt
  | [], _             => ⟨[], rfl⟩
  | [_], h            => by simp at h
  | x :: y :: rest, h => by
    have hr : rest.length % 2 = 0 := by simpa [Nat.add_assoc] using h
    have ⟨vs, hv⟩ := exists_vertices rest hr
    exact ⟨⟨x, y⟩ :: vs, by simp [Point.coordinates, hv]⟩

theorem Kind.Takes.exists_shape {k : Kind} {numbers : List Int32} (h : k.Takes numbers.length)
    (color : ColorName) :
    ∃ s : Shape, s.kind = k ∧ s.numbers = numbers.map Int32.toInt ∧ s.color = color := by
  cases k
  case circle =>
    have ⟨x, y, r, hn⟩ := List.length_eq_three.mp h
    subst hn
    exact ⟨.circle ⟨x, y⟩ r color, rfl, rfl, rfl⟩
  case segment =>
    match numbers, h with
    | [x₁, y₁, x₂, y₂], _ => exact ⟨.segment ⟨x₁, y₁⟩ ⟨x₂, y₂⟩ color, rfl, rfl, rfl⟩
  case triangle =>
    match numbers, h with
    | [x₁, y₁, x₂, y₂, x₃, y₃], _ =>
      exact ⟨.triangle ⟨x₁, y₁⟩ ⟨x₂, y₂⟩ ⟨x₃, y₃⟩ color, rfl, rfl, rfl⟩
  case polygon =>
    have ⟨vs, hv⟩ := exists_vertices numbers h.left
    exact ⟨.polygon vs color, rfl, hv, rfl⟩

namespace Command

theorem bind_eq_ok_iff {ε α β : Type} {e : Except ε α} {f : α → Except ε β} {b : β} :
    e >>= f = .ok b ↔ ∃ a, e = .ok a ∧ f a = .ok b := by
  cases e <;> simp [bind, Except.bind]

theorem pure_eq_ok_iff {ε α : Type} {a b : α} : (pure a : Except ε α) = .ok b ↔ a = b := by
  simp [pure, Except.pure]

theorem Fields.ofTokens_eq_ok_iff {tokens : List Text} {f : Fields} :
    Fields.ofTokens tokens = .ok f ↔
      tokens = f.header :: f.keyword :: (f.arguments ++ [f.color]) := by
  constructor
  case mp =>
    intro h
    unfold Fields.ofTokens at h
    split at h
    case h_4 header keyword a as =>
      cases h
      simp [List.dropLast_append_getLast]
    all_goals contradiction
  case mpr =>
    rintro rfl
    have ⟨header, keyword, arguments, color⟩ := f
    cases arguments
    case nil       => rfl
    case cons a as => simp [Fields.ofTokens, List.dropLast_cons_of_ne_nil]

theorem Fields.colorName_eq_ok_iff {f : Fields} {name : ColorName} :
    f.colorName = .ok name ↔ ColorName.Spelled f.color name := by
  rw [← ColorName.ofText?_eq_some_iff, Fields.colorName]
  cases ColorName.ofText? f.color <;> simp

-- Numbers that are spelled by tokens fit into 32 bits.
theorem exists_integers {tokens : List Text} {numbers : List Int}
    (h : List.Forall₂ Literal tokens numbers) :
    ∃ vs : List Int32, vs.map Int32.toInt = numbers := by
  induction h
  case nil => exact ⟨[], rfl⟩
  case cons hv _ ih =>
    obtain ⟨vs, rfl⟩ := ih
    exact ⟨_ :: vs, by rw [List.map_cons, hv.toInt_ofInt]⟩

theorem integer_eq_ok_iff {argument : Argument} {token : Text} {v : Int32} :
    integer argument token = .ok v ↔ Literal token v.toInt := by
  rw [← integer?_eq_some_iff, integer]
  cases integer? token <;> simp

theorem vertex_eq_ok_iff {k : Nat} {x y : Text} {v : Point} :
    vertex k x y = .ok v ↔ Literal x v.x.toInt ∧ Literal y v.y.toInt := by
  simp only [vertex, bind_eq_ok_iff, pure_eq_ok_iff, integer_eq_ok_iff]
  constructor
  case mp =>
    rintro ⟨x, hx, y, hy, rfl⟩
    exact ⟨hx, hy⟩
  case mpr => exact fun ⟨hx, hy⟩ => ⟨v.x, hx, v.y, hy, rfl⟩

-- The induction takes two tokens at a time, as the function does.
theorem verticesFrom_eq_ok_iff {k : Nat} {tokens : List Text} {vs : List Point}
    (h : tokens.length % 2 = 0) :
    verticesFrom k tokens = .ok vs ↔ List.Forall₂ Literal tokens (vs.flatMap Point.coordinates) := by
  induction k, tokens using verticesFrom.induct generalizing vs
  case case1 k x y rest ih =>
    have hr : rest.length % 2 = 0 := by simpa [Nat.add_assoc] using h
    simp only [verticesFrom, bind_eq_ok_iff, pure_eq_ok_iff, vertex_eq_ok_iff, ih hr]
    constructor
    case mp =>
      rintro ⟨v, ⟨hx, hy⟩, vs, hv, rfl⟩
      exact .cons hx (.cons hy hv)
    case mpr =>
      intro hf
      cases vs
      case nil => cases hf
      case cons v vs =>
        cases hf
        case cons hx hf =>
          cases hf
          case cons hy hv => exact ⟨v, ⟨hx, hy⟩, vs, hv, rfl⟩
  case case2 tokens k hn =>
    have ht : tokens = [] := by
      match tokens, hn with
      | [], _           => rfl
      | [_], _          => contradiction
      | x :: y :: _, hn => exact (hn x y _ rfl).elim
    subst ht
    cases vs <;> simp [verticesFrom, pure_eq_ok_iff, Point.coordinates, List.forall₂_nil_left_iff]

-- The shape that some fields describe, if they are read as those of the kind `k`.
structure Fields.Describe (f : Fields) (k : Kind) (shape : Shape) : Prop where
  kind    : shape.kind = k
  numbers : List.Forall₂ Literal f.arguments shape.numbers
  count   : k.Takes f.arguments.length
  color   : ColorName.Spelled f.color shape.color

namespace Reading

variable {f : Fields} {shape : Shape}

theorem circle_eq_ok_iff : (circle f).value = .ok shape ↔ f.Describe .circle shape := by
  have ⟨header, keyword, arguments, color⟩ := f
  constructor
  case mp =>
    intro h
    unfold circle at h
    split at h
    case h_2 => contradiction
    case h_1 x y r he =>
      cases he
      simp only [bind_eq_ok_iff, pure_eq_ok_iff, integer_eq_ok_iff] at h
      obtain ⟨x, hx, y, hy, r, hr, name, hc, rfl⟩ := h
      exact ⟨rfl, .cons hx (.cons hy (.cons hr .nil)), rfl, Fields.colorName_eq_ok_iff.mp hc⟩
  case mpr =>
    intro ⟨hk, hn, _, hc⟩
    cases shape
    case circle =>
      rcases hn with _ | ⟨hx, _ | ⟨hy, _ | ⟨hr, _ | _⟩⟩⟩
      simp only [circle, bind_eq_ok_iff, pure_eq_ok_iff, integer_eq_ok_iff,
        Fields.colorName_eq_ok_iff]
      exact ⟨_, hx, _, hy, _, hr, _, hc, rfl⟩
    all_goals contradiction

theorem segment_eq_ok_iff : (segment f).value = .ok shape ↔ f.Describe .segment shape := by
  have ⟨header, keyword, arguments, color⟩ := f
  constructor
  case mp =>
    intro h
    unfold segment at h
    split at h
    case h_2 => contradiction
    case h_1 he =>
      cases he
      simp only [bind_eq_ok_iff, pure_eq_ok_iff, vertex_eq_ok_iff] at h
      obtain ⟨start, ⟨hx₁, hy₁⟩, stop, ⟨hx₂, hy₂⟩, name, hc, rfl⟩ := h
      exact ⟨rfl, .cons hx₁ (.cons hy₁ (.cons hx₂ (.cons hy₂ .nil))), rfl,
        Fields.colorName_eq_ok_iff.mp hc⟩
  case mpr =>
    intro ⟨hk, hn, _, hc⟩
    cases shape
    case segment =>
      rcases hn with _ | ⟨hx₁, _ | ⟨hy₁, _ | ⟨hx₂, _ | ⟨hy₂, _ | _⟩⟩⟩⟩
      simp only [segment, bind_eq_ok_iff, pure_eq_ok_iff, vertex_eq_ok_iff,
        Fields.colorName_eq_ok_iff]
      exact ⟨_, ⟨hx₁, hy₁⟩, _, ⟨hx₂, hy₂⟩, _, hc, rfl⟩
    all_goals contradiction

theorem triangle_eq_ok_iff : (triangle f).value = .ok shape ↔ f.Describe .triangle shape := by
  have ⟨header, keyword, arguments, color⟩ := f
  constructor
  case mp =>
    intro h
    unfold triangle at h
    split at h
    case h_2 => contradiction
    case h_1 he =>
      cases he
      simp only [bind_eq_ok_iff, pure_eq_ok_iff, vertex_eq_ok_iff] at h
      obtain ⟨a, ⟨hx₁, hy₁⟩, b, ⟨hx₂, hy₂⟩, c, ⟨hx₃, hy₃⟩, name, hc, rfl⟩ := h
      exact ⟨rfl, .cons hx₁ (.cons hy₁ (.cons hx₂ (.cons hy₂ (.cons hx₃ (.cons hy₃ .nil))))), rfl,
        Fields.colorName_eq_ok_iff.mp hc⟩
  case mpr =>
    intro ⟨hk, hn, _, hc⟩
    cases shape
    case triangle =>
      rcases hn with _ | ⟨hx₁, _ | ⟨hy₁, _ | ⟨hx₂, _ | ⟨hy₂, _ | ⟨hx₃, _ | ⟨hy₃, _ | _⟩⟩⟩⟩⟩⟩
      simp only [triangle, bind_eq_ok_iff, pure_eq_ok_iff, vertex_eq_ok_iff,
        Fields.colorName_eq_ok_iff]
      exact ⟨_, ⟨hx₁, hy₁⟩, _, ⟨hx₂, hy₂⟩, _, ⟨hx₃, hy₃⟩, _, hc, rfl⟩
    all_goals contradiction

theorem polygon_eq_ok_iff : (polygon f).value = .ok shape ↔ f.Describe .polygon shape := by
  have ⟨header, keyword, arguments, color⟩ := f
  simp only [polygon]
  constructor
  case mp =>
    intro h
    split at h
    case isTrue => contradiction
    case isFalse he =>
      have he : arguments.length % 2 = 0 := by simpa using he
      have ⟨vs, hv, h⟩ := bind_eq_ok_iff.mp h
      have hv := (verticesFrom_eq_ok_iff he).mp hv
      have hl : arguments.length = 2 * vs.length := hv.length_eq.trans (length_coordinates vs)
      split at h
      case isTrue => contradiction
      case isFalse hs =>
        have ⟨name, hc, h⟩ := bind_eq_ok_iff.mp h
        cases h
        have hs : 6 ≤ arguments.length := by omega
        exact ⟨rfl, hv, ⟨he, hs⟩, Fields.colorName_eq_ok_iff.mp hc⟩
  case mpr =>
    intro ⟨hk, hn, ⟨he, hs⟩, hc⟩
    cases shape
    case polygon vs name =>
      have hl : arguments.length = 2 * vs.length := hn.length_eq.trans (length_coordinates vs)
      have hs : ¬vs.length < 3 := by simp only at hs; omega
      have hv := (verticesFrom_eq_ok_iff (k := 1) he).mpr hn
      rw [if_neg (by simpa using he)]
      refine bind_eq_ok_iff.mpr ⟨vs, hv, ?_⟩
      rw [if_neg hs]
      exact bind_eq_ok_iff.mpr ⟨name, Fields.colorName_eq_ok_iff.mpr hc, rfl⟩
    all_goals contradiction

theorem ofKind_eq_ok_iff {k : Kind} :
    (Reading.ofKind k f).value = .ok shape ↔ f.Describe k shape := by
  cases k
  case circle   => exact circle_eq_ok_iff
  case segment  => exact segment_eq_ok_iff
  case triangle => exact triangle_eq_ok_iff
  case polygon  => exact polygon_eq_ok_iff

end Reading
end Command
end Easel
