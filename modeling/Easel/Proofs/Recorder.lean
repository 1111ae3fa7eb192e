import Easel.Canvas
import Easel.Renderer

namespace Easel

-- What a renderer can be asked for.
inductive Operation
  | render (shape : Shape) (color : Color)
  | present
  deriving DecidableEq

def Operation.perform {σ : Type} [Renderer σ] (surface : σ) : Operation → Effect σ Unit
  | render shape color => Renderer.render surface shape color
  | present            => Renderer.present surface

-- Surfaces that can be seen as others, on which every operation comes to the same.
structure Renderer.Morphism {σ τ : Type} [Renderer σ] [Renderer τ] (f : σ → τ) : Prop where
  perform : ∀ a (o : Operation), o.perform (f a) = (o.perform a).embed f

-- An operation that was performed, and what it came to.
structure Step (σ : Type) where
  operation : Operation
  before    : σ
  after     : σ
  result    : Except Failure Unit

namespace Step

variable {σ : Type}

def of [Renderer σ] (surface : σ) (o : Operation) : Step σ :=
  ⟨o, surface, (o.perform surface).state, (o.perform surface).result⟩

theorem of_eq [Renderer σ] {surface : σ} {o : Operation} {result : Except Failure Unit}
    (h : (o.perform surface).result = result) :
    of surface o = ⟨o, surface, (o.perform surface).state, result⟩ := by
  rw [of, h]

-- What came onto the surface by a step.
def drawn? (s : Step σ) : Option Drawn :=
  match s.operation, s.result with
  | .render shape color, .ok () => some ⟨shape, color⟩
  | _, _                        => none

-- The surface that became visible by a step.
def shown? (s : Step σ) : Option σ :=
  match s.operation, s.result with
  | .present, .ok () => some s.after
  | _, _             => none

-- The surface that is there after some steps.
def reached (a : σ) (steps : List (Step σ)) : σ :=
  steps.foldl (fun _ s => s.after) a

-- The steps from one surface to another.
inductive Lead [Renderer σ] : σ → List (Step σ) → σ → Prop
  | nil  : Lead a [] a
  | cons (o : Operation) : Lead (o.perform a).state steps b → Lead a (of a o :: steps) b

variable [Renderer σ] {a b c : σ} {steps steps' : List (Step σ)}

theorem Lead.single (a : σ) (o : Operation) : Lead a [of a o] (o.perform a).state :=
  .cons o .nil

theorem Lead.append (h : Lead a steps b) (h' : Lead b steps' c) : Lead a (steps ++ steps') c := by
  induction h
  case nil         => exact h'
  case cons o _ ih => exact .cons o (ih h')

theorem Lead.reached_eq (h : Lead a steps b) : reached a steps = b := by
  induction h
  case nil         => rfl
  case cons _ _ ih => exact ih

theorem Lead.split (h : Lead a (steps ++ steps') c) :
    Lead a steps (reached a steps) ∧ Lead (reached a steps) steps' c := by
  induction steps generalizing a
  case nil => exact ⟨.nil, h⟩
  case cons step steps ih =>
    cases h
    case cons o h =>
      have ⟨hl, hr⟩ := ih h
      exact ⟨.cons o hl, hr⟩

end Step

-- A surface on which all operations are recorded, the first one first.
structure Recorded (σ : Type) where
  surface : σ
  steps   : List (Step σ)

namespace Recorded

variable {σ : Type} [Renderer σ]

def perform (r : Recorded σ) (o : Operation) : Effect (Recorded σ) Unit :=
  (o.perform r.surface).embed ({ surface := ·, steps := r.steps ++ [.of r.surface o] })

instance : Renderer (Recorded σ) where
  render r shape color := r.perform (.render shape color)
  present r            := r.perform .present

theorem surface_morphism : Renderer.Morphism (surface : Recorded σ → σ) where
  perform _ o := by cases o <;> rfl

-- The same surface, on which `steps` were recorded before everything else.
def behind (steps : List (Step σ)) (r : Recorded σ) : Recorded σ :=
  { r with steps := steps ++ r.steps }

theorem behind_morphism (steps : List (Step σ)) : Renderer.Morphism (behind steps) where
  perform _ o := by
    cases o <;> simp only [Operation.perform, Renderer.render, Renderer.present, perform, behind,
      Effect.embed, List.append_assoc]

end Recorded
end Easel
