import Easel.Display
import Easel.Proofs.Canvas
import Easel.Proofs.Run
import Easel.Proofs.Unreliable

namespace Easel

namespace Display

-- Only what is rendered comes onto the canvas. Presenting it does not change it, whether it succeeds
-- or not.
theorem perform_canvas (d : Display) (o : Operation) :
    (o.perform d).state.canvas = d.canvas.pushAll (Step.of d o).drawn?.toList := by
  cases o
  case render shape color => rfl
  case present =>
    have hd : (Step.of d .present).drawn? = none := rfl
    have hp : (Operation.present.perform d).state.canvas = d.canvas := by
      simp only [Operation.perform, Renderer.present, present]
      split
      case h_1 => rfl
      case h_2 => split <;> rfl
    rw [hd, hp]
    rfl

end Display

namespace Step

variable {a b : Unreliable Display} {steps : List (Step (Unreliable Display))}

theorem canvas_perform (u : Unreliable Display) (o : Operation) :
    (o.perform u).state.surface.canvas = u.surface.canvas.pushAll (Step.of u o).drawn?.toList := by
  cases hf : u.faults.head?.join
  case some f =>
    have hd : (Step.of u o).drawn? = none := by
      rw [of, Unreliable.perform_of_fault hf]
      cases o <;> rfl
    rw [hd, Unreliable.perform_of_fault hf]
    rfl
  case none =>
    have hd : (Step.of u o).drawn? = (Step.of u.surface o).drawn? := by
      rw [of, Unreliable.perform_of_no_fault hf]
      cases o <;> rfl
    rw [hd, Unreliable.perform_of_no_fault hf]
    exact u.surface.perform_canvas o

theorem Lead.canvas_eq (h : Lead a steps b) :
    b.surface.canvas = a.surface.canvas.pushAll (steps.filterMap drawn?) := by
  induction h
  case nil => rfl
  case cons a steps b o _ ih =>
    rw [ih, canvas_perform]
    cases h : (Step.of a o).drawn? <;> simp [Canvas.pushAll, h]

end Step

theorem Transcript.color_eq {c : Command.Chain Logged} {p : Palette} {calls : List Call}
    {steps : List (Step σ)} {answers : List (Except Failure Outcome)} {d : Drawn}
    (t : Transcript c p calls steps answers) (h : d ∈ steps.filterMap Step.drawn?) :
    d.color = (p.resolve d.shape.color.text).value := by
  induction t
  case nil => contradiction
  case cons hd _ ih =>
    rw [List.filterMap_append, List.mem_append] at h
    cases h
    case inr h => exact ih h
    case inl h => cases hd <;> simp_all [Step.drawn?]

-- The operations that a renderer is asked for are those of the commands among the calls. On a canvas
-- they leave the newest shapes that could be rendered, as many as there is room for, whether they
-- could be presented or not.
theorem run_draws_commands :
    (∀ {σ : Type} [Renderer σ] (s : Server σ) (calls : List Call),
      (s.recorded.after calls).map Recorded.surface = s.after calls ∧
        s.recorded.answers calls = s.answers calls ∧
        Step.Lead s.surface (s.steps calls) (s.after calls).surface ∧
        Transcript s.chain s.palette calls (s.steps calls) (s.answers calls)) ∧
      ∀ (chain : Command.Chain Logged) (palette : Palette) (timeout : Option Nat)
        (width height room : Nat) (output : Option Text) (disk : Disk)
        (obstacles : List (Option Obstacle)) (faults : List (Option Failure)) (calls : List Call),
        let canvas := Canvas.empty width height room output
        let reliable : Server Display := ⟨chain, palette, ⟨canvas, disk, obstacles⟩, timeout⟩
        let s := reliable.facing faults
        let drawn := (s.steps calls).filterMap Step.drawn?
        let shapes := (s.after calls).surface.surface.canvas.shapes
        shapes.size = min canvas.capacity drawn.length ∧
          shapes.toList = drawn.drop (drawn.length - canvas.capacity) ∧
          drawn.map Drawn.color =
            drawn.map fun d => (palette.resolve d.shape.color.text).value := by
  constructor
  case left =>
    intro σ _ s calls
    exact ⟨s.after_recorded_map calls, s.answers_recorded calls, s.lead_steps calls,
      s.transcript_steps calls⟩
  case right =>
    intro chain palette timeout width height room output disk obstacles faults calls canvas reliable s
      drawn shapes
    have hc : shapes = (canvas.pushAll drawn).shapes :=
      congrArg Canvas.shapes (s.lead_steps calls).canvas_eq
    refine ⟨?size, ?shapes, ?colors⟩
    case size =>
      rw [hc, canvas.size_pushAll, Nat.min_comm]
      simp [canvas]
    case shapes =>
      have h := canvas.toList_pushAll drawn
      rw [hc]
      simpa [canvas] using h
    case colors =>
      exact List.map_congr_left fun _ h => (s.transcript_steps calls).color_eq h

end Easel
