import Easel.Proofs.Run

namespace Easel

-- A surface that can fail at any time. The operations to come meet the faults one after the other,
-- and none when there are no more of them. An operation that meets one does not reach the surface.
structure Unreliable (σ : Type) where
  surface : σ
  faults  : List (Option Failure)

namespace Unreliable

variable {σ : Type} [Renderer σ]

def perform (u : Unreliable σ) (o : Operation) : Effect (Unreliable σ) Unit :=
  match u.faults.head?.join with
  | some f => ⟨{ u with faults := u.faults.tail }, [], .error f⟩
  | none   => (o.perform u.surface).embed ({ surface := ·, faults := u.faults.tail })

instance : Renderer (Unreliable σ) where
  render u shape color := u.perform (.render shape color)
  present u            := u.perform .present

theorem perform_of_fault {u : Unreliable σ} {f : Failure} (h : u.faults.head?.join = some f)
    (o : Operation) : o.perform u = ⟨{ u with faults := u.faults.tail }, [], .error f⟩ := by
  cases o <;> simp [Operation.perform, Renderer.render, Renderer.present, perform, h]

theorem perform_of_no_fault {u : Unreliable σ} (h : u.faults.head?.join = none) (o : Operation) :
    o.perform u = (o.perform u.surface).embed ({ surface := ·, faults := u.faults.tail }) := by
  cases o <;> simp only [Operation.perform, Renderer.render, Renderer.present, perform, h]

-- Nothing is written by an operation that meets a fault.
theorem mem_log {u : Unreliable σ} {o : Operation} {r : Record} (h : r ∈ (o.perform u).log) :
    r ∈ (o.perform u.surface).log := by
  cases hf : u.faults.head?.join
  case some f =>
    rw [perform_of_fault hf] at h
    contradiction
  case none =>
    rw [perform_of_no_fault hf] at h
    exact h

-- Without faults there is no difference.
theorem reliable_morphism : Renderer.Morphism fun surface : σ => Unreliable.mk surface [] where
  perform _ o := by cases o <;> rfl

end Unreliable

-- A server whose surface meets some faults.
def Server.facing {σ : Type} (faults : List (Option Failure)) : Server σ → Server (Unreliable σ) :=
  map fun surface => ⟨surface, faults⟩

theorem Server.after_facing_nothing {σ : Type} [Renderer σ] (s : Server σ) (calls : List Call) :
    (s.facing []).after calls = (s.after calls).facing [] :=
  s.after_map Unreliable.reliable_morphism calls

end Easel
