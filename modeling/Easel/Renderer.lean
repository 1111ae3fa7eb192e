import Easel.Color
import Easel.Failure
import Easel.Log
import Easel.Shape

namespace Easel

-- What an operation on a `σ` comes to: the state it leaves behind, whether it succeeded or not, and
-- the records that were written.
structure Effect (σ : Type) (α : Type) where
  state  : σ
  log    : List Record
  result : Except Failure α

namespace Effect

def pure {σ α : Type} (s : σ) (a : α) : Effect σ α :=
  ⟨s, [], .ok a⟩

-- Goes on with `f`, unless there was a failure.
def andThen {σ α β : Type} (e : Effect σ α) (f : σ → α → Effect σ β) : Effect σ β :=
  match e.result with
  | .error failure => ⟨e.state, e.log, .error failure⟩
  | .ok a          => let e' := f e.state a; ⟨e'.state, e.log ++ e'.log, e'.result⟩

-- The same effect, with `rs` written before everything else.
def after {σ α : Type} (rs : List Record) (e : Effect σ α) : Effect σ α :=
  { e with log := rs ++ e.log }

-- The same effect on a state that is part of a larger one.
def embed {σ τ α : Type} (f : σ → τ) (e : Effect σ α) : Effect τ α :=
  ⟨f e.state, e.log, e.result⟩

end Effect

-- Something that shapes are drawn on. Whatever has been rendered becomes visible by presenting it.
-- Surfaces on which it is visible at once have nothing to do for that.
class Renderer (σ : Type) where
  render  : σ → Shape → Color → Effect σ Unit
  present : σ → Effect σ Unit := (Effect.pure · ())

end Easel
