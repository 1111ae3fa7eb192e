import Easel.Proofs.Drawing

namespace Easel.Canvas

-- A loop that drops the oldest shape of a queue for as long as the queue is crowded: what it keeps
-- when it comes to its end. There is nothing to drop from a queue without shapes, so a loop that
-- finds such a queue crowded goes on forever.
inductive Evicts (crowded : Nat → Prop) : List Drawn → List Drawn → Prop
  | done : ¬crowded queue.length → Evicts crowded queue queue
  | drop : crowded queue.length → Evicts crowded queue.tail kept → Evicts crowded queue kept

-- What can be done to a canvas. An operation may meet any disk, and any obstacles on it.
inductive Action
  | withCapacity (n : Nat)
  | withOutput (path : Text)
  | writeTo (sink : Sink)
  | perform (o : Operation) (disk : Disk) (obstacles : List (Option Obstacle))

-- What an action is to draw.
def Action.drawn? : Action → Option Drawn
  | .perform (.render shape color) _ _ => some ⟨shape, color⟩
  | _                                  => none

def act (c : Canvas) : Action → Effect Canvas Unit
  | .withCapacity n           => .pure (c.withCapacity n) ()
  | .withOutput path          => .pure (c.withOutput path) ()
  | .writeTo sink             => ⟨c, [], (c.writeTo sink).2⟩
  | .perform o disk obstacles => (o.perform ⟨c, disk, obstacles⟩).embed Display.canvas

namespace Evicts

variable {crowded : Nat → Prop} {room : Nat} {queue kept kept' : List Drawn}

theorem unique (h : Evicts crowded queue kept) (h' : Evicts crowded queue kept') :
    kept = kept' := by
  induction h
  case done hn =>
    cases h'
    case done => rfl
    case drop => contradiction
  case drop _ _ ih =>
    cases h'
    case done    => contradiction
    case drop h' => exact ih h'

end Evicts

section

variable {c : Canvas} {history : List Drawn}

end

end Easel.Canvas
