import Easel.Proofs.Command.Misreading

namespace Easel.Command

open Unicode

-- The first of some faults, and what is said about it.
inductive Foremost {α ε : Type} : List (α → ε → Prop) → α → ε → Prop
  | here  : fault a e → Foremost (fault :: faults) a e
  | later : (∀ e, ¬fault a e) → Foremost faults a e → Foremost (fault :: faults) a e

namespace Foremost

variable {α ε : Type} {a : α} {e e' : ε} {faults : List (α → ε → Prop)}

theorem unique (hu : ∀ fault ∈ faults, ∀ e e', fault a e → fault a e' → e = e')
    (h : Foremost faults a e) (h' : Foremost faults a e') : e = e' := by
  induction h
  case here h =>
    cases h'
    case here h'    => exact hu _ List.mem_cons_self _ _ h h'
    case later hn _ => exact (hn _ h).elim
  case later hn _ ih =>
    cases h'
    case here h'  => exact (hn _ h').elim
    case later h' => exact ih (fun fault hf => hu fault (List.mem_cons_of_mem _ hf)) h'

end Foremost

namespace Fields

inductive Miscounted : Kind → Fields → ArgumentError → Prop
  | circle   : f.arguments.length ≠ 3 → Miscounted .circle f (.arity 3 f.arguments.length)
  | segment  : f.arguments.length ≠ 4 → Miscounted .segment f (.arity 4 f.arguments.length)
  | triangle : f.arguments.length ≠ 6 → Miscounted .triangle f (.arity 6 f.arguments.length)
  | polygon  : f.arguments.length % 2 = 1 →
      Miscounted .polygon f (.danglingCoordinate f.arguments.length)

def Unreadable (k : Kind) (f : Fields) : ArgumentError → Prop :=
  Misread k 0 f.arguments

inductive TooSmall : Kind → Fields → ArgumentError → Prop
  | intro : f.arguments.length / 2 < 3 →
      TooSmall .polygon f (.tooFewVertices (f.arguments.length / 2))

inductive Blank (k : Kind) (f : Fields) : ArgumentError → Prop
  | intro : (∀ c ∈ f.color, isWhiteSpace c) → Blank k f (.missing .color)

-- What can be wrong with the arguments and the color, in the order in which it is looked for.
def defects (k : Kind) : List (Fields → ArgumentError → Prop) :=
  [Miscounted k, Unreadable k, TooSmall k, Blank k]

end Fields

namespace Fields

variable {f : Fields} {k : Kind} {e e' : ArgumentError} {shape : Shape}

theorem Miscounted.unique (h : Miscounted k f e) (h' : Miscounted k f e') : e = e' := by
  cases h <;> cases h' <;> rfl

end Fields

namespace Reading

open Fields

variable {f : Fields} {e : ArgumentError}

end Reading

end Easel.Command
