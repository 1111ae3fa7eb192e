import Easel.Command.Fields
import Easel.Command.Integer
import Easel.Log

namespace Easel.Command

def integer (argument : Argument) (token : Text) : Except ArgumentError Int32 :=
  match integer? token with
  | some v => .ok v
  | none   => .error (.notAnInteger argument token)

-- The vertex with number `k`.
def vertex (k : Nat) (x y : Text) : Except ArgumentError Point := do
  return { x := ← integer (.x k) x, y := ← integer (.y k) y }

-- The vertices from number `k` on. A last coordinate without a partner is left out.
def verticesFrom (k : Nat) : List Text → Except ArgumentError (List Point)
  | x :: y :: rest => do return (← vertex k x y) :: (← verticesFrom (k + 1) rest)
  | _              => return []

def parsing (kind : Kind) : Record :=
  .debug ("parsing ".toList ++ kind.keyword)

-- What the reader of a shape comes to, with what it logs on the way.
abbrev Reading :=
  Logged (Except ArgumentError Shape)

namespace Reading

def wrongArity (expected : Nat) (f : Fields) : Reading :=
  ⟨[], .error (.arity expected f.arguments.length)⟩

-- `X CIRCLE cx cy radius color`
def circle (f : Fields) : Reading :=
  match f.arguments with
  | [x, y, r] =>
    ⟨[parsing .circle], do
      let center := { x := ← integer .centerX x, y := ← integer .centerY y }
      let radius ← integer .radius r
      return .circle center radius (← f.colorName)⟩
  | _ => wrongArity 3 f

-- `X SEGMENT x1 y1 x2 y2 color`
def segment (f : Fields) : Reading :=
  match f.arguments with
  | [x₁, y₁, x₂, y₂] =>
    ⟨[parsing .segment], do
      let start ← vertex 1 x₁ y₁
      let stop  ← vertex 2 x₂ y₂
      return .segment start stop (← f.colorName)⟩
  | _ => wrongArity 4 f

-- `X TRIANGLE x1 y1 x2 y2 x3 y3 color`
def triangle (f : Fields) : Reading :=
  match f.arguments with
  | [x₁, y₁, x₂, y₂, x₃, y₃] =>
    ⟨[parsing .triangle], do
      let a ← vertex 1 x₁ y₁
      let b ← vertex 2 x₂ y₂
      let c ← vertex 3 x₃ y₃
      return .triangle a b c (← f.colorName)⟩
  | _ => wrongArity 6 f

-- `X POLYGON x1 y1 … xn yn color`, with at least three vertices.
def polygon (f : Fields) : Reading :=
  ⟨[parsing .polygon],
    if f.arguments.length % 2 ≠ 0 then
      .error (.danglingCoordinate f.arguments.length)
    else do
      let vertices ← verticesFrom 1 f.arguments
      if vertices.length < 3 then .error (.tooFewVertices vertices.length)
      else return .polygon vertices (← f.colorName)⟩

-- The reader that belongs to a kind of shape.
def ofKind : Kind → Fields → Reading
  | .circle   => circle
  | .segment  => segment
  | .triangle => triangle
  | .polygon  => polygon

end Reading
end Easel.Command
