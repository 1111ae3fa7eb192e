import Easel.Color
import Easel.Log
import Easel.Shape

namespace Easel

-- A shape as it stands on a canvas.
structure Drawn where
  shape : Shape
  color : Color
  deriving DecidableEq

-- The shapes drawn last, oldest first. There is room for at least one of them, and there are never
-- more than there is room for, which is what bounds the size of a document. The canvas is published
-- as the file `output`, if it has one.
structure Canvas where
  width        : Nat
  height       : Nat
  capacity     : Nat
  output       : Option Text
  shapes       : Array Drawn
  capacity_pos : 0 < capacity
  size_le      : shapes.size ≤ capacity

namespace Canvas

def defaultWidth : Nat := 1000
def defaultHeight : Nat := 800
def defaultCapacity : Nat := 10000

def blank (width height : Nat) : Canvas where
  width        := width
  height       := height
  capacity     := defaultCapacity
  output       := none
  shapes       := #[]
  capacity_pos := by decide
  size_le      := Nat.zero_le _

def standard : Canvas :=
  blank defaultWidth defaultHeight

-- The newest shapes, as many as there is room for.
def newest (room : Nat) (shapes : Array Drawn) : Array Drawn :=
  if shapes.size ≤ room then shapes else shapes.extract (shapes.size - room) shapes.size

theorem toList_newest (room : Nat) (shapes : Array Drawn) :
    (newest room shapes).toList = shapes.toList.drop (shapes.size - room) := by
  unfold newest
  split
  case isTrue h => simp [Nat.sub_eq_zero_of_le h]
  case isFalse => simp [List.take_of_length_le]

theorem size_newest (room : Nat) (shapes : Array Drawn) :
    (newest room shapes).size = min shapes.size room := by
  simp only [← Array.length_toList, toList_newest, List.length_drop]
  omega

-- However little room is asked for, there is some.
def withCapacity (c : Canvas) (n : Nat) : Canvas :=
  { c with
    capacity     := max n 1
    shapes       := newest (max n 1) c.shapes
    capacity_pos := Nat.le_max_right n 1
    size_le      := size_newest .. ▸ Nat.min_le_right .. }

def withOutput (c : Canvas) (path : Text) : Canvas :=
  { c with output := some path }

-- The oldest shapes make room for the new one.
def push (c : Canvas) (d : Drawn) : Canvas :=
  { c with
    shapes  := (newest (c.capacity - 1) c.shapes).push d
    size_le := by
      have h := c.capacity_pos
      rw [Array.size_push, size_newest]
      omega }

theorem toList_push (c : Canvas) (d : Drawn) :
    (c.push d).shapes.toList = c.shapes.toList.drop (c.shapes.size - (c.capacity - 1)) ++ [d] := by
  simp [push, toList_newest]

-- A radius below zero is worth a warning, though the circle is drawn all the same.
def radiusWarning : Shape → List Record
  | .circle _ r _ =>
    if r < 0 then
      [.warn ("negative radius ".toList ++ Text.ofInt r.toInt ++
        ", drawing with ".toList ++ Text.ofNat r.toInt.natAbs)]
    else []
  | _ => []

def drawing (d : Drawn) : Record :=
  .debug ("drawing ".toList ++ d.shape.kind.keyword ++ " in ".toList ++ d.color.text)

-- The canvas with a further shape on it, and what the log says about that.
def draw (c : Canvas) (shape : Shape) (color : Color) : Logged Canvas :=
  let d := { shape, color }
  ⟨radiusWarning shape ++ [drawing d], c.push d⟩

end Canvas
end Easel
