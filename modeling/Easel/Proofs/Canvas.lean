import Easel.Canvas
import Mathlib.Data.List.Basic

namespace Easel.Canvas

def pushAll (c : Canvas) (ds : List Drawn) : Canvas :=
  ds.foldl push c

-- A canvas with nothing on it.
def empty (width height room : Nat) (output : Option Text) : Canvas :=
  { (blank width height).withCapacity room with output }

@[simp]
theorem shapes_empty (width height room : Nat) (output : Option Text) :
    (empty width height room output).shapes = #[] := by
  simp [empty, withCapacity, blank, newest]

@[simp]
theorem capacity_push (c : Canvas) (d : Drawn) : (c.push d).capacity = c.capacity :=
  rfl

theorem size_push (c : Canvas) (d : Drawn) :
    (c.push d).shapes.size = min c.shapes.size (c.capacity - 1) + 1 := by
  simp [push, size_newest]

theorem pushAll_append (c : Canvas) (ds es : List Drawn) :
    c.pushAll (ds ++ es) = (c.pushAll ds).pushAll es :=
  List.foldl_append

@[simp]
theorem capacity_pushAll (c : Canvas) (ds : List Drawn) : (c.pushAll ds).capacity = c.capacity := by
  induction ds generalizing c
  case nil          => rfl
  case cons d ds ih => exact ih (c.push d)

@[simp]
theorem output_pushAll (c : Canvas) (ds : List Drawn) : (c.pushAll ds).output = c.output := by
  induction ds generalizing c
  case nil          => rfl
  case cons d ds ih => exact ih (c.push d)

-- Two pushes that drop the oldest shapes drop as many as one that comes after both.
theorem toList_pushAll (c : Canvas) (ds : List Drawn) :
    (c.pushAll ds).shapes.toList =
      (c.shapes.toList ++ ds).drop (c.shapes.size + ds.length - c.capacity) := by
  induction ds generalizing c
  case nil =>
    have hs : c.shapes.size - c.capacity = 0 := Nat.sub_eq_zero_of_le c.size_le
    simp [pushAll, hs]
  case cons d ds ih =>
    have hc := c.capacity_pos
    have hs := c.size_le
    have hd : c.shapes.size - (c.capacity - 1) ≤ c.shapes.toList.length := by simp
    have hn : c.shapes.size - (c.capacity - 1) +
        (min c.shapes.size (c.capacity - 1) + 1 + ds.length - c.capacity) =
        c.shapes.size + (d :: ds).length - c.capacity := by
      simp only [List.length_cons]
      omega
    have h := ih (c.push d)
    rw [toList_push, size_push, capacity_push, List.append_assoc,
      ← List.drop_append_of_le_length hd, List.drop_drop, hn] at h
    exact h

theorem size_pushAll (c : Canvas) (ds : List Drawn) :
    (c.pushAll ds).shapes.size = min (c.shapes.size + ds.length) c.capacity := by
  have hl := congrArg List.length (c.toList_pushAll ds)
  simp only [Array.length_toList, List.length_drop, List.length_append] at hl
  omega

-- The newest shapes stay where they are as long as there is room for them.
theorem suffix_pushAll {c : Canvas} {kept ds : List Drawn}
    (hk : kept <:+ c.shapes.toList) (hl : (kept ++ ds).length ≤ c.capacity) :
    kept ++ ds <:+ (c.pushAll ds).shapes.toList := by
  induction ds generalizing c kept
  case nil => simpa [pushAll] using hk
  case cons d ds ih =>
    have hp : kept ++ [d] <:+ (c.push d).shapes.toList := by
      have ⟨older, ho⟩ := hk
      have hs : c.shapes.size = older.length + kept.length := by
        rw [← Array.length_toList, ← ho, List.length_append]
      have hd : c.shapes.size - (c.capacity - 1) ≤ older.length := by simp at hl; omega
      rw [toList_push, ← ho, List.drop_append_of_le_length hd, List.append_assoc]
      exact List.suffix_append _ _
    have h := ih hp (by simpa using hl)
    rw [List.append_assoc] at h
    exact h

end Easel.Canvas
