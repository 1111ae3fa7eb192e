import Easel.Color
import Easel.Log
import Easel.Text.Normal
import Easel.Text.Quoted

namespace Easel

-- Colors by name. The latest entry comes first, so it hides older ones of the same name; a name
-- without an entry stands for the fallback.
structure Palette where
  entries  : List (Text.Normal × Color)
  fallback : Color

namespace Palette

def empty (fallback : Color) : Palette :=
  ⟨[], fallback⟩

def withColor (p : Palette) (name : Text) (color : Color) : Palette :=
  { p with entries := (name.normalized, color) :: p.entries }

def get? (p : Palette) (name : Text) : Option Color :=
  p.entries.lookup name.normalized

theorem get?_withColor (p : Palette) (name other : Text) (color : Color) :
    (p.withColor name color).get? other =
      if other.normal = name.normal then some color else p.get? other := by
  simp only [← Text.normalized_inj]
  grind [withColor, get?]

-- The colors that every easel knows.
def standard : Palette :=
  [("red", ⟨255, 0, 0⟩), ("green", ⟨0, 255, 0⟩), ("blue", ⟨0, 0, 255⟩), ("yellow", ⟨255, 255, 0⟩),
    ("black", ⟨0, 0, 0⟩), ("cyan", ⟨0, 255, 255⟩)].foldl
      (fun p (name, color) => p.withColor name.toList color) (empty .black)

def unknownColor (p : Palette) (name : Text) : Record :=
  .debug ("unknown color ".toList ++ name.quoted ++ ", using ".toList ++ p.fallback.text)

-- The color to draw with. Falling back on an unknown name is noted in the log.
def resolve (p : Palette) (name : Text) : Logged Color :=
  match p.get? name with
  | some c => ⟨[], c⟩
  | none   => ⟨[p.unknownColor name], p.fallback⟩

end Palette
end Easel
