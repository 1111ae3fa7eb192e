import Easel.Text.Normal

namespace Easel

structure Point where
  x : Int32
  y : Int32
  deriving DecidableEq

-- The name of a color as a command gives it, in normal form. Whether a color has that name is the
-- palette's to say.
@[ext]
structure ColorName extends Text.Normal where
  nonempty : text ≠ []
  deriving DecidableEq

-- A name has at least one character that is not blank.
def ColorName.ofText? (t : Text) : Option ColorName :=
  if h : t.trim = [] then none
  else some { t.normalized with nonempty := mt Text.lower_eq_nil_iff.mp h }

inductive Kind
  | circle
  | segment
  | triangle
  | polygon
  deriving DecidableEq

namespace Kind

def keyword : Kind → Text
  | circle   => "CIRCLE".toList
  | segment  => "SEGMENT".toList
  | triangle => "TRIANGLE".toList
  | polygon  => "POLYGON".toList

def name : Kind → Text
  | circle   => "Circle".toList
  | segment  => "Segment".toList
  | triangle => "Triangle".toList
  | polygon  => "Polygon".toList

-- Other spellings of the keyword: old clients write an E at the end of POLYGON.
def aliases : Kind → List Text
  | polygon => ["POLYGONE".toList]
  | _       => []

-- Whether a command with the keyword `t` asks for a shape of this kind.
def named (k : Kind) (t : Text) : Bool :=
  k.keyword.sameLetters t || k.aliases.any (·.sameLetters t)

end Kind

inductive Shape
  | circle (center : Point) (radius : Int32) (color : ColorName)
  | segment (start stop : Point) (color : ColorName)
  | triangle (a b c : Point) (color : ColorName)
  | polygon (vertices : List Point) (color : ColorName)
  deriving DecidableEq

namespace Shape

def kind : Shape → Kind
  | circle ..   => .circle
  | segment ..  => .segment
  | triangle .. => .triangle
  | polygon ..  => .polygon

def color : Shape → ColorName
  | circle _ _ c | segment _ _ c | triangle _ _ _ c | polygon _ c => c

end Shape
end Easel
