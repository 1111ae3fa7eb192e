import Easel.Canvas
import Easel.Canvas.Sink

namespace Easel

-- The pieces of text that make up a document, in the order in which they are written.
namespace Canvas

def pointPieces (p : Point) : List Text :=
  [Text.ofInt p.x.toInt, [','], Text.ofInt p.y.toInt]

-- Points stand apart by single spaces.
def pointsPieces : List Point → List Text
  | []      => []
  | [p]     => pointPieces p
  | p :: ps => pointPieces p ++ [' '] :: pointsPieces ps

-- Shapes are elements with an outline and no filling.
def circlePieces (center : Point) (radius : Nat) (color : Color) : List Text :=
  ["<circle cx=\"".toList, Text.ofInt center.x.toInt, "\" cy=\"".toList, Text.ofInt center.y.toInt,
    "\" r=\"".toList, Text.ofNat radius, "\" fill=\"none\" stroke=\"".toList,
    color.text, "\" />\n".toList]

def linePieces (start stop : Point) (color : Color) : List Text :=
  ["<line x1=\"".toList, Text.ofInt start.x.toInt, "\" y1=\"".toList, Text.ofInt start.y.toInt,
    "\" x2=\"".toList, Text.ofInt stop.x.toInt, "\" y2=\"".toList, Text.ofInt stop.y.toInt,
    "\" stroke=\"".toList, color.text, "\" />\n".toList]

def outlinePieces (vertices : List Point) (color : Color) : List Text :=
  "<polygon points=\"".toList :: pointsPieces vertices ++
    ["\" fill=\"none\" stroke=\"".toList, color.text, "\" />\n".toList]

-- The radius of a circle is written without its sign, and a triangle is a polygon.
def shapePieces (d : Drawn) : List Text :=
  match d.shape with
  | .circle center radius _ => circlePieces center radius.toInt.natAbs d.color
  | .segment start stop _   => linePieces start stop d.color
  | .triangle a b c _       => outlinePieces [a, b, c] d.color
  | .polygon vertices _     => outlinePieces vertices d.color

def openingPieces (c : Canvas) : List Text :=
  ["<svg version=\"1.1\" width=\"".toList, Text.ofNat c.width, "\" height=\"".toList,
    Text.ofNat c.height, "\" xmlns=\"http://www.w3.org/2000/svg\">\n".toList,
    "<rect width=\"100%\" height=\"100%\" fill=\"white\" />\n".toList]

def pieces (c : Canvas) : List Text :=
  c.openingPieces ++ c.shapes.toList.flatMap shapePieces ++ ["</svg>\n".toList]

-- The drawing as SVG: a white ground, and on it the shapes from the oldest to the newest.
def document (c : Canvas) : Text :=
  c.pieces.flatten

-- Writes the document piece by piece, up to the first piece that does not fit.
def writeTo (c : Canvas) (s : Sink) : Sink × Except Failure Unit :=
  s.writeAll c.pieces

end Canvas
end Easel
