import Easel.Proofs.Digits
import Easel.Proofs.Publication

namespace Easel

-- What can be seen of a shape that has been drawn. Triangles and polygons look alike, circles do
-- not show the sign of their radius, and nothing shows by which name its color was asked for.
inductive Item
  | circle (center : Point) (radius : Nat) (color : Color)
  | line (start stop : Point) (color : Color)
  | outline (vertices : List Point) (color : Color)
  deriving DecidableEq

def Drawn.item (d : Drawn) : Item :=
  match d.shape with
  | .circle center radius _ => .circle center radius.toInt.natAbs d.color
  | .segment start stop _   => .line start stop d.color
  | .triangle a b c _       => .outline [a, b, c] d.color
  | .polygon vertices _     => .outline vertices d.color

namespace Item

variable {rest rest' : Text}

-- An item is written like any shape that it can be seen of.
def pieces : Item → List Text
  | circle center radius color => Canvas.circlePieces center radius color
  | line start stop color      => Canvas.linePieces start stop color
  | outline vertices color     => Canvas.outlinePieces vertices color

def text (i : Item) : Text :=
  i.pieces.flatten

-- The second character of an item tells which one it is.
def tag : Item → Char
  | circle ..  => 'c'
  | line ..    => 'l'
  | outline .. => 'p'

theorem getElem?_text_append (i : Item) (rest : Text) : (i.text ++ rest)[1]? = some i.tag := by
  cases i <;> rfl

-- Points that stand behind another one.
def furtherText (ps : List Point) : Text :=
  ps.flatMap fun p => ' ' :: (Canvas.pointPieces p).flatten

theorem flatten_pointsPieces (p : Point) (ps : List Point) :
    (Canvas.pointsPieces (p :: ps)).flatten =
      (Canvas.pointPieces p).flatten ++ furtherText ps := by
  induction ps generalizing p
  case nil => simp [Canvas.pointsPieces, furtherText]
  case cons q ps ih => simp [Canvas.pointsPieces, furtherText, ih]

theorem pointText_append_inj {p q : Point} (h : rest.EndsNumber) (h' : rest'.EndsNumber) :
    (Canvas.pointPieces p).flatten ++ rest = (Canvas.pointPieces q).flatten ++ rest' ↔
      p = q ∧ rest = rest' := by
  obtain ⟨x, y⟩ := p
  obtain ⟨x', y'⟩ := q
  simp [Canvas.pointPieces, Text.ofInt_append_inj, h, h', Int32.toInt_inj, and_assoc]

theorem endsNumber_furtherText (ps : List Point) :
    (furtherText ps ++ '"' :: rest).EndsNumber := by
  cases ps <;> simp [furtherText]

-- A blank announces a further point, and a quotation mark that there is none.
theorem furtherText_append_inj {ps qs : List Point} :
    furtherText ps ++ '"' :: rest = furtherText qs ++ '"' :: rest' ↔ ps = qs ∧ rest = rest' := by
  induction ps generalizing qs
  case nil => cases qs <;> simp [furtherText]
  case cons p ps ih =>
    cases qs
    case nil => simp [furtherText]
    case cons q qs =>
      have hp (p : Point) (ps : List Point) (rest : Text) : furtherText (p :: ps) ++ '"' :: rest =
          ' ' :: ((Canvas.pointPieces p).flatten ++ (furtherText ps ++ '"' :: rest)) := by
        simp [furtherText]
      rw [hp, hp, List.cons_inj_right,
        pointText_append_inj (endsNumber_furtherText ps) (endsNumber_furtherText qs), ih]
      simp [and_assoc]

theorem pointsText_append_inj {ps qs : List Point} :
    (Canvas.pointsPieces ps).flatten ++ '"' :: rest =
        (Canvas.pointsPieces qs).flatten ++ '"' :: rest' ↔ ps = qs ∧ rest = rest' := by
  have hn {p : Point} {rest rest' : Text} :
      (Canvas.pointPieces p).flatten ++ rest ≠ '"' :: rest' := by
    simpa [Canvas.pointPieces] using Text.ofInt_append_ne (by decide) (by decide)
  cases ps <;> cases qs
  case nil.nil   => simp [Canvas.pointsPieces]
  case nil.cons  => simp [flatten_pointsPieces, Canvas.pointsPieces, hn.symm]
  case cons.nil  => simp [flatten_pointsPieces, Canvas.pointsPieces, hn]
  case cons.cons p ps q qs =>
    rw [flatten_pointsPieces, flatten_pointsPieces, List.append_assoc, List.append_assoc,
      pointText_append_inj (endsNumber_furtherText ps) (endsNumber_furtherText qs),
      furtherText_append_inj]
    simp [and_assoc]

theorem tag_eq_of_text_append_eq {i j : Item} (h : i.text ++ rest = j.text ++ rest') :
    i.tag = j.tag := by
  have ht := congrArg (·[1]?) h
  rw [getElem?_text_append, getElem?_text_append] at ht
  exact Option.some.inj ht

theorem text_append_inj {i j : Item} :
    i.text ++ rest = j.text ++ rest' ↔ i = j ∧ rest = rest' := by
  cases i <;> cases j
  case circle.circle c r color c' r' color' =>
    obtain ⟨x, y⟩ := c
    obtain ⟨x', y'⟩ := c'
    simp only [text, pieces, Canvas.circlePieces, List.flatten_cons, List.flatten_nil,
      List.append_assoc]
    rw [List.append_cancel_left_eq, Text.ofInt_literal_inj rfl, Text.ofInt_literal_inj rfl,
      Text.ofNat_literal_inj rfl, Color.text_append_inj, List.append_cancel_left_eq]
    simp [Int32.toInt_inj, and_assoc]
  case line.line a b color a' b' color' =>
    obtain ⟨x, y⟩ := a
    obtain ⟨x', y'⟩ := a'
    obtain ⟨z, w⟩ := b
    obtain ⟨z', w'⟩ := b'
    simp only [text, pieces, Canvas.linePieces, List.flatten_cons, List.flatten_nil,
      List.append_assoc]
    rw [List.append_cancel_left_eq, Text.ofInt_literal_inj rfl, Text.ofInt_literal_inj rfl,
      Text.ofInt_literal_inj rfl, Text.ofInt_literal_inj rfl, Color.text_append_inj,
      List.append_cancel_left_eq]
    simp [Int32.toInt_inj, and_assoc]
  case outline.outline ps color qs color' =>
    have hq : "\" fill=\"none\" stroke=\"".toList = '"' :: " fill=\"none\" stroke=\"".toList := rfl
    simp only [text, pieces, Canvas.outlinePieces, List.flatten_cons, List.flatten_nil,
      List.append_assoc, List.cons_append, List.flatten_append, hq]
    rw [List.append_cancel_left_eq, pointsText_append_inj, List.append_cancel_left_eq,
      Color.text_append_inj, List.append_cancel_left_eq]
    simp [and_assoc]
  -- Items of two sorts differ in their tags, whatever comes after them.
  all_goals
    refine ⟨fun h => ?_, fun h => nomatch h.left⟩
    have ht := tag_eq_of_text_append_eq h
    simp [tag] at ht

-- The end of the document cannot be taken for a further item.
theorem cons_text_closing_ne (i : Item) (is : List Item) :
    (i :: is).flatMap text ++ "</svg>\n".toList ≠ "</svg>\n".toList := by
  rw [List.flatMap_cons, List.append_assoc]
  intro h
  have ht := congrArg (·[1]?) h
  rw [getElem?_text_append] at ht
  cases i <;> simp [tag] at ht

theorem flatMap_text_closing_inj {is js : List Item} :
    is.flatMap text ++ "</svg>\n".toList = js.flatMap text ++ "</svg>\n".toList ↔ is = js := by
  induction is generalizing js
  case nil =>
    cases js
    case nil => simp
    case cons j js => exact ⟨fun h => (cons_text_closing_ne j js h.symm).elim, nofun⟩
  case cons i is ih =>
    cases js
    case nil => exact ⟨fun h => (cons_text_closing_ne i is h).elim, nofun⟩
    case cons j js =>
      rw [List.flatMap_cons, List.flatMap_cons, List.append_assoc, List.append_assoc,
        text_append_inj, ih, List.cons.injEq]

end Item

namespace Canvas

variable {c c' : Canvas}

-- Everything that can be seen on the canvas, the oldest first.
def items (c : Canvas) : List Item :=
  c.shapes.toList.map Drawn.item

theorem pieces_item (d : Drawn) : d.item.pieces = shapePieces d := by
  obtain ⟨shape, color⟩ := d
  cases shape <;> rfl

theorem document_eq (c : Canvas) :
    c.document =
      c.openingPieces.flatten ++ (c.items.flatMap Item.text ++ "</svg>\n".toList) := by
  have hi : c.items.flatMap Item.text = (c.shapes.toList.flatMap shapePieces).flatten := by
    simp only [items, Item.text, pieces_item, List.flatMap, List.flatten_flatten,
      List.map_map, Function.comp_def]
  simp only [document, pieces, List.flatten_append, hi, List.append_assoc, List.flatten_cons,
    List.flatten_nil, List.append_nil]

theorem openingText_append_inj {rest rest' : Text} :
    c.openingPieces.flatten ++ rest = c'.openingPieces.flatten ++ rest' ↔
      c.width = c'.width ∧ c.height = c'.height ∧ rest = rest' := by
  simp only [openingPieces, List.flatten_cons, List.flatten_nil, List.append_assoc]
  rw [List.append_cancel_left_eq, Text.ofNat_literal_inj rfl, Text.ofNat_literal_inj rfl,
    List.append_cancel_left_eq, List.nil_append, List.nil_append]

-- A document can be read back in one way only: it tells the size of the canvas and the items on it,
-- and nothing else.
theorem frame_eq_iff_same_items (c c' : Canvas) :
    c.frame = c'.frame ↔ c.width = c'.width ∧ c.height = c'.height ∧ c.items = c'.items := by
  have hb : c.frame = c'.frame ↔ c.document = c'.document := by
    rw [frame_eq, frame_eq]
    exact Text.bytes_inj
  rw [hb, document_eq, document_eq, openingText_append_inj, Item.flatMap_text_closing_inj]

end Canvas
end Easel
