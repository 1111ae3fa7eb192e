import Easel.Proofs.Eviction
import Easel.Proofs.Publication

namespace Easel

-- The blocks in which some pieces reach a file if they are written through a buffer of a given size,
-- which holds some bytes already. A piece for which there is no room left has the buffer emptied,
-- and does not go through it at all if it would fill it. The last block is what is flushed.
def Text.blocks (size : Nat) (held : List UInt8) : List Text → List (List UInt8)
  | []              => [held]
  | piece :: pieces =>
    if size ≤ piece.bytes.length then held :: piece.bytes :: blocks size [] pieces
    else if size < held.length + piece.bytes.length then held :: blocks size piece.bytes pieces
    else blocks size (held ++ piece.bytes) pieces

-- Nothing is lost in a buffer that is flushed.
theorem Text.flatten_blocks (size : Nat) (held : List UInt8) (pieces : List Text) :
    (blocks size held pieces).flatten = held ++ Text.bytes pieces.flatten := by
  fun_induction blocks size held pieces
  case case1       => simp [bytes]
  case case2 ih    => simp [ih]
  case case3 ih    => simp [ih]
  case case4 ih    => simp [ih]

namespace Sink

variable {piece : Text} {room : Nat} {written : Array UInt8}

theorem write_of_fits (h : piece.bytes.length ≤ room) :
    write ⟨some room, written⟩ piece =
      (⟨some (room - piece.bytes.length), written ++ piece.bytes⟩, .ok ()) :=
  if_pos h

theorem write_of_excess (h : room < piece.bytes.length) :
    write ⟨some room, written⟩ piece = (⟨some 0, written ++ piece.bytes.take room⟩, .error full) :=
  if_neg (Nat.not_le.mpr h)

-- A sink does not see where a piece ends and the next one begins. It takes as many bytes of all the
-- pieces as there is room for, and complains if there are more.
theorem writeAll_bounded (pieces : List Text) (room : Nat) (written : Array UInt8) :
    let bytes := Text.bytes pieces.flatten
    writeAll ⟨some room, written⟩ pieces =
      (⟨some (room - bytes.length), written ++ bytes.take room⟩,
        if bytes.length ≤ room then .ok () else .error full) := by
  induction pieces generalizing room written
  case nil => simp [writeAll, Text.bytes]
  case cons piece pieces ih =>
    simp only [List.flatten_cons, Text.bytes_append]
    generalize Text.bytes pieces.flatten = rest at ih
    by_cases h : piece.bytes.length ≤ room
    case pos =>
      have hr : room - piece.bytes.length - rest.length = room - (piece.bytes ++ rest).length := by
        rw [List.length_append, Nat.sub_sub]
      have hw : written ++ piece.bytes ++ rest.take (room - piece.bytes.length) =
          written ++ (piece.bytes ++ rest).take room := by
        rw [List.take_append, List.take_of_length_le h]
        exact Array.ext' (by simp)
      have hl : rest.length ≤ room - piece.bytes.length ↔ (piece.bytes ++ rest).length ≤ room := by
        rw [List.length_append]
        omega
      simp only [writeAll, write_of_fits h, ih, hr, hw, hl]
    case neg =>
      have h := Nat.lt_of_not_le h
      have hl : room < (piece.bytes ++ rest).length := by
        rw [List.length_append]
        omega
      have hr : room - (piece.bytes ++ rest).length = 0 := Nat.sub_eq_zero_of_le (Nat.le_of_lt hl)
      simp only [writeAll, write_of_excess h, hr, if_neg (Nat.not_le.mpr hl),
        List.take_append_of_le_length (Nat.le_of_lt h)]

end Sink

-- However many bytes there is room for, a document is written up to there and not any further, and
-- that it does not fit is the only thing that can go wrong. Where the pieces of the document end
-- makes no difference.
theorem Canvas.writeTo_fills_room (c : Canvas) (room : Nat) :
    let length := c.frame.length
    let sink   := (c.writeTo (.bounded room)).1
    let result := (c.writeTo (.bounded room)).2
    sink.written.toList = c.frame.take (min room length) ∧
      ((∃ f, result = .error f) ↔ room < length) ∧
      (∀ f, result = .error f → f.kind = .writeZero) ∧
      c.act (.writeTo (.bounded room)) = ⟨c, [], result⟩ ∧
      ∀ pieces, pieces.flatten = c.document →
        (Sink.bounded room).writeAll pieces = c.writeTo (.bounded room) := by
  intro length sink result
  have hw (pieces : List Text) (hp : pieces.flatten = c.document) :
      (Sink.bounded room).writeAll pieces =
        (⟨some (room - length), (#[] : Array UInt8) ++ c.frame.take room⟩,
          if length ≤ room then .ok () else .error Sink.full) := by
    have h := Sink.writeAll_bounded pieces room #[]
    rw [hp, ← c.frame_eq] at h
    exact h
  have hc : c.writeTo (.bounded room) = _ := hw c.pieces rfl
  have hr : result = if length ≤ room then .ok () else .error Sink.full := congrArg Prod.snd hc
  refine ⟨?written, ?fails, ?kind, rfl, fun pieces hp => (hw pieces hp).trans hc.symm⟩
  case written =>
    rw [← List.take_eq_take_min]
    simp [sink, hc]
  case fails =>
    rw [hr]
    split <;> simp <;> omega
  case kind =>
    intro f hf
    rw [hr] at hf
    split at hf
    case isTrue  => contradiction
    case isFalse => exact Except.error.inj hf ▸ rfl

end Easel
