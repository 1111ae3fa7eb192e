import Easel.Display
import Easel.Proofs.Name
import Easel.Proofs.Run
import Mathlib.Data.List.TakeWhile

namespace Easel

namespace Text

-- All the bytes of a character that takes more than one are beyond ASCII.
theorem eq_of_lineFeed_mem {c : Char} (h : Request.lineFeed ∈ String.utf8EncodeChar c) :
    c = '\n' := by
  have hn : c.val.toNat = 10 := by
    unfold String.utf8EncodeChar at h
    generalize c.val.toNat = n at h
    simp only [Request.lineFeed] at h
    split_ifs at h <;>
      simp only [List.mem_cons, List.not_mem_nil, or_false, ← UInt8.toNat_inj, UInt8.toNat_ofNat',
        UInt8.reduceToNat] at h <;>
      omega
  exact Char.ext (UInt32.toNat_inj.mp hn)

theorem lineFeed_mem_bytes_iff {t : Text} : Request.lineFeed ∈ t.bytes ↔ '\n' ∈ t := by
  simp only [bytes, List.mem_flatMap]
  constructor
  case mp =>
    rintro ⟨c, hc, hb⟩
    exact eq_of_lineFeed_mem hb ▸ hc
  case mpr =>
    intro h
    exact ⟨'\n', h, by decide⟩

theorem getLast?_bytes_eq_lineFeed_iff {t : Text} :
    t.bytes.getLast? = some Request.lineFeed ↔ t.getLast? = some '\n' := by
  cases t using List.reverseRecOn
  case nil => simp [bytes]
  case append_singleton t c _ =>
    have hn : bytes [c] ≠ [] := by simp [bytes]
    have hc : (bytes [c]).getLast? = some Request.lineFeed ↔ c = '\n' := by
      constructor
      case mp =>
        intro h
        have hm := lineFeed_mem_bytes_iff.mp (List.mem_of_getLast? h)
        exact (List.mem_singleton.mp hm).symm
      case mpr =>
        intro h
        subst h
        rfl
    rw [bytes_append, List.getLast?_append_of_ne_nil _ hn, hc]
    simp

end Text

namespace Request

variable {bs : List UInt8}

-- The bytes up to and including the first line feed, or all of them if there is none.
def firstLine (sent : List UInt8) : List UInt8 :=
  sent.takeWhile (· ≠ lineFeed) ++ (sent.dropWhile (· ≠ lineFeed)).take 1

theorem throughLineFeed_eq (sent : List UInt8) : throughLineFeed sent = firstLine sent := by
  induction sent
  case nil => rfl
  case cons b sent ih =>
    by_cases hb : b = lineFeed
    case pos => simp [throughLineFeed, firstLine, hb]
    case neg => simpa [throughLineFeed, firstLine, hb] using ih

theorem throughLineFeed_append_of_mem (h : lineFeed ∈ bs) (rest : List UInt8) :
    throughLineFeed (bs ++ rest) = throughLineFeed bs := by
  induction bs
  case nil => simp at h
  case cons b bs ih =>
    by_cases hb : b = lineFeed
    case pos => simp [throughLineFeed, hb]
    case neg =>
      have hm := List.mem_of_ne_of_mem (Ne.symm hb) h
      simp [throughLineFeed, hb, ih hm]

theorem throughLineFeed_append_of_not_mem (h : lineFeed ∉ bs) (rest : List UInt8) :
    throughLineFeed (bs ++ rest) = bs ++ throughLineFeed rest := by
  induction bs
  case nil => rfl
  case cons b bs ih =>
    simp only [List.mem_cons, not_or] at h
    simp [throughLineFeed, Ne.symm h.1, ih h.2]

-- It does not matter whether the line or the room for it is looked at first.
theorem throughLineFeed_take (room : Nat) (bs : List UInt8) :
    throughLineFeed (bs.take room) = (throughLineFeed bs).take room := by
  induction bs generalizing room
  case nil => simp [throughLineFeed]
  case cons b bs ih =>
    cases room
    case zero => rfl
    case succ room =>
      by_cases hb : b = lineFeed
      case pos => simp [throughLineFeed, hb]
      case neg => simp [throughLineFeed, hb, ih]

-- Between two reads no byte is lost, and none is taken twice.
theorem readLine_bytes {chunks : List (List UInt8)} (h : ∀ chunk ∈ chunks, chunk ≠ [])
    (room : Nat) :
    readLine room (chunks.map .bytes) = .ok (throughLineFeed (chunks.flatten.take room)) := by
  induction chunks generalizing room
  case nil => simp [readLine, throughLineFeed]
  case cons chunk chunks ih =>
    have ⟨hn, hc⟩ := List.forall_mem_cons.mp h
    rw [List.flatten_cons, List.take_append, List.map_cons, readLine]
    split_ifs with he hl
    case pos =>
      have hr : room = 0 := by simpa [hn] using he
      simp [hr, throughLineFeed]
    case pos => rw [throughLineFeed_append_of_mem hl]
    case neg =>
      have hr : room - (chunk.take room).length = room - chunk.length := by
        rw [List.length_take]
        omega
      rw [ih hc, hr, throughLineFeed_append_of_not_mem hl]
      rfl

theorem read_bytes {chunks : List (List UInt8)} (h : ∀ chunk ∈ chunks, chunk ≠ []) :
    read (chunks.map .bytes) = ofLine ((firstLine chunks.flatten).take maxBytes) := by
  rw [read, readLine_bytes h, throughLineFeed_take, throughLineFeed_eq]
  rfl

theorem firstLine_of_not_mem (h : lineFeed ∉ bs) : firstLine bs = bs := by
  have hs := throughLineFeed_append_of_not_mem h []
  simpa [throughLineFeed_eq, firstLine] using hs

theorem firstLine_append_cons (h : lineFeed ∉ bs) (rest : List UInt8) :
    firstLine (bs ++ lineFeed :: rest) = bs ++ [lineFeed] := by
  rw [← throughLineFeed_eq, throughLineFeed_append_of_not_mem h]
  rfl

theorem ofLine_of_invalid (h : ¬∃ t : Text, t.bytes = bs) : ofLine bs = .error invalidText := by
  have hn : Text.ofBytes? bs = none := by
    cases ht : Text.ofBytes? bs
    case none   => rfl
    case some t => exact (h ⟨t, (Text.ofBytes?_eq_some_iff.mp ht).symm⟩).elim
  simp [ofLine, hn]

theorem ofLine_bytes (t : Text) :
    ofLine t.bytes =
      if t.bytes.getLast? ≠ some lineFeed ∧ maxBytes ≤ t.bytes.length then .error tooLong
      else .ok (t.rdropWhile isLineEnd) := by
  simp only [ofLine, Text.ofBytes?_bytes, Ne, Text.getLast?_bytes_eq_lineFeed_iff,
    Text.dropEndWhile_eq]

theorem ofLine_of_overlong (t : Text) (hl : t.bytes.length = maxBytes)
    (hf : t.bytes.getLast? ≠ some lineFeed) : ofLine t.bytes = .error tooLong := by
  rw [ofLine_bytes, if_pos ⟨hf, Nat.le_of_eq hl.symm⟩]

theorem ofLine_of_fits (t : Text) (hl : t.bytes.length ≤ maxBytes)
    (hf : t.bytes.length = maxBytes → t.bytes.getLast? = some lineFeed) :
    ofLine t.bytes = .ok (t.rdropWhile isLineEnd) := by
  rw [ofLine_bytes, if_neg]
  intro ⟨hn, hm⟩
  exact hn (hf (Nat.le_antisymm hl hm))

-- The last byte there is room for can be a line feed, but no other one.
theorem ofLine_of_content {content : Text} {sent rest : List UInt8} (hf : '\n' ∉ content)
    (hl : content.bytes.length < maxBytes)
    (hs : sent = content.bytes ∨ sent = content.bytes ++ lineFeed :: rest) :
    ofLine ((firstLine sent).take maxBytes) = .ok (content.rdropWhile isLineEnd) := by
  have hb : lineFeed ∉ content.bytes := fun h => hf (Text.lineFeed_mem_bytes_iff.mp h)
  cases hs
  case inl hs =>
    rw [hs, firstLine_of_not_mem hb, List.take_of_length_le hl.le]
    exact ofLine_of_fits content hl.le fun he => (hl.ne he).elim
  case inr hs =>
    have hn : Text.bytes (content ++ ['\n']) = content.bytes ++ [lineFeed] := Text.bytes_append _ _
    have hm : (Text.bytes (content ++ ['\n'])).length ≤ maxBytes := by
      rw [hn, List.length_append]
      exact hl
    have ht := ofLine_of_fits (content ++ ['\n']) hm fun _ => by simp [hn]
    rw [hs, firstLine_append_cons hb, ← hn, List.take_of_length_le hm, ht,
      List.rdropWhile_concat_pos _ _ _ rfl]

theorem ofLine_of_excess {content : List UInt8} (hf : lineFeed ∉ content)
    (hl : maxBytes ≤ content.length) (rest : List UInt8) :
    let line := (firstLine (content ++ rest)).take maxBytes
    ofLine line = .error invalidText ∨ ofLine line = .error tooLong := by
  have ht : (firstLine (content ++ rest)).take maxBytes = content.take maxBytes := by
    rw [← throughLineFeed_eq, throughLineFeed_append_of_not_mem hf,
      List.take_append_of_le_length hl]
  simp only [ht]
  by_cases hv : ∃ t : Text, t.bytes = content.take maxBytes
  case neg => exact .inl (ofLine_of_invalid hv)
  case pos =>
    have ⟨t, hb⟩ := hv
    have hm : t.bytes.length = maxBytes := by simp [hb, hl]
    have hn : t.bytes.getLast? ≠ some lineFeed := by
      rw [hb]
      exact fun h => hf (List.mem_of_mem_take (List.mem_of_getLast? h))
    exact .inr (hb ▸ ofLine_of_overlong t hm hn)

theorem isLineEnd_eq : isLineEnd = fun c => decide (c = '\r' ∨ c = '\n') := by
  funext c
  simp only [isLineEnd, Bool.decide_or]
  rfl

theorem tooLong_eq : tooLong = ⟨.invalidData, "request longer than 65536 bytes".toList⟩ := by
  decide +kernel

end Request

namespace Server

variable {σ : Type} [Renderer σ]

-- What a call comes to, and what is asked of the surface for it.
def conduct (s : Server σ) (call : Call) : Effect (Server σ) Outcome × List (Step σ) :=
  (s.answer call, s.steps [call])

theorem conduct_of_read_eq {stream stream' : Stream} (h : Request.read stream = Request.read stream')
    (s : Server σ) : s.conduct (.connection stream) = s.conduct (.connection stream') := by
  simp [conduct, answer, steps, after, handleConnection, h]

theorem conduct_of_read_error {stream : Stream} {f : Failure} (h : Request.read stream = .error f)
    (s : Server σ) : s.conduct (.connection stream) = (⟨s, [], .error f⟩, []) := by
  simp [conduct, answer, steps, after, recorded, handleConnection, h]

theorem conduct_of_read_ok {stream : Stream} {request : Text} (h : Request.read stream = .ok request)
    (s : Server σ) : s.conduct (.connection stream) = s.conduct (.request request) := by
  simp [conduct, answer, steps, after, handleConnection, h]

-- The line of a client decides what becomes of it. How it came in pieces does not matter, and neither
-- does what comes behind the line or behind the bytes that are read.
theorem connection_dispatches_first_line (s : Server σ) {chunks : List (List UInt8)}
    (h : ∀ chunk ∈ chunks, chunk ≠ []) :
    let sent    := chunks.flatten
    let line    := (Request.firstLine sent).take 65536
    let conduct := s.conduct (.connection (chunks.map .bytes))
    let refused (message : String) :=
      conduct = (⟨s, [], .error ⟨.invalidData, message.toList⟩⟩, [])
    let dispatched (text : Text) :=
      conduct = s.conduct (.request (text.rdropWhile fun c => c = '\r' ∨ c = '\n'))
    ((¬∃ text : Text, text.bytes = line) → refused "stream did not contain valid UTF-8") ∧
      (∀ text : Text, text.bytes = line →
        if line.length = 65536 ∧ line.getLast? ≠ some Request.lineFeed then
          refused "request longer than 65536 bytes"
        else dispatched text) ∧
      (∀ chunks' : List (List UInt8), (∀ chunk ∈ chunks', chunk ≠ []) →
        Request.firstLine chunks'.flatten = Request.firstLine sent ∨
          chunks'.flatten.take 65536 = sent.take 65536 →
        s.conduct (.connection (chunks'.map .bytes)) = conduct) ∧
      (∀ (content : Text) (rest : List UInt8), '\n' ∉ content → content.bytes.length ≤ 65535 →
        sent = content.bytes ∨ sent = content.bytes ++ Request.lineFeed :: rest →
        dispatched content) ∧
      (∀ content rest : List UInt8, Request.lineFeed ∉ content → 65536 ≤ content.length →
        sent = content ++ rest →
        refused "stream did not contain valid UTF-8" ∨
          refused "request longer than 65536 bytes") := by
  intro sent line conduct refused dispatched
  have hr : Request.read (chunks.map .bytes) = Request.ofLine line := Request.read_bytes h
  have hl : line.length ≤ 65536 := List.length_take_le _ _
  have hf {f : Failure} (he : Request.ofLine line = .error f) : conduct = (⟨s, [], .error f⟩, []) :=
    conduct_of_read_error (hr.trans he) s
  have hd {text : Text} (he : Request.ofLine line = .ok (text.rdropWhile Request.isLineEnd)) :
      dispatched text := by
    have hc := conduct_of_read_ok (hr.trans he) s
    rw [Request.isLineEnd_eq] at hc
    exact hc
  refine ⟨?invalid, ?valid, ?chunking, ?content, ?excess⟩
  case invalid => exact fun hv => hf (Request.ofLine_of_invalid hv)
  case valid =>
    intro text ht
    rw [← ht] at hl hf hd ⊢
    split_ifs with hc
    case pos =>
      have he := Request.ofLine_of_overlong text hc.left hc.right
      rw [Request.tooLong_eq] at he
      exact hf he
    case neg =>
      have hn (he : text.bytes.length = 65536) := not_not.mp fun hn => hc ⟨he, hn⟩
      exact hd (Request.ofLine_of_fits text hl hn)
  case chunking =>
    intro chunks' h' hs
    have hl : (Request.firstLine chunks'.flatten).take Request.maxBytes = line := by
      cases hs
      case inl hs => rw [hs]; rfl
      case inr hs =>
        simp only [line, ← Request.throughLineFeed_eq, Request.maxBytes,
          ← Request.throughLineFeed_take, hs]
    have hr' : Request.read (chunks'.map .bytes) = Request.ofLine line := hl ▸ Request.read_bytes h'
    exact conduct_of_read_eq (hr'.trans hr.symm) s
  case content =>
    intro content rest hn hm hs
    exact hd (Request.ofLine_of_content hn (Nat.lt_succ_of_le hm) hs)
  case excess =>
    intro content rest hn hm hs
    have hl : line = (Request.firstLine (content ++ rest)).take Request.maxBytes := hs ▸ rfl
    cases Request.ofLine_of_excess hn hm rest
    case inl he => exact .inl (hf (hl ▸ he))
    case inr he =>
      rw [Request.tooLong_eq] at he
      exact .inr (hf (hl ▸ he))

theorem connection_dispatches_circle_in_chunks :
    let s : Server Display := .new .standard .standard ⟨.standard, ⟨[]⟩, []⟩
    let chunks := ["x CIRCLE 1 2 3 r", "ed\r", "\nx"].map fun chunk => Text.bytes chunk.toList
    (∀ chunk ∈ chunks, chunk ≠ []) ∧
      s.conduct (.connection (chunks.map .bytes)) =
        s.conduct (.request "x CIRCLE 1 2 3 red".toList) := by
  intro s chunks
  have h : ∀ chunk ∈ chunks, chunk ≠ [] := by decide
  have hs : chunks.flatten =
      Text.bytes "x CIRCLE 1 2 3 red\r".toList ++ Request.lineFeed :: Text.bytes "x".toList := by
    decide
  have ⟨_, _, _, hc, _⟩ := s.connection_dispatches_first_line h
  exact ⟨h, hc "x CIRCLE 1 2 3 red\r".toList _ (by decide) (by decide) (.inr hs)⟩

end Server
end Easel
