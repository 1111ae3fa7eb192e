import Easel.Proofs.Request

namespace Easel

namespace Delivery

def isInterruption : Delivery → Bool
  | .bytes _   => false
  | .failure f => f.kind == .interrupted

-- The bytes that came with a read.
def content : Delivery → List UInt8
  | .bytes bs  => bs
  | .failure _ => []

-- Whether there is more to come: a read without any bytes is the end of a stream, and so is one
-- that failed for good.
def Continues : Delivery → Prop
  | .bytes bs  => bs ≠ []
  | .failure f => f.kind = .interrupted

end Delivery

-- All the bytes of a stream, whether they are read or not.
def Stream.content (stream : Stream) : List UInt8 :=
  stream.flatMap Delivery.content

theorem Stream.content_bytes_cons (bs : List UInt8) (stream : Stream) :
    Stream.content (.bytes bs :: stream) = bs ++ stream.content :=
  rfl

namespace Request

variable {before : Stream} {room : Nat}

theorem readLine_zero (stream : Stream) : readLine 0 stream = .ok [] := by
  cases stream
  case nil => rfl
  case cons d stream => cases d <;> rfl

theorem readLine_uninterrupted (room : Nat) (stream : Stream) :
    readLine room (stream.filter fun d => !d.isInterruption) = readLine room stream := by
  induction stream generalizing room
  case nil => rfl
  case cons d stream ih =>
    cases d
    case bytes bs => rw [List.filter_cons_of_pos rfl, readLine, readLine, ih]
    case failure f =>
      by_cases hf : f.kind = .interrupted
      case pos =>
        have hd : ¬(!(Delivery.failure f).isInterruption) := by simp [Delivery.isInterruption, hf]
        rw [List.filter_cons, if_neg hd, ih, readLine, if_pos hf]
        split_ifs with hr
        case pos => rw [hr, readLine_zero]
        case neg => rfl
      case neg =>
        have hd : !(Delivery.failure f).isInterruption := by simp [Delivery.isInterruption, hf]
        rw [List.filter_cons, if_pos hd, readLine, readLine, ih]

-- As long as the line has not come to its end, a failure is met.
theorem readLine_failure {f : Failure} (hf : f.kind ≠ .interrupted)
    (hc : ∀ d ∈ before, d.Continues) (hn : lineFeed ∉ Stream.content before)
    (hl : (Stream.content before).length < room) (after : Stream) :
    readLine room (before ++ .failure f :: after) = .error f := by
  induction before generalizing room
  case nil => rw [List.nil_append, readLine, if_neg (Nat.ne_zero_of_lt hl), if_neg hf]
  case cons d before ih =>
    obtain ⟨hd, hs⟩ := List.forall_mem_cons.mp hc
    cases d
    case failure e =>
      have he : e.kind = .interrupted := hd
      rw [List.cons_append, readLine, if_neg (Nat.ne_zero_of_lt hl), if_pos he]
      exact ih hs hn hl
    case bytes bs =>
      have hb : bs ≠ [] := hd
      rw [Stream.content_bytes_cons, List.length_append] at hl
      rw [Stream.content_bytes_cons, List.mem_append, not_or] at hn
      have ht : bs.take room = bs := List.take_of_length_le (by omega)
      have hr : (Stream.content before).length < room - bs.length := by omega
      have ih := ih hs hn.right hr
      simp [readLine, ht, hb, hn.left, ih, Except.map]

-- By the time that the line has come to its end, nothing is read any more.
theorem readLine_append
    (h : lineFeed ∈ Stream.content before ∨ room ≤ (Stream.content before).length)
    (after : Stream) : readLine room (before ++ after) = readLine room before := by
  induction before generalizing room
  case nil =>
    have hr : room = 0 := by simpa [Stream.content] using h
    rw [hr, readLine_zero, readLine_zero]
  case cons d before ih =>
    cases d
    case failure f => rw [List.cons_append, readLine, readLine, ih h]
    case bytes bs =>
      rw [Stream.content_bytes_cons, List.mem_append, List.length_append] at h
      rw [List.cons_append, readLine, readLine]
      split_ifs with ht hm
      case pos => rfl
      case pos => rfl
      case neg =>
        -- A line feed that there was no room for is as good as none.
        have hb : lineFeed ∈ bs → room < bs.length := by
          intro hb
          by_contra hr
          exact hm (by rwa [List.take_of_length_le (Nat.le_of_not_lt hr)])
        rw [ih]
        rw [List.length_take]
        by_cases hr : room < bs.length
        case pos => exact .inr (by omega)
        case neg => exact h.imp (fun h => h.resolve_left (mt hb hr)) (by omega)

end Request

namespace Server

variable {σ : Type} [Renderer σ]

-- A failure to read is met before the line has come to its end, and only then: an interruption makes
-- no difference, and the first other failure is what becomes of the client, whatever was read before
-- it.
theorem connection_meets_failures (s : Server σ) :
    (∀ stream : Stream,
      s.conduct (.connection (stream.filter fun d => !d.isInterruption)) =
        s.conduct (.connection stream)) ∧
      (∀ (before after : Stream) (f : Failure), f.kind ≠ .interrupted →
        (∀ d ∈ before, d.Continues) → Request.lineFeed ∉ before.content →
        before.content.length < 65536 →
        s.conduct (.connection (before ++ .failure f :: after)) = (⟨s, [], .error f⟩, [])) ∧
      ∀ (before after : Stream) (f : Failure),
        Request.lineFeed ∈ before.content ∨ 65536 ≤ before.content.length →
        s.conduct (.connection (before ++ .failure f :: after)) =
          s.conduct (.connection (before ++ after)) := by
  have hr {stream stream' : Stream} (h : Request.readLine 65536 stream =
      Request.readLine 65536 stream') :
      s.conduct (.connection stream) = s.conduct (.connection stream') :=
    s.conduct_of_read_eq (congrArg (· >>= Request.ofLine) h)
  refine ⟨?interruptions, ?early, ?late⟩
  case interruptions => exact fun stream => hr (Request.readLine_uninterrupted 65536 stream)
  case early =>
    intro before after f hf hc hn hl
    have he := Request.readLine_failure hf hc hn hl after
    exact s.conduct_of_read_error (congrArg (· >>= Request.ofLine) he)
  case late =>
    intro before after f h
    have hf := Request.readLine_append h (.failure f :: after)
    exact hr (hf.trans (Request.readLine_append h after).symm)

theorem connection_meets_reset_after_interruption :
    let s : Server Display := .new .standard .standard ⟨.standard, ⟨[]⟩, []⟩
    let before : Stream :=
      [.bytes (Text.bytes "x CIRC".toList), .failure ⟨.interrupted, []⟩, .bytes [255]]
    let reset : Failure := ⟨.connectionReset, "gone".toList⟩
    let rest : Stream := [.bytes (Text.bytes "LE 1 2 3 red\n".toList)]
    reset.kind ≠ .interrupted ∧ (∀ d ∈ before, d.Continues) ∧
      Request.lineFeed ∉ before.content ∧ before.content.length < 65536 ∧
      s.conduct (.connection (before ++ .failure reset :: rest)) = (⟨s, [], .error reset⟩, []) := by
  intro s before reset rest
  have hk : reset.kind ≠ .interrupted := by decide
  have hc : ∀ d ∈ before, d.Continues := by simp [before, Delivery.Continues, Text.bytes]
  have hn : Request.lineFeed ∉ before.content := by decide
  have hl : before.content.length < 65536 := by decide
  exact ⟨hk, hc, hn, hl, s.connection_meets_failures.right.left before rest reset hk hc hn hl⟩

end Server
end Easel
