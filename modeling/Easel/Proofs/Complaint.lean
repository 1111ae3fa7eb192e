import Easel.Proofs.Logging
import Easel.Proofs.Unreliable

namespace Easel

-- Whether a record tells of a connection that failed.
def Record.isComplaint (r : Record) : Bool :=
  r.level == .warn && "connection failed: ".toList.isPrefixOf r.text

-- Surfaces that say nothing about connections.
class Renderer.Discreet (σ : Type) [Renderer σ] : Prop where
  log : ∀ (a : σ) (o : Operation), ∀ r ∈ (o.perform a).log, ¬r.isComplaint

namespace Record

variable {r : Record}

theorem not_isComplaint_of_level (h : r.level ≠ .warn) : ¬r.isComplaint := by
  simp [isComplaint, h]

theorem not_isComplaint_of_debug (h : r.level = .debug) : ¬r.isComplaint :=
  not_isComplaint_of_level (h ▸ nofun)

theorem not_isComplaint_of_head (h : r.text.head? ≠ some 'c') : ¬r.isComplaint := by
  obtain ⟨level, text⟩ := r
  cases text
  case nil => simp [isComplaint]
  case cons c text =>
    have hc : 'c' ≠ c := fun hc => h (hc ▸ rfl)
    simp [isComplaint, hc]

end Record

namespace Command

theorem Error.head?_message (e : Error) : e.message.head? ≠ some 'c' := by
  cases e
  case unsupportedShape keyword =>
    have hm : (unsupportedShape keyword).message.head? = some 'u' := rfl
    simp [hm]
  case malformed subject cause =>
    have hm : (malformed subject cause).message.head? = some 'm' := rfl
    simp [hm]

end Command

theorem Canvas.not_isComplaint_draw {c : Canvas} {shape : Shape} {color : Color} {r : Record}
    (h : r ∈ (c.draw shape color).log) : ¬r.isComplaint := by
  cases List.mem_append.mp h
  case inr h => exact Record.not_isComplaint_of_debug (List.mem_singleton.mp h ▸ rfl)
  case inl h =>
    have ⟨_, hr⟩ := eq_of_mem_radiusWarning h
    have hn : r.text.head? = some 'n' := hr ▸ rfl
    exact Record.not_isComplaint_of_head (by simp [hn])

instance : Renderer.Discreet Display where
  log d o r h := by
    cases o
    case render shape color => exact d.canvas.not_isComplaint_draw h
    case present =>
      have ⟨_, _, hr⟩ := Display.eq_of_mem_log h
      exact Record.not_isComplaint_of_debug (hr ▸ rfl)

instance {σ : Type} [Renderer σ] [Renderer.Discreet σ] : Renderer.Discreet (Unreliable σ) where
  log u o r h := Renderer.Discreet.log u.surface o r (Unreliable.mem_log h)

namespace Server

variable {σ : Type} [Renderer σ] {s : Server σ} {r : Record}

theorem isComplaint_connectionFailed (f : Failure) : (connectionFailed f).isComplaint := by
  simp [connectionFailed, Record.isComplaint, Record.warn]

theorem not_isComplaint_timeoutNotSet (f : Failure) : ¬(timeoutNotSet f).isComplaint := by
  simp [timeoutNotSet, Record.isComplaint, Record.warn]

variable [Renderer.Discreet σ]

theorem not_isComplaint_handleRequest (hc : s.chain.Furnished) {request : Text}
    (h : r ∈ (s.handleRequest request).log) : ¬r.isComplaint := by
  cases Emits.of_mem h
  case received                 => exact Record.not_isComplaint_of_level nofun
  case handledBy | unknownColor => exact Record.not_isComplaint_of_debug rfl
  case rejected e _             => exact Record.not_isComplaint_of_head e.head?_message
  case performed surface o h    => exact Renderer.Discreet.log surface o r h
  case read hi hr =>
    have ⟨_, hr⟩ := hc.eq_of_mem_log hi hr
    exact Record.not_isComplaint_of_debug (hr ▸ rfl)

theorem not_isComplaint_handleConnection (hc : s.chain.Furnished) {stream : Stream}
    (h : r ∈ (s.handleConnection stream).log) : ¬r.isComplaint := by
  unfold handleConnection at h
  split at h
  case h_1 => contradiction
  case h_2 => exact not_isComplaint_handleRequest hc h

end Server
end Easel
