import Easel.Proofs.Command.Language
import Easel.Proofs.Publication
import Easel.Proofs.Run

namespace Easel

variable {r : Record}

namespace Command

theorem Reading.eq_of_mem_log {k : Kind} {f : Fields} (h : r ∈ (ofKind k f).log) :
    r = parsing k := by
  cases k <;> simp only [ofKind, circle, segment, triangle, polygon] at h
  case polygon => exact List.mem_singleton.mp h
  all_goals
    split at h
    · exact List.mem_singleton.mp h
    · contradiction

theorem Chain.Furnished.eq_of_mem_log {c : Chain Logged} {i : Interpreter Logged} {f : Fields}
    (hc : c.Furnished) (hi : i ∈ c.interpreters) (h : r ∈ (i.read f).log) : ∃ k, r = parsing k := by
  have ⟨k, hk⟩ := hc.exists_read hi
  exact ⟨k, Reading.eq_of_mem_log (hk ▸ h)⟩

theorem Interpreter.exists_of_mem_log {i : Interpreter Logged} {tokens : List Text}
    (h : r ∈ (i.interpret tokens).log) : ∃ f, r ∈ (i.read f).log := by
  unfold interpret at h
  split at h
  case h_1     => contradiction
  case h_2 f _ =>
    rw [Logged.map_eq] at h
    exact ⟨f, h⟩

theorem Chain.eq_of_mem_log {c : Chain Logged} {tokens : List Text}
    (h : r ∈ (c.dispatch tokens).log) :
    ∃ keyword i, c.find? keyword = some i ∧ (r = handledBy keyword i ∨ ∃ f, r ∈ (i.read f).log) := by
  unfold dispatch at h
  split at h
  case h_1 => contradiction
  case h_2 keyword _ =>
    split at h
    case h_1 => contradiction
    case h_2 i hi =>
      cases h
      case head h => exact ⟨keyword, i, hi, .inl rfl⟩
      case tail h => exact ⟨keyword, i, hi, .inr (Interpreter.exists_of_mem_log h)⟩

end Command

theorem Palette.eq_of_mem_log {p : Palette} {name : Text} (h : r ∈ (p.resolve name).log) :
    r = p.unknownColor name := by
  unfold resolve at h
  split at h
  case h_1 => contradiction
  case h_2 => exact List.mem_singleton.mp h

theorem Canvas.eq_of_mem_radiusWarning {shape : Shape} (h : r ∈ radiusWarning shape) :
    ∃ radius : Int32, r = .warn ("negative radius ".toList ++ Text.ofInt radius.toInt ++
      ", drawing with ".toList ++ Text.ofNat radius.toInt.natAbs) := by
  unfold radiusWarning at h
  split at h
  case h_2 => contradiction
  case h_1 =>
    split at h
    case isFalse => contradiction
    case isTrue  => exact ⟨_, List.mem_singleton.mp h⟩

theorem Display.eq_of_mem_log {d : Display} (h : r ∈ d.present.log) :
    ∃ output, d.canvas.output = some output ∧ r = presented d.canvas output := by
  cases ho : d.canvas.output
  case none => simp [present, ho, Effect.pure] at h
  case some output =>
    rw [log_present ho] at h
    split at h
    case h_1 => exact ⟨output, rfl, List.mem_singleton.mp h⟩
    case h_2 => contradiction

namespace Server

variable {σ : Type} [Renderer σ]

-- What there can be in the log after a request has been handled: a record that it was received, what
-- the chain and the palette have to say, why it was rejected, and whatever the readers and the
-- surface write.
inductive Emits (s : Server σ) (request : Text) : Record → Prop
  | received     : Emits s request (received request)
  | handledBy    : s.chain.find? keyword = some i → Emits s request (Command.Chain.handledBy keyword i)
  | read         : i ∈ s.chain.interpreters → record ∈ (i.read f).log → Emits s request record
  | rejected     : (s.chain.handle request).value = .error e → Emits s request (.warn e.message)
  | unknownColor : Emits s request (s.palette.unknownColor name)
  | performed (surface : σ) (o : Operation) :
      record ∈ (o.perform surface).log → Emits s request record

namespace Emits

variable {s : Server σ} {request : Text}

theorem of_mem_chain (h : r ∈ Server.received request :: (s.chain.handle request).log) :
    s.Emits request r := by
  cases h
  case head => exact .received
  case tail h =>
    rcases Command.Chain.eq_of_mem_log h with ⟨_, _, hi, rfl | ⟨_, hr⟩⟩
    · exact .handledBy hi
    · exact .read (Command.Chain.mem_of_find? hi) hr

theorem of_mem_drawShape {shape : Shape} (h : r ∈ (s.drawShape shape).log) :
    s.Emits request r := by
  let color := s.palette.resolve shape.color.text
  let rendered := Renderer.render s.surface shape color.value
  have hc (h : r ∈ color.log) : s.Emits request r :=
    Palette.eq_of_mem_log h ▸ .unknownColor
  have hr (h : r ∈ rendered.log) : s.Emits request r :=
    .performed s.surface (.render shape color.value) h
  cases he : rendered.result
  case error f =>
    rw [drawShape_of_render_error he] at h
    exact (List.mem_append.mp h).elim hc hr
  case ok =>
    rw [drawShape_of_render_ok he] at h
    cases List.mem_append.mp h
    case inl h => exact hc h
    case inr h => exact (List.mem_append.mp h).elim hr (.performed rendered.state .present)

theorem of_mem (h : r ∈ (s.handleRequest request).log) : s.Emits request r := by
  cases hv : (s.chain.handle request).value
  case error e =>
    rw [handleRequest_of_error hv] at h
    cases List.mem_append.mp h
    case inl h => exact .of_mem_chain h
    case inr h => exact List.mem_singleton.mp h ▸ .rejected hv
  case ok shape =>
    rw [handleRequest_of_ok hv] at h
    exact (List.mem_append.mp h).elim .of_mem_chain .of_mem_drawShape

end Emits
end Server
end Easel
