import Easel.Proofs.Recorder
import Easel.Server

namespace Easel

-- What a server can be asked for: to deal with a request as it is, or to read one from a connection.
inductive Call
  | request (text : Text)
  | connection (stream : Stream)
  deriving DecidableEq

-- The request of a call, if it can be read, and what a chain makes of it.
def Call.parse (c : Command.Chain Logged) : Call → Except Failure (Except Command.Error Shape)
  | request text      => .ok (c.handle text).value
  | connection stream => (Request.read stream).map fun text => (c.handle text).value

namespace Server

variable {σ : Type} [Renderer σ]

def answer (s : Server σ) : Call → Effect (Server σ) Outcome
  | .request text      => s.handleRequest text
  | .connection stream => s.handleConnection stream

-- The server as some calls leave it behind.
def after (s : Server σ) (calls : List Call) : Server σ :=
  calls.foldl (fun s call => (s.answer call).state) s

-- What the calls come to, one after the other.
def answers (s : Server σ) : List Call → List (Except Failure Outcome)
  | []            => []
  | call :: calls => (s.answer call).result :: (s.answer call).state.answers calls

-- The same server, on a surface that records.
def recorded (s : Server σ) : Server (Recorded σ) :=
  ⟨s.chain, s.palette, ⟨s.surface, []⟩, s.readTimeout⟩

-- The same server, with its surface seen as one of another kind.
def map {τ : Type} (f : σ → τ) (s : Server σ) : Server τ :=
  ⟨s.chain, s.palette, f s.surface, s.readTimeout⟩

-- What is asked of the surface during some calls.
def steps (s : Server σ) (calls : List Call) : List (Step σ) :=
  (s.recorded.after calls).surface.steps

end Server

-- How a server deals with a call: the steps it takes, and the answer it gives. A shape is rendered,
-- and presented if that succeeded. Nothing is done for a call that is not a command.
inductive Dealt (c : Command.Chain Logged) (p : Palette) :
    Call → List (Step σ) → Except Failure Outcome → Prop
  | unread       : call.parse c = .error f → Dealt c p call [] (.error f)
  | rejected     : call.parse c = .ok (.error e) → Dealt c p call [] (.ok (.rejected e))
  | notRendered  : call.parse c = .ok (.ok shape) →
      Dealt c p call [⟨.render shape (p.resolve shape.color.text).value, s₁, s₂, .error f⟩] (.error f)
  | notPresented : call.parse c = .ok (.ok shape) →
      Dealt c p call [⟨.render shape (p.resolve shape.color.text).value, s₁, s₂, .ok ()⟩,
        ⟨.present, s₂, s₃, .error f⟩] (.error f)
  | drawn        : call.parse c = .ok (.ok shape) →
      Dealt c p call [⟨.render shape (p.resolve shape.color.text).value, s₁, s₂, .ok ()⟩,
        ⟨.present, s₂, s₃, .ok ()⟩] (.ok (.drawn shape))

-- A run of a server: its calls, all the steps it takes for them, and its answers.
inductive Transcript (c : Command.Chain Logged) (p : Palette) :
    List Call → List (Step σ) → List (Except Failure Outcome) → Prop
  | nil  : Transcript c p [] [] []
  | cons : Dealt c p call steps answer → Transcript c p calls steps' answers →
      Transcript c p (call :: calls) (steps ++ steps') (answer :: answers)

namespace Server

variable {σ : Type} [Renderer σ]

theorem drawShape_of_render_error {s : Server σ} {shape : Shape} {f : Failure}
    (h : (Renderer.render s.surface shape (s.palette.resolve shape.color.text).value).result =
      .error f) :
    let color := s.palette.resolve shape.color.text
    let rendered := Renderer.render s.surface shape color.value
    s.drawShape shape = ⟨s.withSurface rendered.state, color.log ++ rendered.log, .error f⟩ := by
  simp [drawShape, Effect.andThen, Effect.after, Effect.embed, h]

theorem drawShape_of_render_ok {s : Server σ} {shape : Shape}
    (h : (Renderer.render s.surface shape (s.palette.resolve shape.color.text).value).result =
      .ok ()) :
    let color := s.palette.resolve shape.color.text
    let rendered := Renderer.render s.surface shape color.value
    let presented := Renderer.present rendered.state
    s.drawShape shape = ⟨s.withSurface presented.state, color.log ++ (rendered.log ++ presented.log),
      presented.result.map fun _ => .drawn shape⟩ := by
  simp only [drawShape, Effect.andThen, Effect.after, Effect.embed, Effect.pure, h]
  cases (Renderer.present (Renderer.render s.surface shape _).state).result <;> simp [Except.map]

theorem handleRequest_of_error {s : Server σ} {request : Text} {e : Command.Error}
    (h : (s.chain.handle request).value = .error e) :
    s.handleRequest request =
      ⟨s, received request :: (s.chain.handle request).log ++ [.warn e.message],
        .ok (.rejected e)⟩ := by
  simp [handleRequest, Effect.after, h]

theorem handleRequest_of_ok {s : Server σ} {request : Text} {shape : Shape}
    (h : (s.chain.handle request).value = .ok shape) :
    s.handleRequest request =
      (s.drawShape shape).after (received request :: (s.chain.handle request).log) := by
  simp [handleRequest, h]

section

variable {τ : Type} [Renderer τ] {f : σ → τ}

theorem drawShape_map (m : Renderer.Morphism f) (s : Server σ) (shape : Shape) :
    (s.map f).drawShape shape = (s.drawShape shape).embed (map f) := by
  have hr (a : σ) (color : Color) : Renderer.render (f a) shape color =
      (Renderer.render a shape color).embed f := m.perform a (.render shape color)
  have hp (a : σ) : Renderer.present (f a) = (Renderer.present a).embed f := m.perform a .present
  cases h : (Renderer.render s.surface shape (s.palette.resolve shape.color.text).value).result
  case error e =>
    have h' := (congrArg Effect.result (hr ..)).trans h
    rw [drawShape_of_render_error (s := s) h, drawShape_of_render_error (s := s.map f) h']
    simp [map, withSurface, Effect.embed, hr]
  case ok =>
    have h' := (congrArg Effect.result (hr ..)).trans h
    rw [drawShape_of_render_ok (s := s) h, drawShape_of_render_ok (s := s.map f) h']
    simp [map, withSurface, Effect.embed, hr, hp]

theorem handleRequest_map (m : Renderer.Morphism f) (s : Server σ) (request : Text) :
    (s.map f).handleRequest request = (s.handleRequest request).embed (map f) := by
  cases h : (s.chain.handle request).value
  case error e =>
    rw [handleRequest_of_error (s := s) h, handleRequest_of_error (s := s.map f) h]
    rfl
  case ok shape =>
    rw [handleRequest_of_ok (s := s) h, handleRequest_of_ok (s := s.map f) h, drawShape_map m]
    rfl

theorem answer_map (m : Renderer.Morphism f) (s : Server σ) (call : Call) :
    (s.map f).answer call = (s.answer call).embed (map f) := by
  cases call
  case request text      => exact s.handleRequest_map m text
  case connection stream =>
    simp only [answer, handleConnection]
    cases Request.read stream
    case error e => rfl
    case ok text => exact s.handleRequest_map m text

theorem after_map (m : Renderer.Morphism f) (s : Server σ) (calls : List Call) :
    (s.map f).after calls = (s.after calls).map f := by
  induction calls generalizing s
  case nil => rfl
  case cons call calls ih =>
    have h := congrArg (·.state.after calls) (s.answer_map m call)
    exact h.trans (ih _)

theorem answers_map (m : Renderer.Morphism f) (s : Server σ) (calls : List Call) :
    (s.map f).answers calls = s.answers calls := by
  induction calls generalizing s
  case nil => rfl
  case cons call calls ih =>
    simp only [answers, answer_map m]
    exact congrArg _ (ih _)

end

theorem drawShape_recorded {call : Call} {s : Server (Recorded σ)} {shape : Shape}
    (hp : call.parse s.chain = .ok (.ok shape)) :
    ∃ steps surface,
      (s.drawShape shape).state = s.withSurface ⟨surface, s.surface.steps ++ steps⟩ ∧
      Step.Lead s.surface.surface steps surface ∧
      Dealt s.chain s.palette call steps (s.drawShape shape).result := by
  let render  := Operation.render shape (s.palette.resolve shape.color.text).value
  let drawn   := (render.perform s.surface.surface).state
  let visible := (Operation.present.perform drawn).state
  cases hr : (render.perform s.surface.surface).result
  case error f =>
    rw [drawShape_of_render_error (s := s) hr]
    exact ⟨[.of s.surface.surface render], drawn, rfl, .single _ _, Step.of_eq hr ▸ .notRendered hp⟩
  case ok =>
    rw [drawShape_of_render_ok (s := s) hr]
    refine ⟨[.of s.surface.surface render, .of drawn .present], visible, ?state, ?lead, ?dealt⟩
    case state =>
      simp only [Renderer.render, Renderer.present, Recorded.perform, Effect.embed,
        List.append_assoc]
      rfl
    case lead  => exact .cons _ (.single _ _)
    case dealt =>
      have hp' : (Renderer.present (Renderer.render s.surface shape _).state).result =
        (Operation.present.perform drawn).result := rfl
      rw [hp', Step.of_eq hr]
      cases hv : (Operation.present.perform drawn).result
      case error f => exact Step.of_eq hv ▸ .notPresented hp
      case ok      => exact Step.of_eq hv ▸ .drawn hp

theorem handleRequest_recorded {call : Call} {s : Server (Recorded σ)} {request : Text}
    (hp : call.parse s.chain = .ok (s.chain.handle request).value) :
    ∃ steps surface,
      (s.handleRequest request).state = s.withSurface ⟨surface, s.surface.steps ++ steps⟩ ∧
      Step.Lead s.surface.surface steps surface ∧
      Dealt s.chain s.palette call steps (s.handleRequest request).result := by
  cases h : (s.chain.handle request).value
  case error e =>
    rw [handleRequest_of_error h]
    exact ⟨[], s.surface.surface, by simp [withSurface], .nil, .rejected (h ▸ hp)⟩
  case ok shape =>
    rw [handleRequest_of_ok h]
    exact drawShape_recorded (h ▸ hp)

-- What a recording server does for a call is recorded behind what was recorded before.
theorem answer_recorded (s : Server (Recorded σ)) (call : Call) :
    ∃ steps surface, (s.answer call).state = s.withSurface ⟨surface, s.surface.steps ++ steps⟩ ∧
      Step.Lead s.surface.surface steps surface ∧
      Dealt s.chain s.palette call steps (s.answer call).result := by
  cases call
  case request text => exact handleRequest_recorded rfl
  case connection stream =>
    simp only [answer, handleConnection]
    cases h : Request.read stream
    case error f =>
      have hp : Call.parse s.chain (.connection stream) = .error f := by
        simp [Call.parse, h, Except.map]
      exact ⟨[], s.surface.surface, by simp [withSurface], .nil, .unread hp⟩
    case ok request =>
      have hp : Call.parse s.chain (.connection stream) = .ok (s.chain.handle request).value := by
        simp [Call.parse, h, Except.map]
      exact handleRequest_recorded hp

theorem after_recorded (s : Server (Recorded σ)) (calls : List Call) :
    ∃ steps surface, s.after calls = s.withSurface ⟨surface, s.surface.steps ++ steps⟩ ∧
      Step.Lead s.surface.surface steps surface ∧
      Transcript s.chain s.palette calls steps (s.answers calls) := by
  induction calls generalizing s
  case nil => exact ⟨[], s.surface.surface, by simp [after, withSurface], .nil, .nil⟩
  case cons call calls ih =>
    have ⟨steps, surface, hs, hl, hd⟩ := s.answer_recorded call
    have ih := ih (s.answer call).state
    rw [hs] at ih
    have ⟨steps', surface', hs', hl', ht⟩ := ih
    refine ⟨steps ++ steps', surface', ?state, hl.append hl', ?transcript⟩
    case state =>
      have ha : s.after (call :: calls) = (s.answer call).state.after calls := rfl
      rw [ha, hs, hs']
      simp [withSurface]
    case transcript =>
      rw [answers, hs]
      exact .cons hd ht

theorem after_append (s : Server σ) (calls calls' : List Call) :
    s.after (calls ++ calls') = (s.after calls).after calls' :=
  List.foldl_append

theorem after_recorded_map (s : Server σ) (calls : List Call) :
    (s.recorded.after calls).map Recorded.surface = s.after calls :=
  (s.recorded.after_map Recorded.surface_morphism calls).symm

theorem answers_recorded (s : Server σ) (calls : List Call) :
    s.recorded.answers calls = s.answers calls :=
  (s.recorded.answers_map Recorded.surface_morphism calls).symm

theorem lead_steps (s : Server σ) (calls : List Call) :
    Step.Lead s.surface (s.steps calls) (s.after calls).surface := by
  have ⟨steps, surface, hs, hl, _⟩ := s.recorded.after_recorded calls
  rw [Server.steps, ← s.after_recorded_map calls, hs]
  exact hl

theorem transcript_steps (s : Server σ) (calls : List Call) :
    Transcript s.chain s.palette calls (s.steps calls) (s.answers calls) := by
  have ⟨steps, surface, hs, _, ht⟩ := s.recorded.after_recorded calls
  rw [Server.steps, ← s.answers_recorded calls, hs]
  exact ht

theorem after_recorded_eq (s : Server σ) (calls : List Call) :
    s.recorded.after calls = (s.after calls).recorded.map (.behind (s.steps calls)) := by
  have ⟨steps, surface, hs, _, _⟩ := s.recorded.after_recorded calls
  rw [← s.after_recorded_map calls, Server.steps, hs]
  simp [withSurface, recorded, map, Recorded.behind]

theorem steps_append (s : Server σ) (calls calls' : List Call) :
    s.steps (calls ++ calls') = s.steps calls ++ (s.after calls).steps calls' := by
  rw [Server.steps, after_append, after_recorded_eq, after_map (Recorded.behind_morphism _)]
  rfl

theorem dealt_steps (s : Server σ) (call : Call) :
    Dealt s.chain s.palette call (s.steps [call]) (s.answer call).result := by
  have h := s.transcript_steps [call]
  generalize s.steps [call] = steps at h
  cases h
  case cons hd ht =>
    cases ht
    rw [List.append_nil]
    exact hd

end Server
end Easel
