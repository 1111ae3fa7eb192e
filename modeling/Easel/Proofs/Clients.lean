import Easel.Proofs.Complaint
import Easel.Proofs.Request

namespace Easel

-- A client, and the server as it is when the client is let in.
structure Visit (σ : Type) where
  client : Connection
  server : Server σ

-- Whatever the listener brings, and the server as it is then.
structure Round (σ : Type) where
  arrival : Arrival
  server  : Server σ

namespace Visit

variable {σ : Type} [Renderer σ]

-- What becomes of the client.
def effect (v : Visit σ) : Effect (Server σ) Outcome :=
  v.server.handleConnection v.client.stream

-- What is said of a client whose connection failed.
def complaint? (v : Visit σ) : Option Record :=
  match v.effect.result with
  | .ok _    => none
  | .error f => some (Server.connectionFailed f)

def log (v : Visit σ) : List Record :=
  Server.connectionFrom v.client.peer :: v.server.timeoutWarning ++ v.effect.log ++
    v.complaint?.toList

end Visit

namespace Round

variable {σ : Type} [Renderer σ]

def visit? (r : Round σ) : Option (Visit σ) :=
  r.arrival.toOption.map (⟨·, r.server⟩)

def log (r : Round σ) : List Record :=
  match r.arrival with
  | .error f   => [Server.acceptFailed f]
  | .ok client => (Visit.mk client r.server).log

end Round

-- Clients that do not come with a command: nothing can be read from them, or what they ask for is
-- rejected.
inductive Connection.Idle (c : Command.Chain Logged) (client : Connection) : Prop
  | unread   : Request.read client.stream = .error f → Idle c client
  | rejected : Request.read client.stream = .ok request → (c.handle request).value = .error e →
      Idle c client

-- Nobody, or an idle client.
inductive Arrival.Idle (c : Command.Chain Logged) : Arrival → Prop
  | refused (f : Failure) : Idle c (.error f)
  | client : client.Idle c → Idle c (.ok client)

theorem Connection.Idle.parse_ne {c : Command.Chain Logged} {client : Connection} (h : client.Idle c)
    (shape : Shape) : (Call.connection client.stream).parse c ≠ .ok (.ok shape) := by
  cases h
  case unread hr      => simp [Call.parse, hr, Except.map]
  case rejected hr he => simp [Call.parse, hr, he, Except.map]

theorem Dealt.steps_eq_nil {c : Command.Chain Logged} {p : Palette} {call : Call} {steps : List (Step σ)}
    {answer : Except Failure Outcome} (h : Dealt c p call steps answer)
    (hn : ∀ shape, call.parse c ≠ .ok (.ok shape)) : steps = [] := by
  cases h
  case unread | rejected => rfl
  all_goals exact (hn _ ‹_›).elim

namespace Server

variable {σ : Type} [Renderer σ]

-- The rounds of the server. It goes into each of them as the one before left it, whether a client
-- was served in that one or not.
def rounds (s : Server σ) : List Arrival → List (Round σ)
  | []                     => []
  | .error f :: arrivals   => ⟨.error f, s⟩ :: s.rounds arrivals
  | .ok client :: arrivals =>
    ⟨.ok client, s⟩ :: (s.handleConnection client.stream).state.rounds arrivals

def visits (s : Server σ) (arrivals : List Arrival) : List (Visit σ) :=
  (s.rounds arrivals).filterMap Round.visit?

def clientsOf (arrivals : List Arrival) : List Connection :=
  arrivals.filterMap Except.toOption

def callsOf (arrivals : List Arrival) : List Call :=
  (clientsOf arrivals).map fun client => .connection client.stream

theorem callsOf_append (arrivals arrivals' : List Arrival) :
    callsOf (arrivals ++ arrivals') = callsOf arrivals ++ callsOf arrivals' := by
  simp only [callsOf, clientsOf, List.filterMap_append, List.map_append]

theorem callsOf_cons (arrival : Arrival) (arrivals : List Arrival) :
    callsOf (arrival :: arrivals) = callsOf [arrival] ++ callsOf arrivals :=
  callsOf_append [arrival] arrivals

theorem after_callsOf_cons (s : Server σ) (arrival : Arrival) (arrivals : List Arrival) :
    s.after (callsOf (arrival :: arrivals)) =
      (s.after (callsOf [arrival])).after (callsOf arrivals) := by
  rw [callsOf_cons, after_append]

theorem rounds_cons (s : Server σ) (arrival : Arrival) (arrivals : List Arrival) :
    s.rounds (arrival :: arrivals) =
      ⟨arrival, s⟩ :: (s.after (callsOf [arrival])).rounds arrivals := by
  cases arrival <;> rfl

theorem serveOne_eq (s : Server σ) (client : Connection) :
    s.serveOne client =
      ⟨(Visit.mk client s).log, (s.handleConnection client.stream).state⟩ := by
  simp only [serveOne, Visit.log, Visit.complaint?, Visit.effect]
  cases (s.handleConnection client.stream).result <;> rfl

theorem serveNext_eq (s : Server σ) (arrival : Arrival) :
    s.serveNext arrival = ⟨(Round.mk arrival s).log, s.after (callsOf [arrival])⟩ := by
  cases arrival
  case error f   => rfl
  case ok client => exact s.serveOne_eq client

theorem serve_eq (s : Server σ) (arrivals : List Arrival) :
    s.serve arrivals = ⟨(s.rounds arrivals).flatMap Round.log, s.after (callsOf arrivals)⟩ := by
  induction arrivals generalizing s
  case nil => rfl
  case cons arrival arrivals ih =>
    rw [serve, serveNext_eq, ih, rounds_cons, s.after_callsOf_cons arrival arrivals]
    rfl

theorem arrival_rounds (s : Server σ) (arrivals : List Arrival) :
    (s.rounds arrivals).map Round.arrival = arrivals := by
  induction arrivals generalizing s
  case nil => rfl
  case cons arrival arrivals ih => rw [rounds_cons, List.map_cons, ih]

theorem client_visits (s : Server σ) (arrivals : List Arrival) :
    (s.visits arrivals).map Visit.client = clientsOf arrivals := by
  have hv (r : Round σ) : r.visit?.map Visit.client = r.arrival.toOption := by
    simp [Round.visit?, Function.comp_def]
  conv_rhs => rw [← s.arrival_rounds arrivals, clientsOf, List.filterMap_map]
  simp only [visits, List.map_filterMap, hv, Function.comp_def]

theorem rounds_append (s : Server σ) (arrivals arrivals' : List Arrival) :
    s.rounds (arrivals ++ arrivals') =
      s.rounds arrivals ++ (s.after (callsOf arrivals)).rounds arrivals' := by
  induction arrivals generalizing s
  case nil => rfl
  case cons arrival arrivals ih =>
    rw [List.cons_append, rounds_cons, rounds_cons, ih, s.after_callsOf_cons arrival arrivals,
      List.cons_append]

theorem chain_answer (s : Server σ) (call : Call) : (s.answer call).state.chain = s.chain := by
  have hr (request : Text) : (s.handleRequest request).state.chain = s.chain := by
    cases h : (s.chain.handle request).value
    case error e  => rw [handleRequest_of_error h]
    case ok shape => rw [handleRequest_of_ok h]; rfl
  cases call
  case request text      => exact hr text
  case connection stream =>
    simp only [answer, handleConnection]
    cases Request.read stream
    case error f => rfl
    case ok text => exact hr text

theorem chain_after (s : Server σ) (calls : List Call) : (s.after calls).chain = s.chain := by
  induction calls generalizing s
  case nil => rfl
  case cons call calls ih => exact (ih _).trans (s.chain_answer call)

theorem chain_of_mem_rounds {s : Server σ} {arrivals : List Arrival} {r : Round σ}
    (h : r ∈ s.rounds arrivals) : r.server.chain = s.chain := by
  induction arrivals generalizing s
  case nil => nomatch h
  case cons arrival arrivals ih =>
    rw [rounds_cons] at h
    cases h
    case head   => rfl
    case tail h => rw [ih h, chain_after]

section

variable {s : Server σ} {arrival : Arrival}

-- An idle client leaves the server as it is, and nothing is drawn for it.
theorem after_of_idle (h : arrival.Idle s.chain) : s.after (callsOf [arrival]) = s := by
  cases h
  case refused => rfl
  case client client h =>
    have ha : s.after (callsOf [.ok client]) = (s.handleConnection client.stream).state := rfl
    rw [ha, handleConnection]
    cases h
    case unread hr      => rw [hr]
    case rejected hr he => simp only [hr, handleRequest_of_error he]

theorem steps_of_idle (h : arrival.Idle s.chain) : s.steps (callsOf [arrival]) = [] := by
  cases h
  case refused  => rfl
  case client h => exact (s.dealt_steps _).steps_eq_nil h.parse_ne

end

section

variable [Renderer.Discreet σ]

-- The only complaint that is logged during a visit is the one that there is to make.
theorem filter_isComplaint_log {v : Visit σ} (hc : v.server.chain.Furnished) :
    v.log.filter Record.isComplaint = v.complaint?.toList := by
  have hn {rs : List Record} (h : ∀ r ∈ rs, ¬r.isComplaint) : rs.filter Record.isComplaint = [] :=
    List.filter_eq_nil_iff.mpr h
  have hp : ¬(connectionFrom v.client.peer).isComplaint := Record.not_isComplaint_of_debug rfl
  have ht : ∀ r ∈ v.server.timeoutWarning, ¬r.isComplaint := by
    unfold timeoutWarning
    split
    case isTrue  => exact List.forall_mem_singleton.mpr (not_isComplaint_timeoutNotSet _)
    case isFalse => exact fun _ h => nomatch h
  have he : ∀ r ∈ v.effect.log, ¬r.isComplaint := fun _ => not_isComplaint_handleConnection hc
  have hf : v.complaint?.toList.filter Record.isComplaint = v.complaint?.toList := by
    unfold Visit.complaint?
    split
    case h_1 => rfl
    case h_2 => exact List.filter_cons_of_pos (isComplaint_connectionFailed _)
  rw [Visit.log, List.filter_append, List.filter_append, List.filter_cons_of_neg hp, hn ht, hn he,
    hf]
  rfl

theorem filter_isComplaint_round {r : Round σ} (hc : r.server.chain.Furnished) :
    r.log.filter Record.isComplaint = (r.visit?.bind Visit.complaint?).toList := by
  obtain ⟨arrival, server⟩ := r
  cases arrival
  case error f =>
    have hn : ¬(acceptFailed f).isComplaint := Record.not_isComplaint_of_head nofun
    exact List.filter_cons_of_neg hn
  case ok client => exact filter_isComplaint_log hc

theorem filter_isComplaint_serve {s : Server σ} (hc : s.chain.Furnished)
    (arrivals : List Arrival) :
    (s.serve arrivals).log.filter Record.isComplaint =
      (s.visits arrivals).filterMap Visit.complaint? := by
  rw [serve_eq, List.filter_flatMap, visits, List.filterMap_filterMap,
    List.filterMap_eq_flatMap_toList]
  refine List.flatMap_congr fun r hr => filter_isComplaint_round ?_
  rw [chain_of_mem_rounds hr]
  exact hc

end

-- Whoever is let in is served, whatever goes wrong with anybody, and every connection that fails is
-- complained about once. What becomes of a client depends on its visit alone, and whether there was
-- an idle client before does not make a difference to the visits of the others, or to what is drawn.
theorem serve_isolates_clients :
    (∀ {σ : Type} [Renderer σ] (s : Server σ) (arrivals : List Arrival),
      (s.rounds arrivals).map Round.arrival = arrivals ∧
        (s.visits arrivals).map Visit.client = clientsOf arrivals ∧
        (s.serve arrivals).value = (clientsOf arrivals).foldl
          (fun s client => (s.handleConnection client.stream).state) s ∧
        (s.serve arrivals).log = (s.rounds arrivals).flatMap Round.log) ∧
      (∀ (s : Server (Unreliable Display)) (arrivals : List Arrival), s.chain.Furnished →
        (s.serve arrivals).log.filter Record.isComplaint =
          (s.visits arrivals).filterMap Visit.complaint?) ∧
      ∀ {σ : Type} [Renderer σ] (s : Server σ) (earlier later : List Arrival)
        (arrival : Arrival), arrival.Idle s.chain →
        let server   := (s.serve earlier).value
        let before   := s.rounds earlier
        let after    := server.rounds later
        let crowd    := earlier ++ later
        let extended := earlier ++ arrival :: later
        s.rounds crowd = before ++ after ∧
          s.rounds extended = before ++ ⟨arrival, server⟩ :: after ∧
          s.steps (callsOf extended) = s.steps (callsOf crowd) ∧
          (s.serve extended).value = (s.serve crowd).value := by
  refine ⟨?served, fun s arrivals hc => filter_isComplaint_serve hc arrivals, ?isolated⟩
  case served =>
    intro σ _ s arrivals
    have hs : s.after (callsOf arrivals) = (clientsOf arrivals).foldl
        (fun s client => (s.handleConnection client.stream).state) s :=
      List.foldl_map
    rw [serve_eq]
    exact ⟨s.arrival_rounds arrivals, s.client_visits arrivals, hs, rfl⟩
  case isolated =>
    intro σ _ s earlier later arrival h server before after crowd extended
    have hs : server = s.after (callsOf earlier) := congrArg Logged.value (s.serve_eq earlier)
    have hi : arrival.Idle server.chain := by
      rw [hs, chain_after]
      exact h
    have hc : callsOf crowd = callsOf earlier ++ callsOf later := callsOf_append earlier later
    have he : callsOf extended = callsOf earlier ++ (callsOf [arrival] ++ callsOf later) := by
      rw [callsOf_append, callsOf_cons]
    refine ⟨?others, ?round, ?steps, ?value⟩
    case others => rw [rounds_append, ← hs]
    case round  => rw [rounds_append, ← hs, rounds_cons, after_of_idle hi]
    case steps  => rw [hc, he, steps_append, steps_append, steps_append, ← hs, steps_of_idle hi,
      after_of_idle hi, List.nil_append]
    case value  => rw [serve_eq, serve_eq, hc, he, after_append, after_append, after_append, ← hs,
      after_of_idle hi]

-- Nothing goes wrong with the first drawing. The other one fails, and so does the client that resets
-- its connection.
theorem serve_isolates_reset_client :
    let s : Server Display := .new .standard .standard ⟨.standard, ⟨[]⟩, []⟩
    let full   : Failure := ⟨.other, "no space left".toList⟩
    let faulty : Server (Unreliable Display) := s.facing [none, none, some full]
    let circle : Arrival :=
      .ok ⟨"a".toList, [.bytes (Text.bytes "x CIRCLE 1 2 3 red".toList)]⟩
    let gone   : Failure := ⟨.connectionReset, []⟩
    let reset  : Connection :=
      ⟨"b".toList, [.bytes (Text.bytes "x CIRC".toList), .failure gone]⟩
    Arrival.Idle s.chain (.ok reset) ∧
      s.rounds [circle, .ok reset, circle] =
        s.rounds [circle] ++ ⟨.ok reset, (s.serve [circle]).value⟩ ::
          (s.serve [circle]).value.rounds [circle] ∧
      (s.serve [circle, .ok reset, circle]).value = (s.serve [circle, circle]).value ∧
      faulty.chain.Furnished ∧
      (faulty.serve [circle, .ok reset, circle]).log.filter Record.isComplaint =
        [connectionFailed gone, connectionFailed full] := by
  intro s full faulty circle gone reset
  have hr : Request.read reset.stream = .error gone := by decide
  have h : Arrival.Idle s.chain (.ok reset) := .client (.unread hr)
  have ⟨_, hc, hi⟩ := serve_isolates_clients
  have ⟨_, hr, _, hs⟩ := hi s [circle] [circle] (.ok reset) h
  have hf : faulty.chain.Furnished := Command.Chain.furnished_standard
  refine ⟨h, hr, hs, hf, ?_⟩
  rw [hc faulty _ hf]
  decide +kernel

end Server
end Easel
