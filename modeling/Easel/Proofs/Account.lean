import Easel.Proofs.Coloring
import Easel.Proofs.Command.Guarded
import Easel.Proofs.Command.Report
import Easel.Proofs.Logging

namespace Easel

-- One record if there is a reason to write it, and no record if there is none.
inductive Noted (due : Record → Prop) : List Record → Prop
  | record  : due r → Noted due [r]
  | nothing : (∀ r, ¬due r) → Noted due []

-- The warnings in a log.
def warnings (log : List Record) : List Record :=
  log.filter (·.level = .warn)

namespace Command

-- The interpreter that reads a command is the first one that goes by its keyword.
inductive Chosen (c : Chain Logged) (tokens : List Text) (keyword : Text) (i : Interpreter Logged) :
    Prop
  | intro : tokens[1]? = some keyword → c.interpreters = earlier ++ i :: later →
      (∀ j ∈ earlier, ¬j.kind.Spelled keyword) → i.kind.Spelled keyword →
      Chosen c tokens keyword i

inductive Choice (c : Chain Logged) (tokens : List Text) : Record → Prop
  | intro : Chosen c tokens keyword i →
      Choice c tokens (.debug
        (keyword ++ " handled by ".toList ++ i.kind.keyword ++ " interpreter".toList))

-- A reader starts when the command has a color and as many arguments as it needs. The one for
-- polygons starts with any number of them.
inductive Start (c : Chain Logged) (tokens : List Text) : Record → Prop
  | intro : Chosen c tokens keyword i → i.read = Reading.ofKind k → 3 ≤ tokens.length →
      (k = .polygon ∨ k.Takes (tokens.length - 3)) →
      Start c tokens (.debug ("parsing ".toList ++ k.keyword))

-- What is written until it is known whether a command is any good.
inductive Parsed (c : Chain Logged) (tokens : List Text) : List Record → Prop
  | intro : Noted (Choice c tokens) choice → Noted (Start c tokens) start →
      Parsed c tokens (choice ++ start)

end Command

inductive Palette.Miss (p : Palette) (name : Text) : Record → Prop
  | intro : p.get? name = none →
      Miss p name (.debug ("unknown color ".toList ++ name.quoted ++ ", using ".toList ++
        p.fallback.text))

-- What is drawn instead is the exact opposite, even of the smallest radius there can be.
inductive Shape.Inversion : Shape → Record → Prop
  | intro : radius.toInt < 0 →
      Inversion (.circle center radius name) (.warn ("negative radius ".toList ++
        Text.ofInt radius.toInt ++ ", drawing with ".toList ++ Text.ofInt (-radius.toInt)))

inductive Display.Shown (d : Display) : Record → Prop
  | intro : d.canvas.output = some output → d.present.result = .ok () →
      Shown d (.debug ("presented ".toList ++ Text.ofNat d.canvas.shapes.size ++
        " shapes to ".toList ++ output.quoted))

-- The log of a request, record by record, and what becomes of the request. An accepted command is
-- on the canvas when it is shown, or when that fails.
inductive Server.Account (s : Server Display) (request : Text) :
    List Record → Except Failure Outcome → Prop
  | rejected : (s.chain.handle request).value = .error e →
      Command.Parsed s.chain (Command.tokens request) parsed →
      Account s request
        (.info ("received: ".toList ++ request.quoted) :: parsed ++ [.warn e.message])
        (.ok (.rejected e))
  | accepted {visible : Display} : (s.chain.handle request).value = .ok shape →
      Command.Parsed s.chain (Command.tokens request) parsed →
      color = (s.palette.get? shape.color.text).getD s.palette.fallback →
      visible = { s.surface with canvas := s.surface.canvas.push ⟨shape, color⟩ } →
      Noted (s.palette.Miss shape.color.text) miss →
      Noted shape.Inversion inversion →
      Noted visible.Shown shown →
      Account s request
        (.info ("received: ".toList ++ request.quoted) :: parsed ++ miss ++ inversion ++
          .debug ("drawing ".toList ++ shape.kind.keyword ++ " in ".toList ++ color.text) :: shown)
        (visible.present.result.map fun _ => .drawn shape)

namespace Noted

variable {due : Record → Prop} {log : List Record}

theorem length_le (h : Noted due log) : log.length ≤ 1 := by
  cases h
  case record  => exact Nat.le_refl 1
  case nothing => exact Nat.zero_le 1

theorem length_eq_one_iff (h : Noted due log) : log.length = 1 ↔ ∃ r, due r := by
  cases h
  case record r h => exact iff_of_true rfl ⟨r, h⟩
  case nothing h  => exact iff_of_false nofun (not_exists.mpr h)

theorem warnings_eq_nil (h : Noted due log) (hd : ∀ r, due r → r.level ≠ .warn) :
    warnings log = [] := by
  cases h
  case record r h => simp [warnings, hd r h]
  case nothing    => rfl

theorem warnings_eq_self (h : Noted due log) (hd : ∀ r, due r → r.level = .warn) :
    warnings log = log := by
  cases h
  case record r h => simp [warnings, hd r h]
  case nothing    => rfl

end Noted

@[simp]
theorem warnings_append (log log' : List Record) :
    warnings (log ++ log') = warnings log ++ warnings log' :=
  List.filter_append ..

@[simp]
theorem warnings_info (text : Text) (log : List Record) :
    warnings (.info text :: log) = warnings log :=
  rfl

@[simp]
theorem warnings_debug (text : Text) (log : List Record) :
    warnings (.debug text :: log) = warnings log :=
  rfl

namespace Command

variable {c : Chain Logged} {i : Interpreter Logged} {k : Kind} {tokens : List Text}
  {keyword : Text} {log : List Record}

theorem chosen_iff :
    Chosen c tokens keyword i ↔ tokens[1]? = some keyword ∧ c.find? keyword = some i := by
  simp only [Chain.find?, List.find?_eq_some_iff_append, Interpreter.canHandle, Kind.named_iff,
    Bool.not_eq_true', ← Bool.not_eq_true]
  constructor
  case mp =>
    rintro ⟨hw, hc, he, hi⟩
    exact ⟨hw, hi, _, _, hc, he⟩
  case mpr =>
    rintro ⟨hw, hi, _, _, hc, he⟩
    exact ⟨hw, hc, he, hi⟩

-- The readers that look arguments up by their index count them first, and write the same log.
theorem Reading.log_ofKind (k : Kind) (f : Fields) :
    (ofKind k f).log = (Guarded.ofKind k f).log := by
  rw [Guarded.ofKind_eq, Logged.map_eq]

theorem Reading.log_eq_of_takes {k : Kind} {f : Fields}
    (h : k = .polygon ∨ k.Takes f.arguments.length) : (ofKind k f).log = [parsing k] := by
  rw [log_ofKind]
  cases k
  case polygon => rfl
  all_goals exact congrArg Logged.log (if_pos (h.resolve_left nofun))

theorem Reading.log_eq_nil {k : Kind} {f : Fields}
    (h : ¬(k = .polygon ∨ k.Takes f.arguments.length)) : (ofKind k f).log = [] := by
  have ⟨hp, hl⟩ := not_or.mp h
  rw [log_ofKind]
  cases k
  case polygon => contradiction
  all_goals exact congrArg Logged.log (if_neg hl)

theorem parsing_inj {k k' : Kind} (h : parsing k = parsing k') : k = k' := by
  revert h
  cases k <;> cases k' <;> decide

-- No two kinds have the same reader: what a reader writes when it starts tells whose it is.
theorem Reading.ofKind_inj {k k' : Kind} (h : ofKind k = ofKind k') : k = k' := by
  have ⟨n, hn⟩ : ∃ n, k.Takes n := by
    cases k
    case circle   => exact ⟨3, rfl⟩
    case segment  => exact ⟨4, rfl⟩
    case triangle => exact ⟨6, rfl⟩
    case polygon  => exact ⟨6, rfl, Nat.le_refl 6⟩
  let f : Fields := ⟨[], [], .replicate n [], []⟩
  have hf : k.Takes f.arguments.length := (List.length_replicate ..).symm ▸ hn
  have hm : parsing k ∈ (ofKind k' f).log := by
    rw [← h, log_eq_of_takes (.inr hf)]
    exact List.mem_singleton_self _
  exact parsing_inj (eq_of_mem_log hm)

theorem start_iff {r : Record} (h : Chosen c tokens keyword i) (hk : i.read = Reading.ofKind k) :
    Start c tokens r ↔
      3 ≤ tokens.length ∧ (k = .polygon ∨ k.Takes (tokens.length - 3)) ∧ r = parsing k := by
  constructor
  case mpr =>
    rintro ⟨hl, ht, rfl⟩
    exact .intro h hk hl ht
  case mp =>
    rintro ⟨h', hk', hl, ht⟩
    have ⟨hw, hf⟩ := chosen_iff.mp h
    have ⟨hw', hf'⟩ := chosen_iff.mp h'
    cases hw.symm.trans hw'
    cases hf.symm.trans hf'
    cases Reading.ofKind_inj (hk.symm.trans hk')
    exact ⟨hl, ht, rfl⟩

theorem Interpreter.noted_interpret (h : Chosen c tokens keyword i)
    (hk : i.read = Reading.ofKind k) : Noted (Start c tokens) (i.interpret tokens).log := by
  unfold interpret
  cases hf : Fields.ofTokens tokens
  case error e =>
    refine .nothing fun r hr => ?_
    have ⟨hl, _, _⟩ := (start_iff h hk).mp hr
    rcases Fields.ofTokens_eq_error hf with ⟨hs, _⟩ | ⟨_, _, rfl, _⟩
    · omega
    · contradiction
  case ok f =>
    have hl : tokens.length = f.arguments.length + 3 := by simp [Fields.ofTokens_eq_ok_iff.mp hf]
    have hn : tokens.length - 3 = f.arguments.length := by omega
    by_cases ht : k = .polygon ∨ k.Takes f.arguments.length
    case pos =>
      have hs : Start c tokens (parsing k) := .intro h hk (by omega) (hn ▸ ht)
      simp only [Logged.map_eq, hk, Reading.log_eq_of_takes ht]
      exact .record hs
    case neg =>
      simp only [Logged.map_eq, hk, Reading.log_eq_nil ht]
      refine .nothing fun r hr => ?_
      have ⟨_, ht', _⟩ := (start_iff h hk).mp hr
      exact ht (hn ▸ ht')

theorem Chain.Furnished.parsed_dispatch (hc : c.Furnished) (tokens : List Text) :
    Parsed c tokens (c.dispatch tokens).log := by
  by_cases h : ∃ keyword i, Chosen c tokens keyword i
  case pos =>
    have ⟨keyword, i, h⟩ := h
    have ⟨hw, hf⟩ := chosen_iff.mp h
    have ⟨k, hk⟩ := hc.exists_read (mem_of_find? hf)
    rw [dispatch_of_find? hw hf]
    exact .intro (.record (.intro h)) (i.noted_interpret h hk)
  case neg =>
    have hn (r : Record) : ¬Choice c tokens r := by
      rintro ⟨hi⟩
      exact h ⟨_, _, hi⟩
    have hs (r : Record) : ¬Start c tokens r := by
      rintro ⟨hi, _, _⟩
      exact h ⟨_, _, hi⟩
    have hl : (c.dispatch tokens).log = [] := by
      unfold dispatch
      split
      case h_1 => rfl
      case h_2 hw =>
        split
        case h_1    => rfl
        case h_2 hf => exact (h ⟨_, _, chosen_iff.mpr ⟨hw, hf⟩⟩).elim
    rw [hl]
    exact .intro (.nothing hn) (.nothing hs)

theorem Parsed.warnings_eq_nil (h : Parsed c tokens log) : warnings log = [] := by
  cases h
  case intro hc hs =>
    have hc := hc.warnings_eq_nil fun r ⟨_⟩ => nofun
    have hs := hs.warnings_eq_nil fun r ⟨_, _, _, _⟩ => nofun
    rw [warnings_append, hc, hs, List.append_nil]

end Command

theorem Palette.noted_resolve (p : Palette) (name : Text) :
    Noted (p.Miss name) (p.resolve name).log := by
  unfold resolve
  split
  case h_2 h => exact .record (.intro h)
  case h_1 h =>
    refine .nothing fun r hr => ?_
    cases hr
    case intro hn => cases h.symm.trans hn

theorem Canvas.noted_radiusWarning (shape : Shape) :
    Noted shape.Inversion (radiusWarning shape) := by
  unfold radiusWarning
  split
  case h_2 h => exact .nothing fun r ⟨_⟩ => h _ _ _ rfl
  case h_1 center radius name =>
    split
    case isFalse h => exact .nothing fun r ⟨hr⟩ => h (Int32.lt_iff_toInt_lt.mpr hr)
    case isTrue h =>
      have hn : radius.toInt < 0 := Int32.lt_iff_toInt_lt.mp h
      have hr : Text.ofInt (-radius.toInt) = Text.ofNat radius.toInt.natAbs := by
        have ha : -radius.toInt = radius.toInt.natAbs := by omega
        rw [ha]
        rfl
      exact .record (hr ▸ .intro hn)

theorem Display.noted_present (d : Display) : Noted d.Shown d.present.log := by
  cases ho : d.canvas.output
  case none =>
    have hl : d.present.log = [] := by simp only [present, ho, Effect.pure]
    refine hl ▸ .nothing fun r hr => ?_
    cases hr
    case intro h _ => cases ho.symm.trans h
  case some output =>
    rw [log_present ho]
    split
    case h_1 hr => exact .record (.intro ho hr)
    case h_2 hr =>
      refine .nothing fun r h => ?_
      cases h
      case intro _ h => cases hr.symm.trans h

namespace Server

variable {s : Server Display} {request : Text} {log : List Record}
  {result : Except Failure Outcome} {e : Command.Error} {shape : Shape}

theorem account_handleRequest (hc : s.chain.Furnished) (request : Text) :
    s.Account request (s.handleRequest request).log (s.handleRequest request).result := by
  have hp := hc.parsed_dispatch (Command.tokens request)
  cases hv : (s.chain.handle request).value
  case error e =>
    rw [handleRequest_of_error hv]
    exact .rejected hv hp
  case ok shape =>
    have hc := s.palette.resolve_value shape.color.text
    have ha := Account.accepted hv hp hc rfl (s.palette.noted_resolve shape.color.text)
      (Canvas.noted_radiusWarning shape) (Display.noted_present _)
    have hd : s.drawShape shape = _ := drawShape_of_render_ok rfl
    rw [handleRequest_of_ok hv, hd]
    simp only [Effect.after, Renderer.render, Display.render, Canvas.draw, Canvas.drawing,
      List.append_assoc, List.cons_append, List.nil_append] at ha ⊢
    exact ha

namespace Account

theorem warnings_of_rejected (h : s.Account request log result)
    (hv : (s.chain.handle request).value = .error e) : warnings log = [.warn e.message] := by
  cases h
  case accepted hv' _ _ _ _ _ _ => exact nomatch hv.symm.trans hv'
  case rejected hv' hp =>
    cases hv.symm.trans hv'
    simp only [List.cons_append, warnings_info, warnings_append, hp.warnings_eq_nil]
    rfl

theorem noted_warnings (h : s.Account request log result)
    (hv : (s.chain.handle request).value = .ok shape) : Noted shape.Inversion (warnings log) := by
  cases h
  case rejected hv' _ => exact nomatch hv.symm.trans hv'
  case accepted hv' hp _ _ hm hi hs =>
    cases hv.symm.trans hv'
    have hm := hm.warnings_eq_nil fun r ⟨_⟩ => nofun
    have hs := hs.warnings_eq_nil fun r ⟨_, _⟩ => nofun
    have hw := hi.warnings_eq_self fun r ⟨_⟩ => rfl
    simp only [List.cons_append, warnings_info, warnings_append, hp.warnings_eq_nil, hm, hw,
      warnings_debug, hs, List.nil_append, List.append_nil]
    exact hi

theorem length_warnings_le (h : s.Account request log result) : (warnings log).length ≤ 1 := by
  cases hv : (s.chain.handle request).value
  case ok    => exact (h.noted_warnings hv).length_le
  case error =>
    rw [h.warnings_of_rejected hv]
    exact Nat.le_refl 1

end Account

-- Whoever reads the log of a request can tell what became of it. There is a warning when something
-- is wrong with the request, and never more than one: a command that is no good, or a circle turned
-- inside out.
theorem handleRequest_logs_outcome (s : Server Display) (hc : s.chain.Furnished) (request : Text) :
    let handled := s.handleRequest request
    s.Account request handled.log handled.result ∧
      (warnings handled.log).length ≤ 1 ∧
      (∀ e, (s.chain.handle request).value = .error e →
        warnings handled.log = [.warn e.message]) ∧
      ∀ shape, (s.chain.handle request).value = .ok shape →
        ((warnings handled.log).length = 1 ↔
          ∃ center radius name, shape = .circle center radius name ∧ radius.toInt < 0) := by
  intro handled
  have ha := account_handleRequest hc request
  refine ⟨ha, ha.length_warnings_le, fun e hv => ha.warnings_of_rejected hv, ?accepted⟩
  case accepted =>
    intro shape hv
    rw [(ha.noted_warnings hv).length_eq_one_iff]
    constructor
    case mp =>
      rintro ⟨r, ⟨hr⟩⟩
      exact ⟨_, _, _, rfl, hr⟩
    case mpr =>
      rintro ⟨center, radius, name, rfl, hr⟩
      exact ⟨_, .intro hr⟩

theorem handleRequest_logs_crossed_circle :
    let s : Server Display := .new ⟨[.ofKind .segment, ⟨.polygon, Command.Reading.circle⟩]⟩ .standard
      ⟨Canvas.standard.withOutput "f.svg".toList, .around [], []⟩
    let request : Text := "X polygone 5 6 -2147483648 Mauve".toList
    let handled := s.handleRequest request
    s.chain.Furnished ∧ s.Account request handled.log handled.result ∧
      (warnings handled.log).length = 1 ∧
      handled.log = [.info ("received: ".toList ++ request.quoted),
        .debug "polygone handled by POLYGON interpreter".toList,
        .debug "parsing CIRCLE".toList,
        .debug "unknown color \"mauve\", using rgb(0 0 0)".toList,
        .warn "negative radius -2147483648, drawing with 2147483648".toList,
        .debug "drawing CIRCLE in rgb(0 0 0)".toList,
        .debug "presented 1 shapes to \"f.svg\"".toList] := by
  intro s request handled
  have hc : s.chain.Furnished := ⟨[(.segment, .segment), (.polygon, .circle)], rfl⟩
  have ⟨ha, _, _, hw⟩ := s.handleRequest_logs_outcome hc request
  let mauve : ColorName := ⟨⟨"mauve".toList, "mauve".toList, by decide +kernel⟩, by decide⟩
  have hv : (s.chain.handle request).value = .ok (.circle ⟨5, 6⟩ (-2147483648) mauve) := by
    decide +kernel
  exact ⟨hc, ha, (hw _ hv).mpr ⟨_, _, _, rfl, by decide⟩, by decide +kernel⟩

-- Nothing starts to read a circle without a radius.
example :
    let s : Server Display := .new .standard .standard ⟨.standard, .around [], []⟩
    (s.handleRequest "X Circle 1 2 red".toList).log =
      [.info "received: \"X Circle 1 2 red\"".toList,
        .debug "Circle handled by CIRCLE interpreter".toList,
        .warn "malformed arguments for CIRCLE: expected 3 arguments, got 2".toList] := by
  decide +kernel

end Server
end Easel
