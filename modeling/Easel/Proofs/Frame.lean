import Easel.Proofs.Drawing
import Easel.Proofs.Item
import Easel.Proofs.Publication

namespace Easel

-- The newest items are what the document ends with.
theorem Canvas.frame_suffix {c : Canvas} {newest : List Item} (h : newest <:+ c.items) :
    Text.bytes (newest.flatMap Item.text ++ "</svg>\n".toList) <:+ c.frame := by
  have ⟨older, ho⟩ := h
  refine ⟨Text.bytes (c.openingPieces.flatten ++ older.flatMap Item.text), ?_⟩
  rw [← Text.bytes_append, frame_eq, document_eq, ← ho, List.flatMap_append]
  simp only [List.append_assoc]

namespace Step

variable {a b u : Unreliable Display} {steps steps' : List (Step (Unreliable Display))}
variable {output : Text}

-- The changes to the disk that a step consists of. Only presenting a canvas changes anything there.
def changes (s : Step (Unreliable Display)) : List Disk.Change :=
  match s.operation, s.before.faults.head?.join, s.before.surface.canvas.output with
  | .present, none, some output =>
    let d := s.before.surface
    Display.changes d.disk output d.canvas.document.bytes d.obstacles.head?.join
  | _, _, _                     => []

-- What stands at the output after some steps, if `first` did so before them: the canvas as it was
-- when it could last be presented.
def frame (first : Option Disk.Entry) (steps : List (Step (Unreliable Display))) :
    Option Disk.Entry :=
  match (steps.filterMap shown?).getLast? with
  | none   => first
  | some u => some (.file u.surface.canvas.frame)

theorem frame_append (first : Option Disk.Entry) (steps steps' : List (Step (Unreliable Display))) :
    frame first (steps ++ steps') = frame (frame first steps) steps' := by
  simp only [frame, List.filterMap_append, List.getLast?_append]
  cases (steps'.filterMap shown?).getLast? <;> rfl

theorem after_of_shown {s : Step (Unreliable Display)} (h : s.shown? = some u) : s.after = u := by
  unfold shown? at h
  split at h
  case h_1 => exact Option.some.inj h
  case h_2 => contradiction

theorem frame_of_none_shown (h : steps.filterMap shown? = []) (first : Option Disk.Entry) :
    frame first steps = first := by
  simp [frame, h]

theorem frame_of_shown {s : Step (Unreliable Display)} (h : s.shown? = some u)
    (first : Option Disk.Entry) : frame first [s] = some (.file u.surface.canvas.frame) := by
  simp [frame, h]

-- A step either has nothing to do with the disk or publishes the canvas.
inductive Touches (output : Text) (s : Step (Unreliable Display)) : Prop
  | nothing (hc : s.changes = []) (hs : s.shown? = none)
      (hd : s.after.surface.disk = s.before.surface.disk)
  | publication (ho : s.operation = .present)
      (hp : Display.Published s.before.surface.disk output s.before.surface.canvas.document.bytes
        s.changes (s.after.surface.disk, s.result))

theorem of_touches (ho : u.surface.canvas.output = some output) (o : Operation) :
    Touches output (of u o) := by
  cases hf : u.faults.head?.join
  case some f =>
    rw [of, Unreliable.perform_of_fault hf]
    cases o
    case render  => exact .nothing rfl rfl rfl
    case present => exact .nothing (by simp [changes, hf]) rfl rfl
  case none =>
    rw [of, Unreliable.perform_of_no_fault hf]
    cases o
    case render  => exact .nothing rfl rfl rfl
    case present =>
      have h := Display.present_published ho
      refine .publication rfl ?_
      simp only [changes, hf, ho]
      exact h

namespace Touches

variable {s : Step (Unreliable Display)}

theorem changeAll_eq (h : Touches output s) :
    s.before.surface.disk.changeAll s.changes = s.after.surface.disk := by
  cases h
  case publication _ hp => exact hp.changeAll_eq
  case nothing hc _ hd  =>
    rw [hc, hd]
    rfl

theorem get?_take (h : Touches output s) {k : Nat} (hk : k < s.changes.length) :
    (s.before.surface.disk.changeAll (s.changes.take k)).get? output =
      s.before.surface.disk.get? output := by
  cases h
  case nothing hc _ _   => simp [hc] at hk
  case publication _ hp => exact hp.get?_take hk

end Touches

theorem get?_perform (ho : u.surface.canvas.output = some output) (o : Operation) :
    (o.perform u).state.surface.disk.get? output =
      frame (u.surface.disk.get? output) [of u o] := by
  cases of_touches ho o
  case nothing _ hs hd =>
    rw [frame_of_none_shown (List.filterMap_cons_none hs)]
    exact congrArg (·.get? output) hd
  case publication h hp =>
    have h : o = .present := h
    subst h
    cases hr : (Operation.present.perform u).result
    case error f =>
      have hs : (of u .present).shown? = none := by
        rw [of_eq hr]
        rfl
      rw [frame_of_none_shown (List.filterMap_cons_none hs)]
      exact hp.get?_error hr
    case ok =>
      have hs : (of u .present).shown? = some (Operation.present.perform u).state := by
        rw [of_eq hr]
        rfl
      have hc : (Operation.present.perform u).state.surface.canvas = u.surface.canvas :=
        canvas_perform u .present
      rw [frame_of_shown hs, hc, Canvas.frame_eq]
      exact hp.get?_ok hr

theorem Lead.output_eq (h : Lead a steps b) :
    b.surface.canvas.output = a.surface.canvas.output := by
  rw [h.canvas_eq, Canvas.output_pushAll]

theorem Lead.get?_eq (h : Lead a steps b) (ho : a.surface.canvas.output = some output) :
    b.surface.disk.get? output = frame (a.surface.disk.get? output) steps := by
  induction h
  case nil => rfl
  case cons a steps b o h ih =>
    have hs : Lead a [of a o] (o.perform a).state := .single a o
    rw [ih (hs.output_eq.trans ho), get?_perform ho, ← frame_append]
    rfl

theorem Lead.suffix {d : Drawn} (h : Lead a (steps ++ s :: steps') b) (hd : s.drawn? = some d)
    (hl : (steps'.filterMap drawn?).length < a.surface.canvas.capacity) :
    d :: steps'.filterMap drawn? <:+ b.surface.canvas.shapes.toList := by
  have hc : ([] ++ d :: steps'.filterMap drawn?).length ≤
      (a.surface.canvas.pushAll (steps.filterMap drawn?)).capacity := by
    rw [Canvas.capacity_pushAll]
    exact hl
  rw [h.canvas_eq, List.filterMap_append, List.filterMap_cons_some hd, Canvas.pushAll_append]
  exact Canvas.suffix_pushAll List.nil_suffix hc

theorem Lead.frame_eq (h : Lead a steps b) (hs : (steps.getLast?.bind shown?).isSome)
    (first : Option Disk.Entry) : frame first steps = some (.file b.surface.canvas.frame) := by
  have ⟨u, hu⟩ := Option.isSome_iff_exists.mp hs
  have ⟨showing, hl, hs⟩ := Option.bind_eq_some_iff.mp hu
  have ⟨before, hb⟩ := List.getLast?_eq_some_iff.mp hl
  rw [hb] at h ⊢
  have hb : showing.after = b := h.split.right.reached_eq
  rw [frame_append, frame_of_shown hs, ← after_of_shown hs, hb]

end Step

namespace Dealt

variable {c : Command.Chain Logged} {p : Palette} {call : Call} {steps : List (Step σ)}

theorem last_shown {shape : Shape} (h : Dealt c p call steps (.ok (.drawn shape))) :
    (steps.getLast?.bind Step.shown?).isSome := by
  cases h
  case drawn => rfl

theorem none_shown {answer : Except Failure Outcome} (h : Dealt c p call steps answer)
    (hn : ∀ shape, answer ≠ .ok (.drawn shape)) : steps.filterMap Step.shown? = [] := by
  cases h
  case unread | rejected | notRendered | notPresented => rfl
  case drawn shape _ _ _ _                            => exact (hn shape rfl).elim

end Dealt

namespace Server

variable {output : Text}

-- What there is to be seen at the output of a server during some calls, and what a further call
-- changes about it.
structure Exhibits (s : Server (Unreliable Display)) (output : Text) (calls : List Call) : Prop where
  -- The surface after all the steps is the one that the calls leave behind.
  reached : Step.reached s.surface (s.steps calls) = (s.after calls).surface
  -- After every step the output is what was presented last, whole.
  between : ∀ earlier later, s.steps calls = earlier ++ later →
    (Step.reached s.surface earlier).surface.disk.get? output =
      Step.frame (s.surface.surface.disk.get? output) earlier
  -- In the middle of a step nothing new is there before its last change.
  within : ∀ earlier step later, s.steps calls = earlier ++ step :: later →
    step.before = Step.reached s.surface earlier ∧
      step.before.surface.disk.changeAll step.changes = step.after.surface.disk ∧
      ∀ k < step.changes.length,
        (step.before.surface.disk.changeAll (step.changes.take k)).get? output =
          Step.frame (s.surface.surface.disk.get? output) earlier
  drawn : ∀ call shape, ((s.after calls).answer call).result = .ok (.drawn shape) →
    let next := ((s.after calls).answer call).state.surface.surface
    next.disk.get? output = some (.file next.canvas.frame)
  notDrawn : ∀ call, (∀ shape, ((s.after calls).answer call).result ≠ .ok (.drawn shape)) →
    let now  := (s.after calls).surface.surface
    let next := ((s.after calls).answer call).state.surface.surface
    next.disk.get? output = now.disk.get? output
  -- What was rendered, whether it could be presented or not, is there until there is no room for it,
  -- and whatever can be seen of it is part of every document that is presented by then.
  kept : ∀ earlier step newer later d, s.steps calls = earlier ++ step :: newer ++ later →
    step.drawn? = some d → (newer.filterMap Step.drawn?).length < s.surface.surface.canvas.capacity →
    let shapes := d :: newer.filterMap Step.drawn?
    let items  := shapes.map Drawn.item
    let now    := (Step.reached s.surface (earlier ++ step :: newer)).surface
    shapes <:+ now.canvas.shapes.toList ∧
      ((newer.getLast?.bind Step.shown?).isSome →
        now.disk.get? output = some (.file now.canvas.frame)) ∧
      items <:+ now.canvas.items ∧
      Text.bytes (items.flatMap Item.text ++ "</svg>\n".toList) <:+ now.canvas.frame

theorem exhibits_of_output {s : Server (Unreliable Display)}
    (ho : s.surface.surface.canvas.output = some output) (calls : List Call) :
    s.Exhibits output calls where
  reached := (s.lead_steps calls).reached_eq
  between earlier later h := by
    have hl := s.lead_steps calls
    rw [h] at hl
    exact hl.split.left.get?_eq ho
  within earlier step later h := by
    have hl := s.lead_steps calls
    rw [h] at hl
    have ⟨hl, hr⟩ := hl.split
    have hd := hl.get?_eq ho
    have ho := hl.output_eq.trans ho
    cases hr
    case cons o _ =>
      have ht := Step.of_touches ho o
      exact ⟨rfl, ht.changeAll_eq, fun k hk => (ht.get?_take hk).trans hd⟩
  drawn call shape h := by
    have hl := (s.after calls).lead_steps [call]
    have hg := hl.get?_eq ((s.lead_steps calls).output_eq.trans ho)
    have hd := (s.after calls).dealt_steps call
    rw [h] at hd
    exact hg.trans (hl.frame_eq hd.last_shown _)
  notDrawn call h := by
    have hl := (s.after calls).lead_steps [call]
    have hg := hl.get?_eq ((s.lead_steps calls).output_eq.trans ho)
    have hd := (s.after calls).dealt_steps call
    exact hg.trans (Step.frame_of_none_shown (hd.none_shown h) _)
  kept earlier step newer later d h hd hl := by
    have hs := s.lead_steps calls
    rw [h] at hs
    have hs := hs.split.left
    have hk := hs.suffix hd hl
    have hi := hk.map Drawn.item
    refine ⟨hk, ?shown, hi, Canvas.frame_suffix hi⟩
    case shown =>
      intro hp
      have hg := hs.get?_eq ho
      have hn : newer ≠ [] := by
        rintro rfl
        contradiction
      have hw : (earlier ++ step :: newer).getLast? = newer.getLast? := by
        rw [List.append_cons, List.getLast?_append_of_ne_nil _ hn]
      exact hg.trans (hs.frame_eq (hw ▸ hp) _)

-- Whatever goes wrong with the surface or with the disk, the output is never anything but what it was
-- or what was presented last.
theorem run_exhibits_last_frame (s : Server Display) (faults : List (Option Failure))
    (h : s.surface.canvas.output = some output) (calls : List Call) :
    (s.facing faults).Exhibits output calls ∧
      (s.facing []).after calls = (s.after calls).facing [] :=
  ⟨exhibits_of_output h calls, s.after_facing_nothing calls⟩

theorem run_exhibits_frame_after_spoiled_rename :
    let output := "frame.svg".toList
    let failed := some (.rename ⟨.other, "out of reach".toList⟩)
    let s : Server Display :=
      .new .standard .standard ⟨Canvas.standard.withOutput output, .around output, [failed]⟩
    let calls := ["x CIRCLE 1 2 3 red", "CIRCLE", "x SEGMENT 1 2 3 4 blue"].map fun text =>
      Call.request text.toList
    s.surface.canvas.output = some output ∧
      (s.facing []).Exhibits output calls ∧
      (s.facing []).after calls = (s.after calls).facing [] := by
  intro output failed s calls
  have h : s.surface.canvas.output = some output := rfl
  exact ⟨h, s.run_exhibits_last_frame [] h calls⟩

end Server
end Easel
