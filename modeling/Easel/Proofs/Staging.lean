import Easel.Proofs.Mishap
import Easel.Proofs.Writing

namespace Easel.Display

open Disk

variable {disk : Disk} {output : Text} {obstacle : Option Obstacle}

-- What a publication is made of. The document is written block by block.
def tasks (output : Text) (blocks : List (List UInt8)) : List Task :=
  .create (staging output) :: blocks.map (.append (staging output)) ++
    [.flush, .rename (staging output) output]

theorem create_cases (disk : Disk) (path : Text) (obstacle : Option Obstacle) :
    (∃ f, obstacle = some (.create f)) ∨ create disk path obstacle = disk.create path := by
  match obstacle with
  | some (.create f)                           => exact .inl ⟨f, rfl⟩
  | none | some (.write ..) | some (.rename _) => exact .inr rfl

theorem publish_of_not_created (document : List UInt8) {f : Failure}
    (h : create disk (staging output) obstacle = .error f) :
    publish disk output document obstacle = (disk, .error f) := by
  simp only [publish, h]

section

variable {created : Disk} (h : disk.create (staging output) = .ok created)

include h

theorem publish_of_write (document : List UInt8) (kept : Nat) (f : Failure) :
    publish disk output document (some (.write kept f)) =
      (disk.insert (staging output) (.file (document.take kept)), .error f) := by
  simp only [publish, create, write, h, Disk.create_eq_ok h, change, insert_insert]

theorem publish_of_rename (document : List UInt8) (mishap : Option Mishap) :
    publish disk output document (mishap.map (.rename ·.failure)) =
      (disk.insert (staging output) (.file document)).attempt mishap
        ((disk.insert (staging output) (.file document)).rename (staging output) output) := by
  have hc := Disk.create_eq_ok h
  cases mishap
  case some m =>
    simp only [publish, create, write, rename, h, hc, change, insert_insert, attempt, Option.map]
  case none =>
    simp only [publish, create, write, rename, h, hc, change, insert_insert, attempt, Option.map]
    split <;> simp only [*]

-- What is left to do once the file has been created.
theorem performAll_tasks (blocks : List (List UInt8)) (mishaps : List (Option Mishap)) :
    disk.performAll (tasks output blocks) (none :: mishaps) =
      (disk.insert (staging output) (.file [])).performAll
        (blocks.map (.append (staging output)) ++ [.flush, .rename (staging output) output])
        mishaps := by
  have hc := Disk.create_eq_ok h
  simp [tasks, performAll, perform, attempt, h, hc, change]

end

-- The mishaps of a publication come to a single obstacle, as the first of them is the last.
theorem exists_obstacle (disk : Disk) (output : Text) (blocks : List (List UInt8))
    (mishaps : List (Option Mishap)) :
    ∃ obstacle, publish disk output blocks.flatten obstacle =
      disk.performAll (tasks output blocks) mishaps := by
  simp only [tasks, List.cons_append, performAll, perform, attempt]
  cases mishaps.head?.join
  case some m => exact ⟨some (.create m.failure), publish_of_not_created _ rfl⟩
  case none =>
    cases h : disk.create (staging output)
    case error f => exact ⟨none, publish_of_not_created _ h⟩
    case ok created =>
      have hc : created = disk.insert (staging output) (.file []) := Disk.create_eq_ok h
      simp only [performAll_append, hc]
      rcases performAll_appends disk (staging output) [] blocks mishaps.tail with ⟨kept, f, ha⟩ | ha
      case inl => exact ⟨some (.write kept f), ha ▸ publish_of_write h _ kept f⟩
      case inr =>
        simp only [ha, List.nil_append]
        generalize mishaps.tail.drop (blocks.map (Task.append (staging output))).length = mishaps
        rw [performAll_flush]
        cases mishaps.head?.join
        case some m =>
          have hw := publish_of_write h blocks.flatten blocks.flatten.length m.failure
          exact ⟨some (.write _ m.failure), hw.trans (by rw [List.take_length])⟩
        case none =>
          simp only [performAll_singleton]
          exact ⟨_, publish_of_rename h blocks.flatten mishaps.tail.head?.join⟩

-- A publication can meet an obstacle only if there are mishaps that come to it.
theorem exists_mishaps (disk : Disk) (output : Text) (blocks : List (List UInt8))
    (obstacle : Option Obstacle) :
    ∃ mishaps, publish disk output blocks.flatten obstacle =
      disk.performAll (tasks output blocks) mishaps := by
  rcases create_cases disk (staging output) obstacle with ⟨f, rfl⟩ | hc
  case inl => exact ⟨[some ⟨0, f⟩], publish_of_not_created _ rfl⟩
  case inr =>
    cases h : disk.create (staging output)
    case error f =>
      refine ⟨[], (publish_of_not_created _ (hc.trans h)).trans ?_⟩
      simp [tasks, performAll, perform, attempt, h]
    case ok =>
      let rename : Task := .rename (staging output) output
      have hr (mishap : Option Mishap) :
          ∃ mishaps, publish disk output blocks.flatten (mishap.map (.rename ·.failure)) =
            disk.performAll (tasks output blocks) mishaps := by
        obtain ⟨mishaps, hb⟩ := exists_mishaps_behind disk (staging output) blocks [rename] [mishap]
        refine ⟨none :: mishaps, ?_⟩
        rw [publish_of_rename h, performAll_tasks h, hb, performAll_singleton]
        rfl
      cases obstacle
      case none => exact hr none
      case some obstacle =>
        cases obstacle
        case create f => exact ⟨[some ⟨0, f⟩], publish_of_not_created _ rfl⟩
        case write kept f =>
          obtain ⟨mishaps, hw⟩ := exists_mishaps_within disk (staging output) blocks kept f [rename]
          refine ⟨none :: mishaps, ?_⟩
          rw [publish_of_write h, performAll_tasks h, hw]
          rfl
        case rename f => exact hr (some ⟨0, f⟩)

section

variable {blocks : List (List UInt8)} {mishaps : List (Option Mishap)} {f : Failure}

theorem disk_of_not_created
    (h : Fails disk (tasks output blocks) mishaps (.create (staging output)) f) :
    (disk.performAll (tasks output blocks) mishaps).1 = disk := by
  cases h
  case later _ h => simpa using h.mem
  case here d' h =>
    have hd : d' = disk := attempt_eq_error h
    simp only [tasks, List.cons_append, performAll, h, hd]

theorem disk_of_written {d : Disk}
    (h : disk.performAll (.create (staging output) :: blocks.map (.append (staging output)) ++ [.flush])
      mishaps = (d, .ok ())) : d = disk.insert (staging output) (.file blocks.flatten) := by
  rw [List.cons_append, performAll] at h
  split at h
  case h_2 => cases h
  case h_1 created hc =>
    have hc : created = disk.insert (staging output) (.file []) :=
      Disk.create_eq_ok (attempt_eq_ok hc)
    rw [hc, performAll_append] at h
    rcases performAll_appends disk (staging output) [] blocks mishaps.tail with ⟨_, _, ha⟩ | ha
    case inl =>
      rw [ha] at h
      cases h
    case inr =>
      simp only [ha, performAll_singleton] at h
      exact (Except.ok.inj (attempt_eq_ok h)).symm

theorem disk_of_not_renamed
    (h : Fails disk (tasks output blocks) mishaps (.rename (staging output) output) f) :
    (disk.performAll (tasks output blocks) mishaps).1 =
      disk.insert (staging output) (.file blocks.flatten) := by
  have ht : tasks output blocks =
      (.create (staging output) :: blocks.map (.append (staging output)) ++ [.flush]) ++
        [.rename (staging output) output] := by
    simp [tasks]
  rw [ht] at h ⊢
  have ⟨written, hw, h⟩ := h.behind (by simp)
  rw [performAll_append, hw]
  cases h
  case later h => cases h
  case here h =>
    simp only [performAll_singleton, h]
    exact (attempt_eq_error h).trans (disk_of_written hw)

end

-- How a canvas comes through its presentation, whatever happens to the tasks that it is made of.
structure Withstands (d : Display) (output : Text) (tasks : List Task)
    (mishaps : List (Option Mishap)) : Prop where
  performed  : d.disk.performAll tasks mishaps = (d.present.state.disk, d.present.result)
  canvas     : d.present.state.canvas = d.canvas
  -- The failure is that of the first task to fail.
  result     : ∀ f, d.present.result = .error f ↔ ∃ task, Fails d.disk tasks mishaps task f
  failed     : ∀ f, d.present.result = .error f →
    d.present.log = [] ∧ d.present.state.disk.get? output = d.disk.get? output
  notCreated : ∀ f, Fails d.disk tasks mishaps (.create (staging output)) f →
    d.present.state.disk = d.disk
  notRenamed : ∀ f, Fails d.disk tasks mishaps (.rename (staging output) output) f →
    d.present.state.disk.get? (staging output) = some (.file d.canvas.frame)
  succeeded  : (∀ task f, ¬Fails d.disk tasks mishaps task f) →
    d.present.result = .ok () ∧ d.present.log = [presented d.canvas output] ∧
      d.present.state.disk.get? output = some (.file d.canvas.frame) ∧
      d.present.state.disk.get? (staging output) = none
  others     : ∀ path, path ≠ output → path ≠ staging output →
    d.present.state.disk.get? path = d.disk.get? path

theorem withstands_of_publish_eq {d : Display} {blocks : List (List UInt8)}
    {mishaps : List (Option Mishap)} (ho : d.canvas.output = some output)
    (hb : blocks.flatten = d.canvas.frame)
    (h : publish d.disk output blocks.flatten d.obstacles.head?.join =
      d.disk.performAll (tasks output blocks) mishaps) :
    Withstands d output (tasks output blocks) mishaps := by
  have hf : d.canvas.frame = d.canvas.document.bytes := d.canvas.frame_eq
  have hp : d.disk.performAll (tasks output blocks) mishaps =
      (d.present.state.disk, d.present.result) := by
    rw [← h, hb, hf, present_eq_publish ho]
  have hr (f : Failure) :
      d.present.result = .error f ↔ ∃ task, Fails d.disk (tasks output blocks) mishaps task f := by
    rw [Fails.exists_iff, hp]
  have hd := present_published ho
  refine ⟨hp, ?canvas, hr, ?failed, ?notCreated, ?notRenamed, ?succeeded, ?others⟩
  case canvas => exact d.perform_canvas .present
  case failed =>
    intro f he
    refine ⟨?_, hd.get?_error he⟩
    rw [log_present ho, he]
  case notCreated =>
    intro f he
    have h := disk_of_not_created he
    rw [hp] at h
    exact h
  case notRenamed =>
    intro f he
    have h := disk_of_not_renamed he
    rw [hp, hb] at h
    have hd : d.present.state.disk = d.disk.insert (staging output) (.file d.canvas.frame) := h
    rw [hd, get?_insert, if_pos rfl]
  case succeeded =>
    intro hn
    cases he : d.present.result
    case error f =>
      have ⟨task, h⟩ := (hr f).mp he
      exact (hn task f h).elim
    case ok =>
      rw [hf, log_present ho, he]
      exact ⟨rfl, rfl, hd.get?_ok he, hd.get?_staging_ok he⟩
  case others => exact fun path ho hs => hd.get?_other ho hs

-- Whichever of the tasks fail, there is never anything but a whole frame at the output, and if it is
-- not the new one, it is the one that was there.
theorem present_withstands_mishaps (c : Canvas) (h : c.output = some output) (size : Nat) :
    let tasks := tasks output (Text.blocks size [] c.pieces)
    staging output ≠ output ∧
      (∀ disk obstacles, ∃ mishaps, Withstands ⟨c, disk, obstacles⟩ output tasks mishaps) ∧
      ∀ disk mishaps, ∃ obstacle, ∀ obstacles,
        Withstands ⟨c, disk, obstacle :: obstacles⟩ output tasks mishaps := by
  have hb : (Text.blocks size [] c.pieces).flatten = c.frame := by
    rw [Text.flatten_blocks, c.frame_eq, Canvas.document, List.nil_append]
  refine ⟨(staging_ne output).symm, ?mishaps, ?obstacle⟩
  case mishaps =>
    intro disk obstacles
    obtain ⟨mishaps, hm⟩ := exists_mishaps disk output (Text.blocks size [] c.pieces)
      obstacles.head?.join
    exact ⟨mishaps, withstands_of_publish_eq h hb hm⟩
  case obstacle =>
    intro disk mishaps
    obtain ⟨obstacle, hm⟩ := exists_obstacle disk output (Text.blocks size [] c.pieces) mishaps
    exact ⟨obstacle, fun obstacles => withstands_of_publish_eq h hb hm⟩

theorem present_withstands_full_disk :
    let output   := "frame.svg".toList
    let c        := Canvas.standard.withOutput output
    let disk     : Disk := ⟨[(output, .file [1]), (staging output, .file [2, 3])]⟩
    let tasks    := tasks output (Text.blocks 64 [] c.pieces)
    let noSpace  := ⟨.other, "No space left on device (os error 28)".toList⟩
    let mishaps  := [none, none, some ⟨5, noSpace⟩]
    c.output = some output ∧
      ∃ obstacle, ∀ obstacles,
        let d : Display := ⟨c, disk, obstacle :: obstacles⟩
        Withstands d output tasks mishaps ∧ d.present.result = .error noSpace ∧
          d.present.state.disk.get? output = some (.file [1]) := by
  intro output c disk tasks noSpace mishaps
  have ⟨obstacle, h⟩ := (present_withstands_mishaps c rfl 64).right.right disk mishaps
  have hf : (disk.performAll tasks mishaps).2 = .error noSpace := by decide +kernel
  refine ⟨rfl, obstacle, fun obstacles => ?_⟩
  have h := h obstacles
  have he := (h.result noSpace).mpr (Fails.exists_iff.mpr hf)
  exact ⟨h, he, (h.failed noSpace he).right.trans rfl⟩

end Easel.Display
