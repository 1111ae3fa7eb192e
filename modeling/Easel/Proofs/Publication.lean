import Easel.Display
import Easel.Proofs.Disk

namespace Easel

-- Everything that a document of the canvas consists of, when nothing keeps it from being written.
def Canvas.frame (c : Canvas) : List UInt8 :=
  (c.writeTo .unbounded).1.written.toList

theorem Canvas.frame_eq (c : Canvas) : c.frame = c.document.bytes := by
  rw [frame, writeTo, Sink.unbounded, Sink.writeAll_unbounded]
  simp [document]

namespace Display

variable {disk : Disk} {output : Text} {document : List UInt8} {obstacle : Option Obstacle}

theorem staging_ne (output : Text) : output ≠ staging output := by
  simp [staging]

-- How far a document is written.
def reached (document : List UInt8) : Option Obstacle → List UInt8
  | some (.write kept _) => document.take kept
  | _                    => document

-- The changes to the staging file, byte by byte. No matter how many bytes are written at once, they
-- leave the disk in some state that it goes through here.
def staged (output : Text) (document : List UInt8) (obstacle : Option Obstacle) :
    List Disk.Change :=
  .create (staging output) :: (reached document obstacle).map (.append (staging output))

-- All the changes of a publication. The last one is the only one that concerns the output.
def changes (disk : Disk) (output : Text) (document : List UInt8) (obstacle : Option Obstacle) :
    List Disk.Change :=
  match create disk (staging output) obstacle, (publish disk output document obstacle).2 with
  | .error _, _     => []
  | .ok _, .error _ => staged output document obstacle
  | .ok _, .ok ()   => staged output document obstacle ++ [.rename (staging output) output]

theorem create_eq_ok {created : Disk} {path : Text} (h : create disk path obstacle = .ok created) :
    created = disk.change (.create path) := by
  unfold create at h
  split at h
  case h_1 => contradiction
  case h_2 => exact Disk.create_eq_ok h

theorem rename_eq_ok {renamed : Disk} {source target : Text}
    (h : rename disk source target obstacle = .ok renamed) :
    renamed = disk.change (.rename source target) := by
  unfold rename at h
  split at h
  case h_1 => contradiction
  case h_2 => exact Disk.rename_eq_ok h

theorem changeAll_staged (disk : Disk) (output : Text) (document : List UInt8)
    (obstacle : Option Obstacle) :
    disk.changeAll (staged output document obstacle) =
      disk.insert (staging output) (.file (reached document obstacle)) :=
  Disk.changeAll_append_bytes disk (staging output) [] _

theorem staged_spares (output : Text) (document : List UInt8) (obstacle : Option Obstacle) :
    ∀ c ∈ staged output document obstacle, c.Spares output := by
  simp only [staged, List.forall_mem_cons, List.forall_mem_map]
  exact ⟨staging_ne output, fun _ _ => staging_ne output⟩

theorem write_cases (disk : Disk) (path : Text) (bytes : List UInt8) (obstacle : Option Obstacle) :
    (∃ f, write disk path bytes obstacle =
      (disk.insert path (.file (reached bytes obstacle)), .error f)) ∨
    (reached bytes obstacle = bytes ∧
      write disk path bytes obstacle = (disk.insert path (.file bytes), .ok ())) := by
  match obstacle with
  | some (.write _ f)                          => exact .inl ⟨f, rfl⟩
  | none | some (.create _) | some (.rename _) => exact .inr ⟨rfl, rfl⟩

-- What a publication can come to: nothing is done at all, or the output is left alone, or the
-- document takes its place.
inductive Published (disk : Disk) (output : Text) (document : List UInt8) :
    List Disk.Change → Disk × Except Failure Unit → Prop
  | refused : Published disk output document [] (disk, .error f)
  | spoiled (obstacle : Option Obstacle) :
      Published disk output document (staged output document obstacle)
        (disk.changeAll (staged output document obstacle), .error f)
  | succeeded (obstacle : Option Obstacle) (h : reached document obstacle = document) :
      Published disk output document
        (staged output document obstacle ++ [.rename (staging output) output])
        (disk.changeAll
          (staged output document obstacle ++ [.rename (staging output) output]), .ok ())

theorem published (disk : Disk) (output : Text) (document : List UInt8)
    (obstacle : Option Obstacle) :
    Published disk output document (changes disk output document obstacle)
      (publish disk output document obstacle) := by
  unfold changes publish
  cases hc : create disk (staging output) obstacle
  case error f => exact .refused
  case ok created =>
    have hi : created.insert (staging output) (.file (reached document obstacle)) =
        disk.changeAll (staged output document obstacle) := by
      rw [create_eq_ok hc, changeAll_staged]
      exact Disk.insert_insert ..
    cases write_cases created (staging output) document obstacle
    case inl hw =>
      have ⟨f, hw⟩ := hw
      simp only [hw, hi]
      exact .spoiled obstacle
    case inr hw =>
      have ⟨hd, hw⟩ := hw
      rw [hd] at hi
      simp only [hw, hi]
      cases hr : rename (disk.changeAll (staged output document obstacle)) (staging output) output
        obstacle
      case error f    => exact .spoiled obstacle
      case ok renamed =>
        have h : Published disk output document _ _ := .succeeded obstacle hd
        rw [Disk.changeAll_append] at h
        exact rename_eq_ok hr ▸ h

theorem present_eq_publish {d : Display} (ho : d.canvas.output = some output) :
    (d.present.state.disk, d.present.result) =
      publish d.disk output d.canvas.document.bytes d.obstacles.head?.join := by
  simp only [present, ho]
  split
  case h_1 hp => exact hp.symm
  case h_2 hp => exact hp.symm

theorem log_present {d : Display} (ho : d.canvas.output = some output) :
    d.present.log =
      match d.present.result with
      | .ok ()   => [presented d.canvas output]
      | .error _ => [] := by
  simp only [present, ho]
  split <;> rfl

theorem present_published {d : Display} (ho : d.canvas.output = some output) :
    let document := d.canvas.document.bytes
    Published d.disk output document (changes d.disk output document d.obstacles.head?.join)
      (d.present.state.disk, d.present.result) :=
  present_eq_publish ho ▸ published ..

namespace Published

variable {cs : List Disk.Change} {result : Disk × Except Failure Unit}

-- A publication is made up of its changes.
theorem changeAll_eq (h : Published disk output document cs result) :
    disk.changeAll cs = result.1 := by
  cases h
  case refused   => rfl
  case spoiled   => rfl
  case succeeded => rfl

-- Until the last change has been made, the output is what it was before.
theorem get?_take (h : Published disk output document cs result) {k : Nat}
    (hk : k < cs.length) :
    (disk.changeAll (cs.take k)).get? output = disk.get? output := by
  cases h
  case refused => contradiction
  case spoiled obstacle =>
    exact Disk.get?_changeAll (fun c hc => staged_spares _ _ _ c (List.mem_of_mem_take hc)) disk
  case succeeded obstacle _ =>
    rw [List.length_append] at hk
    rw [List.take_append_of_le_length (Nat.le_of_lt_succ hk)]
    exact Disk.get?_changeAll (fun c hc => staged_spares _ _ _ c (List.mem_of_mem_take hc)) disk

theorem get?_error (h : Published disk output document cs result) {f : Failure}
    (hr : result.2 = .error f) : result.1.get? output = disk.get? output := by
  cases h
  case refused          => rfl
  case spoiled obstacle => exact Disk.get?_changeAll (staged_spares output document obstacle) disk
  case succeeded        => contradiction

theorem get?_ok (h : Published disk output document cs result)
    (hr : result.2 = .ok ()) : result.1.get? output = some (.file document) := by
  cases h
  case refused => contradiction
  case spoiled => contradiction
  case succeeded obstacle hd =>
    rw [Disk.changeAll_append, changeAll_staged, hd]
    simp [Disk.changeAll, Disk.change]

theorem get?_staging_ok (h : Published disk output document cs result)
    (hr : result.2 = .ok ()) : result.1.get? (staging output) = none := by
  cases h
  case refused => contradiction
  case spoiled => contradiction
  case succeeded obstacle hd =>
    rw [Disk.changeAll_append, changeAll_staged, hd]
    simp [Disk.changeAll, Disk.change, (staging_ne output).symm]

theorem get?_other {path : Text} (h : Published disk output document cs result)
    (ho : path ≠ output) (hs : path ≠ staging output) : result.1.get? path = disk.get? path := by
  have hc (obstacle : Option Obstacle) : ∀ c ∈ staged output document obstacle, c.Spares path := by
    simp only [staged, List.forall_mem_cons, List.forall_mem_map]
    exact ⟨hs, fun _ _ => hs⟩
  cases h
  case refused          => rfl
  case spoiled obstacle => exact Disk.get?_changeAll (hc obstacle) disk
  case succeeded obstacle _ =>
    have hr : ∀ c ∈ staged output document obstacle ++ [.rename (staging output) output],
        c.Spares path :=
      List.forall_mem_append.mpr ⟨hc obstacle, List.forall_mem_singleton.mpr ⟨hs, ho⟩⟩
    exact Disk.get?_changeAll hr disk

end Published
end Display
end Easel
