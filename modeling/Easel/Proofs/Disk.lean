import Easel.Disk
import Mathlib.Data.List.Basic

namespace Easel.Disk

variable {d created renamed : Disk} {path source target : Text}

-- What happens to the files of a disk in one step: whoever looks at them sees them as they were
-- before it or as they are after it.
inductive Change
  | create (path : Text)
  | append (path : Text) (byte : UInt8)
  | rename (source target : Text)
  deriving DecidableEq

def change (d : Disk) : Change → Disk
  | .create path          => d.insert path (.file [])
  | .append path byte     =>
    match d.get? path with
    | some (.file content) => d.insert path (.file (content ++ [byte]))
    | _                    => d
  | .rename source target =>
    match d.get? source with
    | some e => (d.erase source).insert target e
    | none   => d

def changeAll (d : Disk) (changes : List Change) : Disk :=
  changes.foldl change d

-- Changes that only concern other files.
def Change.Spares (path : Text) : Change → Prop
  | .create other         => path ≠ other
  | .append other _       => path ≠ other
  | .rename source target => path ≠ source ∧ path ≠ target

theorem get?_change {c : Change} (h : c.Spares path) (d : Disk) :
    (d.change c).get? path = d.get? path := by
  cases c
  case create other => exact (d.get?_insert other path _).trans (if_neg h)
  case append other byte =>
    simp only [change]
    split
    case h_1 content _ => exact (d.get?_insert other path _).trans (if_neg h)
    case h_2           => rfl
  case rename source target =>
    have ⟨hs, ht⟩ := h
    simp only [change]
    split
    case h_1 => rw [get?_insert, if_neg ht, get?_erase, if_neg hs]
    case h_2 => rfl

theorem get?_changeAll {changes : List Change} (h : ∀ c ∈ changes, c.Spares path) (d : Disk) :
    (d.changeAll changes).get? path = d.get? path := by
  induction changes generalizing d
  case nil => rfl
  case cons c changes ih =>
    have ⟨hc, hs⟩ := List.forall_mem_cons.mp h
    exact (ih hs _).trans (get?_change hc d)

theorem changeAll_append (d : Disk) (changes changes' : List Change) :
    d.changeAll (changes ++ changes') = (d.changeAll changes).changeAll changes' :=
  List.foldl_append

theorem insert_insert (d : Disk) (path : Text) (e e' : Entry) :
    (d.insert path e).insert path e' = d.insert path e' := by
  simp [insert, erase, List.filter_filter]

-- A file that is written one byte after the other comes to the same as one that is written at once.
theorem changeAll_append_bytes (d : Disk) (path : Text) (content bytes : List UInt8) :
    (d.insert path (.file content)).changeAll (bytes.map (.append path)) =
      d.insert path (.file (content ++ bytes)) := by
  induction bytes generalizing content
  case nil => simp [changeAll]
  case cons byte bytes ih =>
    have hc : (d.insert path (.file content)).change (.append path byte) =
        d.insert path (.file (content ++ [byte])) := by
      simp [change, insert_insert]
    have h := ih (content ++ [byte])
    rw [← hc, List.append_assoc] at h
    exact h

theorem create_eq_ok (h : d.create path = .ok created) : created = d.change (.create path) := by
  unfold create at h
  cases hp : d.checkParent path
  case error => simp [hp, bind, Except.bind] at h
  case ok =>
    simp only [hp, bind, Except.bind] at h
    split at h
    case h_1 => contradiction
    case h_2 => exact (Except.ok.inj h).symm

theorem rename_eq_ok (h : d.rename source target = .ok renamed) :
    renamed = d.change (.rename source target) := by
  unfold rename at h
  cases hp : d.checkParent target
  case error => simp [hp, bind, Except.bind] at h
  case ok =>
    simp only [hp, bind, Except.bind] at h
    split at h
    case h_1 => contradiction
    case h_2 => contradiction
    case h_3 e _ hs _ => simp [change, hs, (Except.ok.inj h).symm]

end Easel.Disk
