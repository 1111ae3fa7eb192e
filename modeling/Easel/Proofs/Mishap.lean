import Easel.Proofs.Disk

namespace Easel.Disk

-- Something that goes wrong with an operation on a file. Of what was to be written only the beginning
-- is kept: what got there before the failure, and what is left of a buffer that is given up then.
structure Mishap where
  kept    : Nat
  failure : Failure
  deriving DecidableEq

-- The operations that a file is written and put in its place by.
inductive Task
  | create (path : Text)
  | append (path : Text) (block : List UInt8)
  | flush
  | rename (source target : Text)
  deriving DecidableEq

-- What is done as a whole or not at all.
def attempt (d : Disk) (mishap : Option Mishap) (done : Except Failure Disk) :
    Disk × Except Failure Unit :=
  match mishap, done with
  | some m, _         => (d, .error m.failure)
  | none, .error f    => (d, .error f)
  | none, .ok changed => (changed, .ok ())

def perform (d : Disk) (mishap : Option Mishap) : Task → Disk × Except Failure Unit
  | .create path          => d.attempt mishap (d.create path)
  | .append path block    =>
    match mishap with
    | some m => (d.changeAll ((block.take m.kept).map (.append path)), .error m.failure)
    | none   => (d.changeAll (block.map (.append path)), .ok ())
  | .flush                => d.attempt mishap (.ok d)
  | .rename source target => d.attempt mishap (d.rename source target)

-- Performs some tasks, up to the first one that fails. They meet the mishaps one after the other, and
-- none when there are no more of them.
def performAll (d : Disk) : List Task → List (Option Mishap) → Disk × Except Failure Unit
  | [], _                => (d, .ok ())
  | task :: tasks, mishaps =>
    match d.perform mishaps.head?.join task with
    | (d', .ok ())    => performAll d' tasks mishaps.tail
    | (d', .error f)  => (d', .error f)

-- The first one of some tasks to fail, and why it does. All those before it succeed.
inductive Fails : Disk → List Task → List (Option Mishap) → Task → Failure → Prop
  | here  : d.perform mishaps.head?.join task = (d', .error f) →
      Fails d (task :: tasks) mishaps task f
  | later : d.perform mishaps.head?.join task = (d', .ok ()) → Fails d' tasks mishaps.tail task' f →
      Fails d (task :: tasks) mishaps task' f

variable {d d' : Disk} {task : Task} {tasks tasks' : List Task} {mishaps : List (Option Mishap)}
variable {path : Text} {f : Failure}

theorem performAll_append :
    d.performAll (tasks ++ tasks') mishaps =
      match d.performAll tasks mishaps with
      | (d', .ok ())   => d'.performAll tasks' (mishaps.drop tasks.length)
      | (d', .error f) => (d', .error f) := by
  induction tasks generalizing d mishaps
  case nil => rfl
  case cons task tasks ih =>
    simp only [List.cons_append, performAll]
    split
    case h_1 => rw [ih, List.drop_tail, List.length_cons]
    case h_2 => rfl

theorem performAll_singleton : d.performAll [task] mishaps = d.perform mishaps.head?.join task := by
  simp only [performAll]
  split <;> simp only [*]

theorem performAll_flush :
    d.performAll (.flush :: tasks) mishaps =
      match mishaps.head?.join with
      | some m => (d, .error m.failure)
      | none   => d.performAll tasks mishaps.tail := by
  simp only [performAll, perform, attempt]
  cases mishaps.head?.join <;> rfl

-- Whatever fails as a whole leaves the disk as it was.
theorem attempt_eq_error {mishap : Option Mishap} {done : Except Failure Disk}
    (h : d.attempt mishap done = (d', .error f)) : d' = d := by
  unfold attempt at h
  split at h
  case h_1 | h_2 => exact (Prod.mk.inj h).left.symm
  case h_3       => cases h

theorem attempt_eq_ok {mishap : Option Mishap} {done : Except Failure Disk}
    (h : d.attempt mishap done = (d', .ok ())) : done = .ok d' := by
  unfold attempt at h
  split at h
  case h_1 | h_2 => cases h
  case h_3       => cases h; rfl

namespace Fails

theorem iff_of_ok (hp : d.perform mishaps.head?.join task = (d', .ok ())) {t : Task} :
    Fails d (task :: tasks) mishaps t f ↔ Fails d' tasks mishaps.tail t f := by
  constructor
  case mpr => exact .later hp
  case mp =>
    intro h
    cases h
    case here h     => cases hp.symm.trans h
    case later h hf =>
      cases hp.symm.trans h
      exact hf

theorem iff_of_error {g : Failure} (hp : d.perform mishaps.head?.join task = (d', .error g))
    {t : Task} : Fails d (task :: tasks) mishaps t f ↔ t = task ∧ f = g := by
  constructor
  case mpr =>
    rintro ⟨rfl, rfl⟩
    exact .here hp
  case mp =>
    intro h
    cases h
    case here h    =>
      cases hp.symm.trans h
      exact ⟨rfl, rfl⟩
    case later h _ => cases hp.symm.trans h

theorem exists_iff : (∃ t, Fails d tasks mishaps t f) ↔ (d.performAll tasks mishaps).2 = .error f := by
  induction tasks generalizing d mishaps
  case nil =>
    constructor
    case mp  => exact fun ⟨_, h⟩ => nomatch h
    case mpr => exact fun h => nomatch h
  case cons task tasks ih =>
    simp only [performAll]
    split
    case h_1 hp => simp only [iff_of_ok hp, ih]
    case h_2 hp => simp [iff_of_error hp, eq_comm]

-- A task that is not among the first ones can only fail after they have succeeded.
theorem behind (h : Fails d (tasks ++ tasks') mishaps task f) (hn : task ∉ tasks) :
    ∃ d', d.performAll tasks mishaps = (d', .ok ()) ∧
      Fails d' tasks' (mishaps.drop tasks.length) task f := by
  induction tasks generalizing d mishaps
  case nil => exact ⟨d, rfl, h⟩
  case cons t tasks ih =>
    have ⟨hne, hn⟩ := not_or.mp (mt List.mem_cons.mpr hn)
    cases h
    case here => exact (hne rfl).elim
    case later d' hp hf =>
      have ⟨d', hd, hf⟩ := ih hf hn
      rw [List.drop_tail] at hf
      refine ⟨d', ?_, hf⟩
      simp only [performAll, hp, hd]

theorem mem (h : Fails d tasks mishaps task f) : task ∈ tasks := by
  by_contra hn
  rw [← List.append_nil tasks] at h
  have ⟨_, _, h⟩ := h.behind hn
  cases h

end Fails

-- However many blocks are written, what stands in the file is the beginning of all of them.
theorem performAll_appends (d : Disk) (path : Text) (content : List UInt8)
    (blocks : List (List UInt8)) (mishaps : List (Option Mishap)) :
    let result := (d.insert path (.file content)).performAll (blocks.map (.append path)) mishaps
    (∃ kept f, result = (d.insert path (.file (content ++ blocks.flatten.take kept)), .error f)) ∨
      result = (d.insert path (.file (content ++ blocks.flatten)), .ok ()) := by
  induction blocks generalizing content mishaps
  case nil => exact .inr (by simp [performAll])
  case cons block blocks ih =>
    simp only [List.map_cons, performAll, perform, changeAll_append_bytes, List.flatten_cons]
    cases mishaps.head?.join
    case some m =>
      refine .inl ⟨min m.kept block.length, m.failure, ?_⟩
      rw [List.take_append_of_le_length (Nat.min_le_right ..), ← List.take_eq_take_min]
    case none =>
      have h := ih (content ++ block) mishaps.tail
      simp only [List.append_assoc] at h
      refine h.imp_left fun ⟨kept, f, h⟩ => ⟨block.length + kept, f, ?_⟩
      rw [List.take_length_add_append]
      exact h

-- Blocks can be written up to any byte.
theorem exists_mishaps_within (d : Disk) (path : Text) (blocks : List (List UInt8)) (kept : Nat)
    (f : Failure) (tasks : List Task) :
    ∃ mishaps, ∀ content,
      (d.insert path (.file content)).performAll (blocks.map (.append path) ++ .flush :: tasks) mishaps =
        (d.insert path (.file (content ++ blocks.flatten.take kept)), .error f) := by
  induction blocks generalizing kept
  case nil => exact ⟨[some ⟨0, f⟩], fun content => by simp [performAll, perform, attempt]⟩
  case cons block blocks ih =>
    by_cases h : kept ≤ block.length
    case pos =>
      refine ⟨[some ⟨kept, f⟩], fun content => ?_⟩
      simp [performAll, perform, changeAll_append_bytes, List.take_append_of_le_length h,
        -List.map_take]
    case neg =>
      have ⟨mishaps, h'⟩ := ih (kept - block.length)
      refine ⟨none :: mishaps, fun content => ?_⟩
      have ht : (block ++ blocks.flatten).take kept =
          block ++ blocks.flatten.take (kept - block.length) := by
        rw [List.take_append, List.take_of_length_le (Nat.le_of_not_le h)]
      simp [performAll, perform, changeAll_append_bytes, h', ht]

-- All blocks can be written, and then any mishaps come.
theorem exists_mishaps_behind (d : Disk) (path : Text) (blocks : List (List UInt8))
    (tasks : List Task) (mishaps : List (Option Mishap)) :
    ∃ mishaps', ∀ content,
      (d.insert path (.file content)).performAll (blocks.map (.append path) ++ .flush :: tasks)
          mishaps' =
        (d.insert path (.file (content ++ blocks.flatten))).performAll tasks mishaps := by
  induction blocks
  case nil => exact ⟨none :: mishaps, fun content => by simp [performAll, perform, attempt]⟩
  case cons block blocks ih =>
    have ⟨mishaps', h⟩ := ih
    refine ⟨none :: mishaps', fun content => ?_⟩
    simp [performAll, perform, changeAll_append_bytes, h]

end Easel.Disk
