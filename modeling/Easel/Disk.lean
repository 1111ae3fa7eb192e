import Easel.Failure

namespace Easel

-- What stands under a path.
inductive Disk.Entry
  | file (content : List UInt8)
  | directory
  deriving DecidableEq

-- The files and directories that can be reached, each under its path.
structure Disk where
  entries : List (Text × Disk.Entry)
  deriving DecidableEq

namespace Disk

def get? (d : Disk) (path : Text) : Option Entry :=
  d.entries.lookup path

def erase (d : Disk) (path : Text) : Disk :=
  ⟨d.entries.filter (·.1 != path)⟩

@[simp]
theorem get?_erase (d : Disk) (path other : Text) :
    (d.erase path).get? other = if other = path then none else d.get? other := by
  obtain ⟨entries⟩ := d
  induction entries with
  | nil => simp [erase, get?]
  | cons entry entries ih => grind [erase, get?]

def insert (d : Disk) (path : Text) (e : Entry) : Disk :=
  ⟨(path, e) :: (d.erase path).entries⟩

@[simp]
theorem get?_insert (d : Disk) (path other : Text) (e : Entry) :
    (d.insert path e).get? other = if other = path then some e else d.get? other := by
  have h := get?_erase d path other
  grind [insert, get?]

-- The path up to its last slash. A path without one lies in the current directory.
def parent? (path : Text) : Option Text :=
  if path.contains '/' then some ((path.reverse.dropWhile (· != '/')).drop 1).reverse else none

-- A disk with nothing on it but the directory that `path` lies in.
def around (path : Text) : Disk :=
  ⟨(parent? path).toList.map (·, .directory)⟩

def notFound : Failure :=
  ⟨.notFound, "No such file or directory (os error 2)".toList⟩

def notADirectory : Failure :=
  ⟨.notADirectory, "Not a directory (os error 20)".toList⟩

def isADirectory : Failure :=
  ⟨.isADirectory, "Is a directory (os error 21)".toList⟩

-- The current directory and the root are always there.
def checkParent (d : Disk) (path : Text) : Except Failure Unit :=
  match parent? path with
  | none | some []   => .ok ()
  | some (c :: rest) =>
    match d.get? (c :: rest) with
    | some .directory => .ok ()
    | some (.file _)  => .error notADirectory
    | none            => .error notFound

-- An empty file at `path`, whichever file was there before.
def create (d : Disk) (path : Text) : Except Failure Disk := do
  d.checkParent path
  match d.get? path with
  | some .directory => .error isADirectory
  | _               => .ok (d.insert path (.file []))

-- Moves a file in one step, over whichever file was there before.
def rename (d : Disk) (source target : Text) : Except Failure Disk := do
  d.checkParent target
  match d.get? source, d.get? target with
  | none, _                  => .error notFound
  | some _, some .directory  => .error isADirectory
  | some e, _                => .ok ((d.erase source).insert target e)

end Disk
end Easel
