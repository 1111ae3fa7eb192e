import Easel.Text

namespace Easel

inductive Level
  | error
  | warn
  | info
  | debug
  | trace
  deriving DecidableEq

-- One line of the log.
structure Record where
  level : Level
  text  : Text
  deriving DecidableEq

namespace Record

def warn (text : Text) : Record :=
  ⟨.warn, text⟩

def info (text : Text) : Record :=
  ⟨.info, text⟩

def debug (text : Text) : Record :=
  ⟨.debug, text⟩

end Record

-- A value together with the records that were written on the way to it, the first one first.
structure Logged (α : Type) where
  log   : List Record
  value : α

namespace Logged

variable {α β : Type}

-- The same value, with `rs` written before everything else.
def after (rs : List Record) (l : Logged α) : Logged α :=
  ⟨rs ++ l.log, l.value⟩

def write (r : Record) : Logged Unit :=
  ⟨[r], ()⟩

-- What is written later stands further down in the log.
instance : Monad Logged where
  pure a   := ⟨[], a⟩
  bind l f := (f l.value).after l.log

@[simp]
theorem pure_eq (a : α) : (pure a : Logged α) = ⟨[], a⟩ :=
  rfl

@[simp]
theorem bind_eq (l : Logged α) (f : α → Logged β) : l >>= f = (f l.value).after l.log :=
  rfl

@[simp]
theorem map_eq (f : α → β) (l : Logged α) : f <$> l = ⟨l.log, f l.value⟩ :=
  congrArg (Logged.mk · (f l.value)) (List.append_nil l.log)

instance : LawfulMonad Logged :=
  .mk' Logged (map_eq id) (fun _ _ => rfl)
    fun _ _ _ => by simp only [bind_eq, after, List.append_assoc]

end Logged
end Easel
