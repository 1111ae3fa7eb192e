import Easel.Command.Reading
import Easel.Command.Token

namespace Easel.Command

variable {m : Type → Type}

-- Answers to the keywords of `kind`, and has the arguments read by `read`. What else readers may do
-- than to read is up to `m`. There is always a log that can be written.
structure Interpreter (m : Type → Type) where
  kind : Kind
  read : Fields → m (Except ArgumentError Shape)

namespace Interpreter

-- Reads the shapes of the kind whose keywords it answers to.
def ofKind (kind : Kind) : Interpreter Logged :=
  ⟨kind, Reading.ofKind kind⟩

def canHandle (i : Interpreter m) (keyword : Text) : Bool :=
  i.kind.named keyword

-- An interpreter as it is shown. There is nothing to be shown of its reader.
def text (i : Interpreter m) : Text :=
  "Interpreter \x7b kind: ".toList ++ i.kind.name ++ ", .. \x7d".toList

-- Complaints about the arguments name the kind of the interpreter.
def interpret [Monad m] (i : Interpreter m) (tokens : List Text) : m (Except Error Shape) :=
  match Fields.ofTokens tokens with
  | .error e => pure (.error (.malformed (.shape i.kind) e))
  | .ok f    => (·.mapError (.malformed (.shape i.kind))) <$> i.read f

end Interpreter

-- Interpreters, in the order in which they are asked.
structure Chain (m : Type → Type) where
  interpreters : List (Interpreter m)

namespace Chain

def standard : Chain Logged :=
  ⟨[.ofKind .circle, .ofKind .segment, .ofKind .triangle, .ofKind .polygon]⟩

def find? (c : Chain m) (keyword : Text) : Option (Interpreter m) :=
  c.interpreters.find? (·.canHandle keyword)

def handledBy (keyword : Text) (i : Interpreter m) : Record :=
  .debug (keyword ++ " handled by ".toList ++ i.kind.keyword ++ " interpreter".toList)

variable [Monad m] [MonadLiftT Logged m]

-- The second token is the keyword, and the first interpreter that answers to it has the say.
def dispatch (c : Chain m) (tokens : List Text) : m (Except Error Shape) :=
  match tokens[1]? with
  | none => pure (.error (.malformed .command (.missing .keyword)))
  | some keyword =>
    match c.find? keyword with
    | none   => pure (.error (.unsupportedShape keyword))
    | some i => do
      Logged.write (handledBy keyword i)
      i.interpret tokens

def handle (c : Chain m) (line : Text) : m (Except Error Shape) :=
  c.dispatch (tokens line)

end Chain
end Easel.Command
