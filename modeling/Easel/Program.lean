import Easel.Display
import Easel.Options
import Easel.Options.Usage
import Easel.Server

namespace Easel.Program

-- Why an address cannot be listened on, whatever the network looks like.
inductive AddressError
  | noService
  | badService
  | badHost
  deriving DecidableEq

def AddressError.message : AddressError → Text
  | noService  => "invalid socket address".toList
  | badService => "invalid port value".toList
  | badHost    => "file name contained an unexpected NUL byte".toList

-- An address to listen on: the name or number of a host, and the number of a service on it.
structure Address where
  host    : Text
  service : Nat
  deriving DecidableEq

-- The service stands behind the last colon, and its number has 16 bits. Hosts are looked up by a name
-- that a null character would end.
def Address.parse (t : Text) : Except AddressError Address :=
  if !t.contains ':' then .error .noService
  else
    let service := (t.reverse.takeWhile (· != ':')).reverse
    let host    := ((t.reverse.dropWhile (· != ':')).drop 1).reverse
    match Options.readNatural 65535 service with
    | .error _ => .error .badService
    | .ok n    => if host.contains '\x00' then .error .badHost else .ok ⟨host, n⟩

def cannotBind (address : Text) : Text :=
  "Error binding ".toList ++ address

def listening (address output : Text) : Record :=
  .info ("Server is running on ".toList ++ address ++ ", drawing to ".toList ++ output.quoted)

-- The palette with the colors of the command line in it, a later one of the same name instead of an
-- earlier one.
def palette (o : Options) : Palette :=
  o.palette.foldl Palette.withEntry .standard

def canvas (o : Options) : Canvas :=
  ((Canvas.blank o.width o.height).withCapacity o.maxShapes).withOutput o.output

-- The server that the options describe, on a disk as it is found. Timeouts are counted in
-- milliseconds here.
def server (o : Options) (disk : Disk) : Server Display :=
  let display := { canvas := canvas o, disk, obstacles := [] }
  (Server.new .standard (palette o) display).withReadTimeout (o.readTimeout.map (1000 * ·))

-- What the log says about the options.
def settings (o : Options) : Record :=
  .debug ("bind ".toList ++ o.bind.quoted ++ ", output ".toList ++ o.output.quoted ++
    ", canvas ".toList ++ Text.ofNat o.width ++ 'x' :: Text.ofNat o.height ++
    ", at most ".toList ++ Text.ofNat o.maxShapes ++ " shapes".toList)

-- How a run of the program ends that never comes to serve a client: with an exit code, after some
-- records of the log, perhaps in colors, and then an answer or a complaint.
structure Ending where
  code      : Nat
  log       : List Record := []
  colored   : Bool := false
  answer    : Option Text := none
  complaint : Option Text := none

-- What is shown of some records.
def shown (o : Options) (log : List Record) : List Record :=
  log.filter fun r => o.verbosity.shows r.level

-- Unless it was decided, the log is in colors if it is written to a terminal.
def inColors (o : Options) (terminal : Bool) : Bool :=
  match o.color with
  | .auto   => terminal
  | .always => true
  | .never  => false

def bindFailure (o : Options) (terminal : Bool) (cause : Text) : Ending :=
  let log := shown o [settings o]
  { code      := 1
    log       := log
    colored   := inColors o terminal && !log.isEmpty
    complaint := some ("Error: AnyhowError(".toList ++ cannotBind o.bind ++
      "\n\nCaused by:\n    ".toList ++ cause ++ [')']) }

def versionText : Text :=
  "easel 0.1.0\n".toList

-- Help and the version are answers. A command line that is wrong is worth a complaint and another
-- exit code.
def refusal (e : Options.Error) : Ending :=
  match e with
  | .help    => { code := 0, answer := some Options.usage }
  | .version => { code := 0, answer := some versionText }
  | e        => { code := 2, complaint := e.written? }

-- What the program is going to do: it ends at once, or listens on an address.
inductive Plan
  | stop (ending : Ending)
  | listen (options : Options) (address : Address)

def plan (terminal : Bool) (args : List Text) : Plan :=
  match Options.parse args with
  | .error e => .stop (refusal e)
  | .ok o    =>
    match Address.parse o.bind with
    | .error e => .stop (bindFailure o terminal e.message)
    | .ok a    => .listen o a

end Easel.Program
