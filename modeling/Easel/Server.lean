import Easel.Command.Chain
import Easel.Palette
import Easel.Renderer
import Easel.Request

namespace Easel

-- Draws what its clients ask for, one request after the other.
structure Server (σ : Type) where
  chain       : Command.Chain Logged
  palette     : Palette
  surface     : σ
  readTimeout : Option Nat

-- What becomes of a request that has been dealt with.
inductive Outcome
  | drawn (shape : Shape)
  | rejected (error : Command.Error)
  deriving DecidableEq

-- A client, as far as the server takes notice of it.
structure Connection where
  peer   : Text
  stream : Stream

-- What a listener brings: a client, or the failure to let one in.
abbrev Arrival :=
  Except Failure Connection

namespace Server

variable {σ : Type}

-- A server that waits for its clients as long as they like.
def new (chain : Command.Chain Logged) (palette : Palette) (surface : σ) : Server σ :=
  { chain, palette, surface, readTimeout := none }

-- How many milliseconds a client may take for each read. A limit of zero cannot be set (see
-- `timeoutWarning`), so it limits nothing.
def withReadTimeout (s : Server σ) (millis : Option Nat) : Server σ :=
  { s with readTimeout := millis }

def withSurface (s : Server σ) (surface : σ) : Server σ :=
  { s with surface }

variable [Renderer σ]

-- Draws a shape and shows it.
def drawShape (s : Server σ) (shape : Shape) : Effect (Server σ) Outcome :=
  let color  := s.palette.resolve shape.color.text
  let effect := (Renderer.render s.surface shape color.value).andThen fun surface _ =>
    (Renderer.present surface).andThen fun surface _ => .pure surface (.drawn shape)
  (effect.after color.log).embed s.withSurface

def received (request : Text) : Record :=
  .info ("received: ".toList ++ request.quoted)

-- A command that is no good is rejected, which is no failure: the server goes on as before.
def handleRequest (s : Server σ) (request : Text) : Effect (Server σ) Outcome :=
  let parsed := s.chain.handle request
  let effect := match parsed.value with
    | .ok shape    => s.drawShape shape
    | .error error => ⟨s, [.warn error.message], .ok (.rejected error)⟩
  effect.after (received request :: parsed.log)

-- A client makes one request. If it cannot be read there is none.
def handleConnection (s : Server σ) (stream : Stream) : Effect (Server σ) Outcome :=
  match Request.read stream with
  | .error failure => ⟨s, [], .error failure⟩
  | .ok request    => s.handleRequest request

def zeroTimeout : Failure :=
  ⟨.invalidInput, "cannot set a 0 duration timeout".toList⟩

def connectionFrom (peer : Text) : Record :=
  .debug ("connection from ".toList ++ peer)

def timeoutNotSet (failure : Failure) : Record :=
  .warn ("could not set read timeout: ".toList ++ failure.message)

def connectionFailed (failure : Failure) : Record :=
  .warn ("connection failed: ".toList ++ failure.message)

def acceptFailed (failure : Failure) : Record :=
  .warn ("accept failed: ".toList ++ failure.message)

-- A timeout of zero cannot be set. The client is served without one then.
def timeoutWarning (s : Server σ) : List Record :=
  if s.readTimeout = some 0 then [timeoutNotSet zeroTimeout] else []

-- Whatever goes wrong with a client is noted, and the next one is not affected.
def serveOne (s : Server σ) (client : Connection) : Logged (Server σ) :=
  let effect := s.handleConnection client.stream
  let failed := match effect.result with
    | .ok _          => []
    | .error failure => [connectionFailed failure]
  ⟨connectionFrom client.peer :: s.timeoutWarning ++ effect.log ++ failed, effect.state⟩

-- Where nobody can be let in, the next client may have more luck.
def serveNext (s : Server σ) (arrival : Arrival) : Logged (Server σ) :=
  match arrival with
  | .error failure => ⟨[acceptFailed failure], s⟩
  | .ok client     => s.serveOne client

def serve (s : Server σ) : List Arrival → Logged (Server σ)
  | []                  => ⟨[], s⟩
  | arrival :: arrivals =>
    let served := s.serveNext arrival
    (served.value.serve arrivals).after served.log

end Server
end Easel
