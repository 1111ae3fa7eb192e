import Easel.Program
import Std.Async.DNS
import Std.Async.TCP
import Std.Async.Timer

namespace Easel.Main

open Std.Async Std.Net

def string (t : Text) : String :=
  String.ofList t

-- The failures that a disk knows by name, and others in the words of the system.
def failureOf : IO.Error → Failure
  | .noFileOrDirectory ..     => Disk.notFound
  | .inappropriateType _ 20 _ => Disk.notADirectory
  | .inappropriateType _ 21 _ => Disk.isADirectory
  | e                         => ⟨.other, (toString e).toList⟩

-- Standard error

def levelName : Level → String
  | .error => "ERROR"
  | .warn  => "WARN "
  | .info  => "INFO "
  | .debug => "DEBUG"
  | .trace => "TRACE"

def levelColor : Level → String
  | .error => "31"
  | .warn  => "33"
  | .info  => "32"
  | .debug => "34"
  | .trace => "36"

def levelText (colored : Bool) (l : Level) : String :=
  if colored then "\x1b[" ++ levelColor l ++ "m" ++ levelName l ++ "\x1b[0m" else levelName l

def writeLog (colored : Bool) (log : List Record) : IO Unit :=
  log.forM fun r => IO.eprintln ("[" ++ levelText colored r.level ++ "] " ++ string r.text)

-- Clients

-- What a client sends next, if it does so in time.
def receive (client : TCP.Socket.Client) (timeout : Option Nat) (room : Nat) : Async Delivery := do
  let size := (min room 8192).toUInt64
  let bytes := fun (received : Option ByteArray) =>
    (pure (.bytes ((received.map (·.toList)).getD [])) : Async Delivery)
  match timeout with
  | none | some 0 => bytes (← client.recv? size)
  | some millis   =>
    let late := Failure.mk .wouldBlock "Resource temporarily unavailable (os error 11)".toList
    Selectable.one #[
      .case (client.recvSelector size) bytes,
      .case (← Selector.sleep (Std.Time.Millisecond.Offset.ofNat millis)) fun _ =>
        pure (.failure late)]

-- All that has to be read before a request can be made of it.
partial def collect (client : TCP.Socket.Client) (timeout : Option Nat) (room : Nat) : IO Stream := do
  if room = 0 then
    return []
  let delivery ← try (receive client timeout room).block catch e => pure (.failure (failureOf e))
  match delivery with
  | .failure _ => return [delivery]
  | .bytes bs  =>
    if bs.isEmpty || bs.contains Request.lineFeed then
      return [delivery]
    return delivery :: (← collect client timeout (room - bs.length))

-- Publishing

-- Carries out a publication, and tells what stood in its way.
def publish (output : Text) (document : List UInt8) : IO (Option Obstacle) := do
  let staging := string (Display.staging output)
  let handle ← try pure (Except.ok (← IO.FS.Handle.mk staging .write)) catch e => pure (.error e)
  match handle with
  | .error e => return some (.create (failureOf e))
  | .ok h    =>
    try
      h.write (ByteArray.mk document.toArray)
      h.flush
    catch e => return some (.write 0 (failureOf e))
    try
      IO.FS.rename staging (string output)
      return none
    catch e => return some (.rename (failureOf e))

-- Serves whoever arrives. What the server does is worked out on a disk with nothing on it but the
-- frame. If the frame cannot be published after all, it is worked out again with that obstacle in
-- view.
def serve (server : Server Display) (arrival : Arrival) : IO (Logged (Server Display)) := do
  let disk     := (server.surface.canvas.output.map Disk.around).getD ⟨[]⟩
  let bare     := { server with surface.disk := disk, surface.obstacles := [] }
  let expected := bare.serveNext arrival
  let canvas   := expected.value.surface.canvas
  match canvas.output, canvas.output.bind expected.value.surface.disk.get? with
  | some output, some (.file document) =>
    match ← publish output document with
    | none          => return expected
    | some obstacle => return { bare with surface.obstacles := [some obstacle] }.serveNext arrival
  | _, _ => return expected

def socketName (a : SocketAddress) : String :=
  match a with
  | .v4 ⟨ip, service⟩ => toString ip ++ ":" ++ toString service
  | .v6 ⟨ip, service⟩ => "[" ++ toString ip ++ "]:" ++ toString service

-- The next client with all that has to be read from it, or the failure to let one in.
def accept (listener : TCP.Socket.Server) (timeout : Option Nat) :
    IO (Except Failure (TCP.Socket.Client × Connection)) := do
  let accepted ← try pure (Except.ok (← listener.accept.block)) catch e => pure (.error e)
  match accepted with
  | .error e   => return .error (failureOf e)
  | .ok client =>
    let peer ← try pure (socketName (← client.getPeerName)) catch e => pure s!"unknown peer: {e}"
    let stream ← collect client timeout Request.maxBytes
    return .ok (client, ⟨peer.toList, stream⟩)

partial def serveForever (listener : TCP.Socket.Server) (report : List Record → IO Unit)
    (server : Server Display) : IO Unit := do
  let accepted ← accept listener server.readTimeout
  let served ← serve server (accepted.map Prod.snd)
  report served.log
  if let .ok (client, _) := accepted then
    try client.shutdown.block catch _ => pure ()
  serveForever listener report served.value

-- Starting

def socketAddress (service : UInt16) : IPAddr → SocketAddress
  | .v4 ip => .v4 ⟨ip, service⟩
  | .v6 ip => .v6 ⟨ip, service⟩

def resolve (a : Program.Address) : IO SocketAddress := do
  let host := (string a.host).replace "[" "" |>.replace "]" ""
  let found ← (DNS.getAddrInfo host (toString a.service)).block
  match found.toList with
  | ip :: _ => return socketAddress a.service.toUInt16 ip
  | []      => throw (.userError "no address found")

def listenOn (a : Program.Address) : IO TCP.Socket.Server := do
  let listener ← TCP.Socket.Server.mk
  listener.bind (← resolve a)
  listener.listen 128
  return listener

def finish (e : Program.Ending) : IO UInt32 := do
  writeLog e.colored e.log
  if let some answer := e.answer then
    IO.print (string answer)
  if let some complaint := e.complaint then
    IO.eprintln (string complaint)
  return e.code.toUInt32

def run (terminal : Bool) (o : Options) (a : Program.Address) : IO UInt32 := do
  let report := fun (log : List Record) => writeLog (Program.inColors o terminal) (Program.shown o log)
  let listener ← try pure (Except.ok (← listenOn a)) catch e => pure (.error e)
  match listener with
  | .error e     => finish (Program.bindFailure o terminal (toString e).toList)
  | .ok listener =>
    let address ← try pure (socketName (← listener.getSockName)).toList catch _ => pure o.bind
    report [Program.settings o, Program.listening address o.output]
    serveForever listener report (Program.server o ⟨[]⟩)
    return 0

end Easel.Main

def main (args : List String) : IO UInt32 := do
  let terminal ← (← IO.getStderr).isTty
  match Easel.Program.plan terminal (args.map String.toList) with
  | .stop ending => Easel.Main.finish ending
  | .listen o a  => Easel.Main.run terminal o a
