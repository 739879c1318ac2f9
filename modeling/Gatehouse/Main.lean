import Gatehouse.Command.Program
import Gatehouse.Http.Exchange
import Gatehouse.Http.Redirection
import Gatehouse.Http.Transfer
import Std.Async

/-!
# The outer layer

Here arguments, environment, files and connections are read and written. What is to be done with
them is decided elsewhere. Connections are never encrypted.
-/

namespace Gatehouse.Main

open Std.Async

/-! ## Files and environment -/

def fileFault : IO.Error → FileFault
  | .noFileOrDirectory .. => .missing
  | .permissionDenied .. => .denied
  | .inappropriateType .. => .isDirectory
  | e => .other (toString e)

def readFile (name : String) : IO (Except FileFault Bytes) := do
  try return .ok (← IO.FS.readBinFile name).toList
  catch e => return .error (fileFault e)

def readFiles (names : List String) : IO Files := do
  let contents ← names.mapM fun name => return (name, ← readFile name)
  return fun name => (contents.lookup name).getD (.error .missing)

def readEnvironment : IO Environment := do
  let names := "RUST_LOG" :: CommandName.all.flatMap fun c => c.options.map (·.envName)
  let values ← names.mapM fun name => return (name, ← IO.getEnv name)
  return fun name => (values.lookup name).getD none

def filesFor (env : Environment) (arguments : List String) : IO Files :=
  match Order.ofArguments env arguments with
  | .ok (.server o) => do
    let files ← readFiles [o.config]
    readFiles (o.fileNames files)
  | _ => readFiles []

/-! ## Connections -/

/-- Reads a message from a connection. -/
partial def receive {α : Type} (socket : TCP.Socket.Client)
    (read : (atEnd : Bool) → Bytes → Reading α) (before : ByteArray) : Async (Option α) := do
  match read false before.toList with
  | .done a => return some a
  | .malformed => return none
  | .unfinished =>
    match ← socket.recv? 65536 with
    | some more => receive socket read (before ++ more)
    | none =>
      match read true before.toList with
      | .done a => return some a
      | _ => return none

/-- Writes a message to a connection. -/
def transmit (socket : TCP.Socket.Client) (message : Bytes) : Async Unit :=
  socket.send ⟨message.toArray⟩

def groupsAddress (gs : List Nat) : Std.Net.IPv6Addr :=
  let g := fun i => (gs.getD i 0).toUInt16
  .ofParts (g 0) (g 1) (g 2) (g 3) (g 4) (g 5) (g 6) (g 7)

def lookUp : Url.Host → Async (List Std.Net.IPAddr)
  | .name s => return (← DNS.getAddrInfo s "").toList
  | .ipv4 a =>
    let octet := fun shift => (a / Nat.pow 256 shift % 256).toUInt8
    return [.v4 (.ofParts (octet 3) (octet 2) (octet 1) (octet 0))]
  | .ipv6 gs => return [.v6 (groupsAddress gs)]

def withPort (port : Nat) : Std.Net.IPAddr → Std.Net.SocketAddress
  | .v4 addr => .v4 ⟨addr, port.toUInt16⟩
  | .v6 addr => .v6 ⟨addr, port.toUInt16⟩

/-- Sends a request to its host, and again to where the answers refer it. -/
def deliver : (redirections : Nat) → Outgoing → Async Delivery
  | redirections, o => do
    try
      if o.url.scheme ≠ "http" then return .nothing
      let some address := (← (o.url.host.map lookUp).getD (pure [])).head? | return .nothing
      let socket ← TCP.Socket.Client.mk
      socket.connect (withPort (o.url.port.getD 80) address)
      transmit socket (Transfer.writeRequest o)
      match ← receive socket (Transfer.readResponse o.method) .empty with
      | none => return .nothing
      | some r =>
        match Redirection.next? o r, redirections with
        | none, _ => return .answer r
        | some _, 0 => return .nothing
        | some next, redirections + 1 => deliver redirections next
    catch _ => return .nothing

/-- Carries out an action that uses the network. -/
partial def converse {α : Type} (act : StateM Exchanges α) (known : List Delivery) : Async α := do
  match Exchanges.attempt act known with
  | .inr a => return a
  | .inl o => converse act (known ++ [← deliver Redirection.most o])

/-! ## Serving -/

/-- The network address to listen on. -/
def listenAddress : SocketAddress → Std.Net.SocketAddress
  | .v4 os port =>
    let octet := fun i => (os.getD i 0).toUInt8
    .v4 ⟨.ofParts (octet 0) (octet 1) (octet 2) (octet 3), port.toUInt16⟩
  | .v6 gs _ port => .v6 ⟨groupsAddress gs, port.toUInt16⟩

def respond (p : Prepared) (socket : TCP.Socket.Client) : Async Unit := do
  match ← receive socket (fun _ => Transfer.readRequest) .empty with
  | none => transmit socket (Transfer.writeResponse .get (Server.bare 400))
  | some r =>
    let act := Server.answerUnknown Exchanges.network p.config p.engine r
    transmit socket (Transfer.writeResponse r.method (← converse act []))
  socket.shutdown

/-- Takes connections until the program is interrupted. -/
partial def accept (p : Prepared) (server : TCP.Socket.Server) (interrupt : Signal.Waiter)
    (pending : IO.Ref Nat) : Async Unit := do
  let next ← Selectable.one #[
    .case server.acceptSelector fun socket => return some socket,
    .case interrupt.selector fun _ => return none]
  match next with
  | none => return
  | some socket =>
    pending.modify (· + 1)
    background (do
      try respond p socket catch _ => pure ()
      pending.modify (· - 1))
    accept p server interrupt pending

/-- Waits until no request is pending, but not longer than so many tenths of a second. -/
def drain (pending : IO.Ref Nat) : (tenths : Nat) → Async Unit
  | 0 => return
  | tenths + 1 => do
    if (← pending.get) = 0 then return
    sleep 100
    drain pending tenths

def bindFault : IO.Error → String
  | .resourceBusy .. => Listen.inUse
  | e => toString e

def serve (p : Prepared) : IO Outcome := do
  if p.config.http.tlsPaths.isSome then
    let reason := "encrypted connections are not supported"
    return .failure (Listen.unbound p.config.http p.address reason).message
  try
    let server ← TCP.Socket.Server.mk
    server.bind (listenAddress p.address)
    server.listen 1024
    let interrupt ← Signal.Waiter.mk .sigint true
    let pending ← IO.mkRef 0
    (do accept p server interrupt pending; drain pending 100 : Async Unit).block
    return {}
  catch e => return .failure (Listen.unbound p.config.http p.address (bindFault e)).message

end Gatehouse.Main

open Gatehouse in
def main (arguments : List String) : IO UInt32 := do
  let env ← Main.readEnvironment
  let files ← Main.filesFor env arguments
  let act := Program.run Exchanges.network env files arguments
  let outcome ← match ← (Main.converse act []).block with
    | .ends o => pure o
    | .serves p => Main.serve p
  IO.print outcome.output
  IO.eprint outcome.diagnosis
  return outcome.exitCode.toUInt32
