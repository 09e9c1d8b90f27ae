import LanguageBridge.CommandLine.Visit
import Std.Async.DNS
import Std.Async.TCP
import Std.Async.Timer

/-! The command line: looks at the files that matter, plans the run, and carries out the visit over
a socket. -/
namespace LanguageBridge.Terminal

open Std.Async

def environment : IO Environment := do
  return ⟨← IO.getEnv "HOME", ← IO.getEnv "XDG_CONFIG_HOME",
    ← IO.getEnv "LSP_BRIDGE_TIMEOUT_SECS", ← IO.getEnv "LSP_BRIDGE_ADDRESS"⟩

/-- What stands on the disk along the pieces of a path. -/
def look (here : Place) : List (List Char) → IO (List (Place × Node))
  | [] => return []
  | piece :: rest => do
    if !Path.isNamed piece then look here rest
    else if piece = ['.', '.'] then look here.parent rest
    else
      let place := here.child piece
      let path := (← IO.currentDir) / place.path
      let found ← if ← path.isDir then pure [(place, Node.directory)]
        else if ← path.pathExists then
          pure [(place, .file (← IO.FS.readBinFile path).toList)]
        else pure []
      return found ++ (← look place rest)

/-- The part of the disk that some paths lead through. -/
def survey (paths : List String) : IO Storage := do
  let current := (← IO.currentDir).toString
  let entries ← paths.mapM fun path => look .root (Path.parts (Path.join current path)).2
  return ⟨.ofNames (Path.names current), (← look .root (Path.names current)) ++ entries.flatten⟩

/-- Brings the disk up to date. -/
def commit (before after : Storage) : IO Unit :=
  after.entries.forM fun (place, node) =>
    if before.get? place = some node then pure ()
    else
      match node with
      | .directory => IO.FS.createDirAll (Place.path place)
      | .file bytes => IO.FS.writeBinFile (Place.path place) (ByteArray.mk bytes.toArray)

/-- Host and port of an address. -/
def hostAndPort (address : String) : IO (String × UInt16) :=
  match Text.splitLast ':' address.toList with
  | some (host, port) =>
    match Text.numeral? UInt16.size (String.ofList port) with
    | some n => return (String.ofList host, .ofNat n)
    | none => throw (IO.userError "invalid port value")
  | none => throw (IO.userError "invalid socket address")

def socketAddress (port : UInt16) : Std.Net.IPAddr → Std.Net.SocketAddress
  | .v4 addr => .v4 ⟨addr, port⟩
  | .v6 addr => .v6 ⟨addr, port⟩

/-- Connects to the first address of the host that answers. -/
def connectFirst (port : UInt16) : List Std.Net.IPAddr → Async TCP.Socket.Client
  | [] => throw (IO.userError "could not resolve to any addresses")
  | addr :: rest => do
    let socket ← TCP.Socket.Client.mk
    try
      socket.connect (socketAddress port addr)
      return socket
    catch e => if rest.isEmpty then throw e else connectFirst port rest

def connect (address : String) : Async TCP.Socket.Client := do
  let (host, port) ← hostAndPort address
  let found ← DNS.getAddrInfo host (toString port.toNat)
  let socket ← connectFirst port found.toList
  socket.noDelay
  return socket

/-- Waits a short time for bytes. -/
def listen (socket : TCP.Socket.Client) : Async (Option VisitEvent) := do
  Selectable.one #[
    .case (socket.recvSelector 65536) fun received =>
      match received with
      | some bytes => return some (.bytes bytes.toList)
      | none => return some .disconnected,
    .case (← Selector.sleep 10) fun _ => return none]

/-- Sends what a step sends; whether the peer took it. -/
def send (socket : TCP.Socket.Client) (bytes : List UInt8) : Async Bool := do
  if bytes.isEmpty then return true
  try
    socket.send (ByteArray.mk bytes.toArray)
    return true
  catch _ => return false

/-- Goes on until the visit is over. -/
partial def converse (socket : TCP.Socket.Client) (last : Nat) (step : VisitStep) :
    Async Ending := do
  let taken ← send socket step.sent
  match step.ending with
  | some ending => return ending
  | none =>
    let event ← if taken then listen socket else pure (some .disconnected)
    let now ← IO.monoMsNow
    let next := step.visit.handle (.elapsed (.ofMilliseconds (.ofNat (now - last))))
    converse socket now (match event with
      | some event => next.andThen event
      | none => next)

/-- Why a connection failed; the codes of the system come negated. -/
def reason : IO.Error → String
  | .noSuchThing _ code details =>
    details.capitalize ++ " (os error " ++ toString (0 - code).toNat ++ ")"
  | .userError text => text
  | e => toString e

/-- Carries out an errand. -/
def visit (errand : Errand) : IO Ending := Async.block do
  let connected ← try
      let socket ← connect errand.address
      pure (Except.ok socket)
    catch e => pure (.error (errand.unreachable (reason e)))
  match connected with
  | .error ending => return ending
  | .ok socket => converse socket (← IO.monoMsNow) (Visit.start errand)

/-- One run of the program. -/
def run (words : List String) : IO Ending := do
  match Invocation.parse words with
  | .error .misuse =>
    IO.eprint CommandLine.Stop.usage
    return ⟨CommandLine.Stop.misuse.status, ""⟩
  | .error stop => return ⟨stop.status, stop.output⟩
  | .ok invocation =>
    let env ← environment
    let before ← survey (invocation.paths env)
    match Surroundings.plan ⟨before, env⟩ invocation with
    | .finished ending after =>
      commit before after
      return ending
    | .visit errand => visit errand

end LanguageBridge.Terminal

/-- Prints what the run prints; what goes wrong outside of it is a failure too. -/
def main (words : List String) : IO UInt32 := do
  let ending ← try LanguageBridge.Terminal.run words
    catch e => pure (LanguageBridge.Ending.raised (toString e))
  IO.print ending.output
  return ending.status.toUInt32
