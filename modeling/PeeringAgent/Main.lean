import PeeringAgent.Program
import PeeringAgent.Reconciler.Schedule
import PeeringAgent.Supervisor.Event
import PeeringAgent.Transport.Address
import PeeringAgent.Transport.Channel
import Std.Async.DNS
import Std.Async.Signal
import Std.Async.TCP
import Std.Async.Timer
import Std.Internal.UV.System
import Std.Sync.Channel

/-!
# The command line

Files, sockets, the clock and the interrupt signal. What the agent does about
them is decided by the program and its supervisor; here each event is handed
over, and each call that follows from it is made and answered before the next.
How the restart script is launched is a parameter.
-/

set_option autoImplicit false

namespace PeeringAgent.CommandLine

open Std.Async (Async)

abbrev Socket := Std.Async.TCP.Socket.Client

/-! ## The host -/

def fileError : IO.Error → IoError
  | .noFileOrDirectory .. => .notFound
  | .permissionDenied .. => .permissionDenied
  | .inappropriateType _ 21 _ => .isDirectory
  | .inappropriateType .. => .notDirectory
  | e => .other e.toString

def readFile (path : String) : IO (Except IoError ByteArray) := do
  try return .ok (← IO.FS.readBinFile path)
  catch e => return .error (fileError e)

def hostFiles : IO (Files IO) := do
  let directory ← IO.currentDir
  return {
    read := readFile
    isFile := fun path => return (← readFile path).toOption.isSome
    depth := (directory.toString.toList.filter (· == '/')).length }

/-- Variables in the order of their names. -/
def environment : IO (List (String × String)) := do
  return (← Std.Internal.UV.System.osEnviron).toList.mergeSort fun a b => a.1 ≤ b.1

def report (lines : List Log.Line) : IO Unit :=
  (lines.filter Log.Line.shown).forM fun line => IO.eprint line.written

/-- How a host launches a program without arguments and input, and waits for its end. -/
abbrev Launcher := String → IO (Except IoError ExitStatus)

/-- A host that launches no programs. -/
def noLauncher : Launcher :=
  fun _ => return .error (.other "Function not implemented (os error 38)")

/-! ## Connections -/

def networkError (e : IO.Error) : String :=
  let text := e.toString
  if (text.splitOn "connection refused").length > 1 then Address.refused else text

def endpoints (host : String) (port : UInt16) : IO (List Std.Net.SocketAddress) := do
  let found ← (Std.Async.DNS.getAddrInfo host (toString port)).block
  return found.toList.eraseDups.map fun
    | .v4 address => .v4 { addr := address, port }
    | .v6 address => .v6 { addr := address, port }

/-- Connects to the first endpoint that accepts. -/
def connectAny (cause : String) : List Std.Net.SocketAddress → IO (Except String Socket)
  | [] => return .error cause
  | address :: addresses => do
    let socket ← Std.Async.TCP.Socket.Client.mk
    let outcome : Except String Unit ←
      try Except.ok <$> (socket.connect address).block
      catch e => pure (.error (networkError e))
    match outcome with
    | .ok () => do
      socket.noDelay
      return .ok socket
    | .error cause => connectAny cause addresses

def withoutBrackets (host : List Char) : List Char :=
  if host.head? == some '[' && host.getLast? == some ']' then host.tail.dropLast else host

def dial (address : String) : IO (Except TransportError Socket) := do
  let fail (cause : String) : Except TransportError Socket := .error (.connect address cause)
  match Address.malformed? address, Address.split? address with
  | some e, _ => return fail e.message
  | _, none => return fail Address.Malformed.noPort.message
  | none, some (host, port) =>
    let number := ((Address.port? port).getD 0).toUInt16
    try
      match ← connectAny "could not resolve to any addresses"
          (← endpoints (String.ofList (withoutBrackets host)) number) with
      | .ok socket => return .ok socket
      | .error cause => return fail cause
    catch e => return fail (networkError e)

def write (socket : Socket) (bytes : Frame.Bytes) : Async (Except TransportError Unit) := do
  try
    socket.send ⟨bytes.toArray⟩
    return .ok ()
  catch e => return .error (.io (networkError e))

/-- The next frame on a connection, given what has arrived of it, and what has
arrived behind it. -/
partial def nextFrame {α : Type} (socket : Socket) (ofJson? : Json.Value → Option α)
    (arrived : Frame.Bytes) : Async (Frame.Next α × Frame.Bytes) := do
  let (line, rest) := Frame.splitLine arrived
  if line.getLast? == some Frame.lineFeed then
    match (Frame.next ofJson? line).1 with
    | .finished => nextFrame socket ofJson? rest
    | found => return (found, rest)
  else
    let more : Except TransportError (Option ByteArray) ←
      try Except.ok <$> socket.recv? 65536
      catch e => pure (.error (.io (networkError e)))
    match more with
    | .error e => return (.failure e, [])
    | .ok none => return ((Frame.next ofJson? arrived).1, [])
    | .ok (some bytes) => nextFrame socket ofJson? (arrived ++ bytes.data.toList)

/-- Hands on what arrives on a stream until it is over. -/
partial def follow (events : Std.Channel Event) (session : Nat) (socket : Socket)
    (arrived : Frame.Bytes) : Async Unit := do
  let (found, rest) ← nextFrame socket Wire.StreamResponse.ofJson? arrived
  match Arrival.ofNext? found with
  | some (.message m) =>
    discard <| events.send (.arrival session (.message m))
    follow events session socket rest
  | some failure => discard <| events.send (.arrival session failure)
  | none => discard <| events.send (.finished session)

/-! ## Calls -/

/-- The agent's end of one session. -/
structure Peer where
  session : Nat
  events : Std.Channel Event
  channel : IO.Ref Channel
  /-- The connection that was made when the channel was set up. -/
  first : IO.Ref (Option Socket)
  stream : IO.Ref (Option Socket)

def newPeer (events : Std.Channel Event) (session : Nat) (config : SessionConfig) : IO Peer :=
  return {
    session, events
    channel := ← IO.mkRef (.new config.address config.credentials)
    first := ← IO.mkRef none
    stream := ← IO.mkRef none }

def shutDownSocket (socket : Socket) : IO Unit := do
  try socket.shutdown.block catch _ => return ()

namespace Peer

def route (p : Peer) (r : Request) : IO (Except TransportError Socket) := do
  let channel ← p.channel.get
  let (channel', route) := channel.route r
  p.channel.set channel'
  match route with
  | .refuse => return .error .closed
  | .dial => dial channel.address
  | .first => do
    match ← p.first.get with
    | some socket => p.first.set none; return .ok socket
    | none => dial channel.address

/-- Sends a request and waits for its reply. -/
def exchange (p : Peer) (r : Request) :
    IO (Except TransportError (Socket × Frame.Bytes × Wire.Reply)) := do
  match ← p.route r with
  | .error e => return .error e
  | .ok socket =>
    let bytes := (← p.channel.get).requestFrame r
    match ← (write socket bytes).block with
    | .error e => return .error e
    | .ok () =>
      let (found, rest) ← (nextFrame socket Wire.Reply.ofJson? []).block
      match Channel.outcome found with
      | .error e => shutDownSocket socket; return .error e
      | .ok reply => return .ok (socket, rest, reply)

def connect (p : Peer) (address : String) : IO Answer := do
  match ← dial address with
  | .error e => return .failed e
  | .ok socket => p.first.set (some socket); return .done

def openStream (p : Peer) : IO Answer := do
  match ← p.exchange .stream with
  | .error e => return .failed e
  | .ok (socket, rest, _) =>
    p.stream.set (some socket)
    discard <| Async.toIO (follow p.events p.session socket rest)
    return .done

def unary (p : Peer) (r : Request) : IO Answer := do
  match ← p.exchange r with
  | .error e => return .failed e
  | .ok (socket, _, reply) => shutDownSocket socket; return .complaints reply.errors

def send (p : Peer) (request : Wire.StreamRequest) : IO Answer := do
  match ← p.stream.get with
  | none => return .failed .closed
  | some socket =>
    match ← (write socket (Frame.encode request.toJson)).block with
    | .error e => return .failed e
    | .ok () => return .done

def make (p : Peer) : Call → IO Answer
  | .connect address _ => p.connect address
  | .openStream => p.openStream
  | .send request => p.send request
  | .setPortRange range => p.unary (.setPortRange range)
  | .setPolicies records => p.unary (.setPolicies records)
  | .closeSend => do
    if let some socket ← p.stream.get then shutDownSocket socket
    p.stream.set none
    return .done
  | .close => do
    if let some socket ← p.first.get then shutDownSocket socket
    p.first.set none
    p.channel.modify Channel.close
    return .done

end Peer

/-- A step of all sessions, repeated with every answer until no call is left. -/
partial def settleCalls {α : Type} (peers : Array Peer)
    (step : List Dialogue → α × List Dialogue) (before : List Dialogue) (made : List Nat) :
    IO (α × List Dialogue) := do
  let (result, after) := step before
  match Supervisor.nextCall? made after with
  | none => return (result, after)
  | some (i, call) =>
    let answer ← match peers[i]? with
      | some peer => peer.make call
      | none => pure .done
    settleCalls peers step (Supervisor.learn before i call answer) (made.modify i (· + 1))

def carryOut {α : Type} (peers : Array Peer) (step : List Dialogue → α × List Dialogue)
    (ds : List Dialogue) : IO (α × List Dialogue) :=
  settleCalls peers step (Supervisor.renew ds) (ds.map fun _ => 0)

/-! ## Running -/

/-- Posts an event once the clock shows a time, with a day's sleep at most. -/
partial def postAt (events : Std.Channel Event) (time : Nat) (event : Event) : Async Unit := do
  let now ← IO.monoMsNow
  if now < time then
    Std.Async.sleep (.ofNat (min (time - now) 86400000))
    postAt events time event
  else discard <| events.send event

/-- The next event; those that had to wait come first once nothing is waited for. -/
def nextEvent (events : Std.Channel Event) (s : Supervisor) :
    List Event → IO (Event × List Event)
  | event :: waiting =>
    if s.mode = .watching then return (event, waiting)
    else return (← events.sync.recv, event :: waiting)
  | [] => return (← events.sync.recv, [])

partial def run (launch : Launcher) (settings : Settings) (events : Std.Channel Event)
    (peers : Array Peer) (due : Nat) (waiting : List Event) (s : Supervisor) : IO Unit := do
  let (event, waiting) ← nextEvent events s waiting
  let begun ← IO.monoMsNow
  let ((s, demand), ds) ← carryOut peers (fun ds =>
    let (s, demand) := Supervisor.react { s with dialogues := ds, log := [] } event
    ((s, demand), s.dialogues)) s.dialogues
  let s := { s with dialogues := ds }
  report s.log
  match event, demand with
  | _, .stop => return ()
  | _, .later => run launch settings events peers due (waiting ++ [event]) s
  | .tick, demand =>
    if let .restart := demand then
      report (Reconciler.outcomeLines (← RestartOutcome.run launch settings.restartScript))
    let due :=
      Reconciler.nextDue Reconciler.tolerance (1000 * settings.delay.toNat) due begun
    discard <| Async.toIO (postAt events due .tick)
    run launch settings events peers due waiting s
  | _, _ => run launch settings events peers due waiting s

/-- Without a signal to wait for the agent ends at once. -/
def postInterrupt (events : Std.Channel Event) : IO Unit := do
  let post (outcome : Except IO.Error Unit) : IO Unit :=
    discard <| events.send <| match outcome with
      | .ok () => .interrupt
      | .error e => .signalLost e.toString
  try
    let signal ← Std.Async.Signal.Waiter.mk .sigint false
    discard <| IO.mapTask (fun outcome => post (outcome.map fun _ => ())) (← signal.wait)
  catch e => post (.error e)

def fail (failure : Program.Failure) : IO UInt32 := do
  IO.eprint failure.written
  return 1

def start (launch : Launcher) (arguments : List String) : IO UInt32 := do
  let (log, prepared) ← Program.prepare (← hostFiles) arguments (← environment)
  report log
  match prepared with
  | .error failure => fail failure
  | .ok prepared =>
    let events ← Std.Channel.new
    let peers ← prepared.sessions.toArray.mapIdxM fun i config => newPeer events i config
    let ds := prepared.sessions.map fun config => Dialogue.new config .agreeable
    let ((log, error), ds) ← carryOut peers (fun ds =>
      let up := Supervisor.startUp [] ds
      ((up.log, up.error), up.dialogues)) ds
    report log
    match error with
    | some e => fail (.session e)
    | none =>
      postInterrupt events
      discard <| events.send .tick
      run launch prepared.settings events peers (← IO.monoMsNow) [] (.watch ds)
      return 0

end PeeringAgent.CommandLine

/-- Runs the agent on a host that launches no programs; the first argument may name its
settings. -/
def main (arguments : List String) : IO UInt32 :=
  PeeringAgent.CommandLine.start PeeringAgent.CommandLine.noLauncher arguments
