import PeeringAgent.Coordinator
import PeeringAgent.Session

/-!
# A session and its coordinator

Everything a session does is a step here: commands from outside, one message
taken from the stream by the receiver, one update taken from a queue by the
dispatcher. Connecting is a list of errands, and the receiver already reads while
the later ones are under way. So is a release: its calls are made while the tasks go
on, and those are told to stop only after them.
-/

set_option autoImplicit false

namespace PeeringAgent

/-- One thing that the owner of a session does while connecting or releasing it. -/
inductive Errand
  | dial
  | openStream
  | bid
  | portRange (range : Wire.PortRange)
  | startDispatcher
  | closeSend
  | close
  /-- Tells the tasks to stop. -/
  | dismiss
  /-- The role is given up, and the session is closed. -/
  | retire
deriving DecidableEq

/-- What connecting has to do, in this order. -/
def SessionConfig.errands (c : SessionConfig) : List Errand :=
  [.dial, .openStream, .bid] ++ c.interfaces.map .portRange ++ [.startDispatcher]

/-- What a release has to do; a session calls only what it has opened. -/
def Session.departure (s : Session) : List Errand :=
  (if s.connected then [.closeSend, .close] else []) ++ [.dismiss, .retire]

structure Dialogue where
  session : Session
  coordinator : Coordinator
  /-- What connecting, or a release, has still to do. -/
  agenda : List Errand
  /-- Somebody listens for the end of the stream. -/
  supervised : Bool
  log : List Log.Line
  ended : List StreamEnded

namespace Dialogue

def new (config : SessionConfig) (behaviour : Behaviour) : Dialogue :=
  { session := .new config, coordinator := .start behaviour, agenda := [], supervised := true
    log := [], ended := [] }

def name (d : Dialogue) : String := d.session.name

def say (d : Dialogue) (lines : List Log.Line) : Dialogue := { d with log := d.log ++ lines }

def tagged (d : Dialogue) (text : String) : String := Log.tagged d.name text

def call (d : Dialogue) (c : Call) : Dialogue := { d with coordinator := d.coordinator.record c }

def setSession (d : Dialogue) (s : Session) : Dialogue := { d with session := s }

def setPhase (d : Dialogue) (p : Phase) : Dialogue :=
  d.setSession { d.session with phase := p }

def setStore (d : Dialogue) (store : LinkStore) : Dialogue :=
  d.setSession { d.session with store }

/-! ## Commands -/

/-- Ends an attempt to connect. -/
def giveUp (d : Dialogue) : Dialogue := { d.setPhase .closed with agenda := [] }

def dial (d : Dialogue) : Dialogue × Except SessionError Unit :=
  let address := d.session.config.address
  let d := d.call (.connect address d.session.config.credentials)
  match d.coordinator.behaviour.connectError with
  | some e => (d.giveUp, .error (.connect address e))
  | none => (d, .ok ())

/-- The receiver starts as soon as the stream is open; without a stream the
connection is closed again. -/
def openStream (d : Dialogue) : Dialogue × Except SessionError Unit :=
  let d := d.call .openStream
  match d.coordinator.openError with
  | some e => ((d.call .close).giveUp, .error (.openStream e))
  | none =>
    let d := { d with coordinator := { d.coordinator with stream := .taken } }
    let d := d.setSession d.session.startReceiver
    (d.say [Log.info (d.tagged "Persistent stream open")], .ok ())

def sendBid (d : Dialogue) : Dialogue :=
  let d := d.call (.send (.arbitration Wire.bid))
  match d.coordinator.behaviour.sendError with
  | none => d
  | some e => d.say [Log.error (d.tagged ("Sending arbitration bid failed: " ++ e.message))]

def setPortRange (d : Dialogue) (range : Wire.PortRange) : Dialogue :=
  let d := d.call (.setPortRange range)
  match d.coordinator.behaviour.portRangeErrors.lookup range.interfaceVlan with
  | none => d.say [Log.info (d.tagged ("Port range " ++ toString range.firstPort.toNat ++ "-" ++
      toString range.lastPort.toNat ++ " set on VLAN " ++ range.interfaceVlan ++ " (" ++
      range.interfaceIp ++ ")"))]
  | some e => d.say [Log.error (d.tagged ("SetPortRange RPC failed for VLAN " ++
      range.interfaceVlan ++ ": " ++ e.message))]

def closeConnection (d : Dialogue) : Dialogue :=
  (d.call .close).setSession { d.session with connected := false }

def dismiss (d : Dialogue) : Dialogue := d.setSession { d.session with dismissed := true }

/-- A task that goes on may still publish another role after this. -/
def retire (d : Dialogue) : Dialogue :=
  let wasStreaming := d.session.phase = .streaming
  let d := d.setSession { d.session with role := .notPrimary, phase := .closed }
  if wasStreaming then d.say [Log.info (d.tagged "Disconnected")] else d

/-- Once the stream is open, failed calls are only reported. -/
def perform (d : Dialogue) : Errand → Dialogue × Except SessionError Unit
  | .dial => d.dial
  | .openStream => d.openStream
  | .bid => (d.sendBid, .ok ())
  | .portRange range => (d.setPortRange range, .ok ())
  | .startDispatcher => (d.setSession d.session.startDispatcher, .ok ())
  | .closeSend => (d.call .closeSend, .ok ())
  | .close => (d.closeConnection, .ok ())
  | .dismiss => (d.dismiss, .ok ())
  | .retire => (d.retire, .ok ())

def beginConnect (d : Dialogue) : Dialogue :=
  let d := d.setPhase .connecting
  { d.say [Log.info (d.tagged ("Connecting to coordinator at " ++ d.session.config.address))] with
    agenda := d.session.config.errands }

/-- The next thing to do while connecting or releasing. -/
def carryOn? (d : Dialogue) : Option (Dialogue × Except SessionError Unit) :=
  match d.agenda with
  | [] => none
  | errand :: rest => some ({ d with agenda := rest }.perform errand)

/-- Errands one after the other, up to the first that fails. -/
def attempt : List Errand → Dialogue → Dialogue × Except SessionError Unit
  | [], d => (d, .ok ())
  | errand :: rest, d =>
    match { d with agenda := rest }.perform errand with
    | (d, .ok ()) => attempt rest d
    | (d, .error e) => (d, .error e)

/-- Connects, opens the stream, bids for write access and registers the port
ranges; what was opened is closed again when this fails. -/
def connect (d : Dialogue) : Dialogue × Except SessionError Unit :=
  attempt d.beginConnect.agenda d.beginConnect

/-- Begins to close what is open and to stop the tasks; allowed at any time. -/
def beginRelease (d : Dialogue) : Dialogue := { d with agenda := d.session.departure }

/-- Waits for the tasks, unless they have been dismissed before. -/
def awaitTasks? (d : Dialogue) : Option Dialogue :=
  if d.session.dismissed then some d
  else if d.session.tasksOver then
    some (if d.session.dispatcher = .panicked then
      d.say [Log.error (d.tagged "Session task panicked")]
    else d)
  else none

/-- The receiver stops, if it has been told to. -/
def cancelReceiver? (d : Dialogue) : Option Dialogue :=
  if d.session.dismissed ∧ d.session.receiver = .reading then
    some { d with
      session := d.session.cancelReceiver, coordinator := d.coordinator.dropStream }
  else none

/-- The dispatcher stops where it waits, if it has been told to. -/
def cancelDispatcher? (d : Dialogue) : Option Dialogue :=
  if d.session.dismissed ∧ d.session.dispatcher.pauses then
    some (d.setSession d.session.cancelDispatcher)
  else none

/-- What still runs stops. -/
def cancelTasks (d : Dialogue) : Dialogue :=
  let d := d.cancelReceiver?.getD d
  d.cancelDispatcher?.getD d

/-- A release at one go, after which the tasks stop before anything else happens. -/
def disconnect (d : Dialogue) : Dialogue :=
  (attempt d.session.departure d.beginRelease).1.cancelTasks

/-- Releases a session whose tasks are over; none while one of them still runs. -/
def closeEnded? (d : Dialogue) : Option Dialogue := d.awaitTasks?.map disconnect

/-! ## The receiver -/

def endReceiver (d : Dialogue) (reason : String) : Dialogue :=
  let d := d.say [Log.warn (d.tagged ("Receiving from persistent stream failed: " ++ reason))]
  { d with
    session := { d.session.dropSenders with receiver := .ended }
    coordinator := d.coordinator.dropStream
    ended := if d.supervised then d.ended ++ [⟨d.name, reason⟩] else d.ended }

def dispatcherGone : String := "dispatcher stopped"

def queueArbitration (d : Dialogue) (u : Wire.ArbitrationUpdate) : Dialogue :=
  let d := d.say [Log.info (d.tagged ("Arbitration update: " ++ Session.renderArbitration u))]
  match d.session.arbitrations.send u with
  | (_, .returned _) => d.endReceiver dispatcherGone
  | (q, .accepted crossed) =>
    (d.setSession { d.session with arbitrations := q }).say
      ((Backlog.Sent.accepted crossed).lines q)

def queueDirective (d : Dialogue) (directive : LinkDirective) : Dialogue :=
  let d := d.say [Log.info (d.tagged ("Link update: " ++ directive.render))]
  match d.session.directives.send directive with
  | (_, .returned _) => d.endReceiver dispatcherGone
  | (q, .accepted crossed) =>
    (d.setSession { d.session with directives := q }).say
      ((Backlog.Sent.accepted crossed).lines q)

def hear (d : Dialogue) : Wire.StreamResponse → Dialogue
  | .arbitration u => d.queueArbitration u
  | .linkUpdate u =>
    match LinkDirective.ofUpdate u with
    | .ok directive => d.queueDirective directive
    | .error e => d.say [Log.warn (d.tagged ("Dropping link update: " ++ e.message))]
  | .error notice => d.say [Log.warn (d.tagged ("Coordinator: " ++ notice.message))]

/-- The receiver takes what is next on the stream. -/
def receive? (d : Dialogue) : Option Dialogue :=
  if d.session.receiver = .reading then
    match d.coordinator.inbox with
    | .message m :: rest =>
      some ({ d with coordinator := { d.coordinator with inbox := rest } }.hear m)
    | .failure e :: _ => some (d.endReceiver e.message)
    | [] =>
      if d.coordinator.finished then some (d.endReceiver "stream closed by coordinator") else none
  else none

/-! ## The dispatcher -/

def syncLines (pushed : Nat) (complaints : List String) : List Log.Line :=
  complaints.map (fun text => Log.error ("Coordinator: " ++ text)) ++
  [Log.info ("Synchronized " ++ toString pushed ++ " policies (" ++
    toString complaints.length ++ " rejected)")]

/-- The coordinator answers a push of policies. -/
def finishPush (d : Dialogue) : Dialogue :=
  let b := d.coordinator.behaviour
  let d := d.setSession { d.session with dispatcher := .waiting }
  match b.policiesError with
  | some e => d.say [Log.error ("SetPolicies RPC failed: " ++ e.message)]
  | none => d.say (syncLines d.session.config.records.length b.policyErrors)

/-- What brings the dispatcher down does so at the call, before any wait. -/
def startPush (d : Dialogue) : Dialogue :=
  let d := d.call (.setPolicies d.session.config.records)
  if d.coordinator.behaviour.policiesPanic then d.setSession d.session.panic
  else
    let d := d.setSession { d.session with dispatcher := .pushing }
    if d.coordinator.held then d else d.finishPush

/-- The dispatcher publishes the role that an update gives; a primary session is about to
push policies. -/
def adopt (d : Dialogue) (u : Wire.ArbitrationUpdate) : Dialogue :=
  let d :=
    if u.status = .error then
      d.say [Log.warn (d.tagged (Session.arbitrationErrorText u.vlan))]
    else d
  let role := Role.ofStatus u.status
  let previous := d.session.role
  let d := d.setSession
    { d.session with role, dispatcher := if role = .primary then .promoted else .waiting }
  if previous = role then d
  else d.say [Log.info (d.tagged ("Arbitration state: " ++ role.title))]

/-- The dispatcher calls for a push, whatever has become of the role since. -/
def startPush? (d : Dialogue) : Option Dialogue :=
  if d.session.dispatcher = .promoted then some d.startPush else none

/-- The dispatcher takes an arbitration update. -/
def dispatchArbitration? (d : Dialogue) : Option Dialogue :=
  if d.session.dispatcher = .waiting ∧ d.session.arbitrationsWatched then
    match d.session.arbitrations.receive with
    | (q, .item u) => some ((d.setSession { d.session with arbitrations := q }).adopt u)
    | _ => none
  else none

/-- The dispatcher takes a link directive. -/
def dispatchDirective? (d : Dialogue) : Option Dialogue :=
  if d.session.dispatcher = .waiting ∧ d.session.directivesWatched then
    match d.session.directives.receive with
    | (q, .item directive) =>
      some (d.setSession
        { d.session with directives := q, store := d.session.store.apply directive })
    | _ => none
  else none

/-- A held push goes on once nothing holds it. -/
def resumePush? (d : Dialogue) : Option Dialogue :=
  if d.session.dispatcher = .pushing ∧ d.coordinator.held = false then some d.finishPush else none

/-- The dispatcher finds a queue closed, and watches only the other one from then on. -/
def closeArbitrations? (d : Dialogue) : Option Dialogue :=
  if d.session.dispatcher = .waiting ∧ d.session.arbitrationsWatched ∧
      d.session.arbitrations.isClosed then
    some (d.setSession { d.session with arbitrationsWatched := false })
  else none

def closeDirectives? (d : Dialogue) : Option Dialogue :=
  if d.session.dispatcher = .waiting ∧ d.session.directivesWatched ∧
      d.session.directives.isClosed then
    some (d.setSession { d.session with directivesWatched := false })
  else none

/-- The dispatcher stops when it watches no queue any more. -/
def stopDispatcher? (d : Dialogue) : Option Dialogue :=
  if d.session.dispatcher = .waiting ∧ d.session.arbitrationsWatched = false ∧
      d.session.directivesWatched = false then
    let d := d.say [Log.debug (d.tagged d.session.dispatcherSummary)]
    some (d.setSession { d.session.dropReceivers with dispatcher := .ended })
  else none

/-- A held push brings the dispatcher down. -/
def crash? (d : Dialogue) : Option Dialogue :=
  if d.session.dispatcher = .pushing then some (d.setSession d.session.panic) else none

/-! ## Moves of the tasks -/

/-- A step of a task. The dispatcher is free to choose among those it can do. -/
inductive Move
  | receive
  | dispatchArbitration
  | startPush
  | dispatchDirective
  | resumePush
  | closeArbitrations
  | closeDirectives
  | stopDispatcher
deriving DecidableEq

def move? (d : Dialogue) : Move → Option Dialogue
  | .receive => d.receive?
  | .dispatchArbitration => d.dispatchArbitration?
  | .startPush => d.startPush?
  | .dispatchDirective => d.dispatchDirective?
  | .resumePush => d.resumePush?
  | .closeArbitrations => d.closeArbitrations?
  | .closeDirectives => d.closeDirectives?
  | .stopDispatcher => d.stopDispatcher?

end Dialogue

end PeeringAgent
