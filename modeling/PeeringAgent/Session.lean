import PeeringAgent.Backlog
import PeeringAgent.Link.Store
import PeeringAgent.Session.Config
import PeeringAgent.Transport.Error

/-!
# Sessions

A session keeps one connection to a coordinator. Two tasks share it: the
receiver reads the stream into two queues, the dispatcher empties them, applies
link directives to the store and pushes policies when the session is primary. A
session that is disconnected tells both to stop and does not wait until they do.
-/

set_option autoImplicit false

namespace PeeringAgent

inductive Phase
  | disconnected
  | connecting
  | streaming
  | closed
deriving DecidableEq

def Phase.title : Phase → String
  | .disconnected => "Disconnected"
  | .connecting => "Connecting"
  | .streaming => "Streaming"
  | .closed => "Closed"

/-- The role that the coordinator last gave the session. -/
inductive Role
  | notPrimary
  | primary
deriving DecidableEq

def Role.title : Role → String
  | .notPrimary => "NotPrimary"
  | .primary => "Primary"

/-- The role that an arbitration status stands for; an error takes it away. -/
def Role.ofStatus : Wire.ArbitrationStatus → Role
  | .primary => .primary
  | .notPrimary => .notPrimary
  | .error => .notPrimary

inductive Receiver
  | absent
  | reading
  | ended
  /-- It has stopped because it was told to. -/
  | cancelled
deriving DecidableEq

inductive Dispatcher
  | absent
  | waiting
  /-- It has published that the session is primary, and is about to push policies. -/
  | promoted
  /-- A push of policies is under way. -/
  | pushing
  | ended
  | panicked
  | cancelled
deriving DecidableEq

/-- It will not do anything more, or has not begun. -/
def Dispatcher.isOver : Dispatcher → Bool
  | .absent => true
  | .ended => true
  | .panicked => true
  | .cancelled => true
  | .waiting => false
  | .promoted => false
  | .pushing => false

/-- It waits for something. Only there can it be stopped from outside: from the update it
takes to the call of a push it does not pause. -/
def Dispatcher.pauses : Dispatcher → Bool
  | .waiting => true
  | .pushing => true
  | _ => false

theorem Dispatcher.isOver_of_pauses {now : Dispatcher} (h : now.pauses = true) :
    now.isOver = false := by
  cases now <;> first | rfl | cases h

inductive SessionError
  | connect (address : String) (cause : TransportError)
  | openStream (cause : TransportError)
deriving DecidableEq

def SessionError.message : SessionError → String
  | connect address cause => "could not connect to " ++ address ++ ": " ++ cause.message
  | openStream cause => "StreamChannel RPC failed: " ++ cause.message

/-- Tells the supervisor that a session's stream is over. -/
structure StreamEnded where
  session : String
  reason : String
deriving DecidableEq

structure Session where
  config : SessionConfig
  phase : Phase
  role : Role
  store : LinkStore
  /-- The session holds the send half of the stream and the connection. -/
  connected : Bool
  receiver : Receiver
  dispatcher : Dispatcher
  /-- The tasks have been told to stop, and nobody waits for them any more. -/
  dismissed : Bool
  arbitrations : Backlog Wire.ArbitrationUpdate
  directives : Backlog LinkDirective
  /-- The dispatcher has not found the queue closed yet. -/
  arbitrationsWatched : Bool
  directivesWatched : Bool

namespace Session

def newArbitrations (config : SessionConfig) : Backlog Wire.ArbitrationUpdate :=
  .empty "arbitration" config.backlogWarn

def newDirectives (config : SessionConfig) : Backlog LinkDirective :=
  .empty "link update" config.backlogWarn

def new (config : SessionConfig) : Session :=
  { config, phase := .disconnected, role := .notPrimary, store := .empty, connected := false
    receiver := .absent, dispatcher := .absent, dismissed := false
    arbitrations := newArbitrations config, directives := newDirectives config
    arbitrationsWatched := false, directivesWatched := false }

def name (s : Session) : String := s.config.name

/-- The receiver starts with empty queues, before anything else is requested. -/
def startReceiver (s : Session) : Session :=
  { s with
    phase := .streaming, receiver := .reading, dismissed := false
    arbitrations := newArbitrations s.config, directives := newDirectives s.config }

/-- The dispatcher starts last, and from then on the connection is the session's. -/
def startDispatcher (s : Session) : Session :=
  { s with
    connected := true, dispatcher := .waiting
    arbitrationsWatched := true, directivesWatched := true }

def dropSenders (s : Session) : Session :=
  { s with arbitrations := s.arbitrations.dropSender, directives := s.directives.dropSender }

def dropReceivers (s : Session) : Session :=
  { s with arbitrations := s.arbitrations.dropReceiver, directives := s.directives.dropReceiver }

/-- The dispatcher goes down in the middle of a push. -/
def panic (s : Session) : Session := { s.dropReceivers with dispatcher := .panicked }

/-- The receiver stops where it waits. -/
def cancelReceiver (s : Session) : Session := { s.dropSenders with receiver := .cancelled }

/-- The dispatcher stops where it waits. -/
def cancelDispatcher (s : Session) : Session :=
  { s.dropReceivers with dispatcher := .cancelled }

/-- Neither task will do anything more. -/
def tasksOver (s : Session) : Bool := s.receiver != .reading && s.dispatcher.isOver

def statusTitle : Wire.ArbitrationStatus → String
  | .notPrimary => "NotPrimary"
  | .primary => "Primary"
  | .error => "Error"

/-- An arbitration update as a log line shows it. -/
def renderArbitration (u : Wire.ArbitrationUpdate) : String :=
  "ArbitrationUpdate \x7b vlan: " ++ Text.quotedOption u.vlan ++
  ", election_id: " ++ toString u.electionId.toNat ++
  ", status: " ++ statusTitle u.status ++ " \x7d"

def arbitrationErrorText (vlan : Option String) : String :=
  "Coordinator reported an arbitration error" ++
  match vlan with
  | some v => " for VLAN " ++ v
  | none => ""

def dispatcherSummary (s : Session) : String :=
  "Dispatcher stopped (peak backlog: " ++ toString s.arbitrations.peak ++ " arbitration, " ++
  toString s.directives.peak ++ " link; " ++
  toString (s.arbitrations.crossings + s.directives.crossings) ++ " high-water crossings)"

end Session

end PeeringAgent
