import PeeringAgent.Dialogue

/-!
# What a move does

Each move of a session's tasks has one of a few effects on the session, its
coordinator and the end events told. Log lines are left out. The proofs about runs
go by these effects and do not open the moves again.
-/

set_option autoImplicit false

namespace PeeringAgent

/-- The arbitration update that a message carries. -/
def Wire.StreamResponse.arbitration? : Wire.StreamResponse → Option Wire.ArbitrationUpdate
  | .arbitration u => some u
  | .linkUpdate _ => none
  | .error _ => none

/-- The directive that a message carries, if it is a valid link update. -/
def Wire.StreamResponse.directive? : Wire.StreamResponse → Option LinkDirective
  | .arbitration _ => none
  | .linkUpdate u => (LinkDirective.ofUpdate u).toOption
  | .error _ => none

namespace SessionConfig

variable (c : SessionConfig)

def dialCall : Call := .connect c.address c.credentials

def bidCall : Call := .send (.arbitration Wire.bid)

def pushCall : Call := .setPolicies c.records

end SessionConfig

namespace Dialogue

variable (d : Dialogue)

@[simp] theorem say_session (ls : List Log.Line) : (d.say ls).session = d.session := rfl
@[simp] theorem say_coordinator (ls : List Log.Line) :
    (d.say ls).coordinator = d.coordinator := rfl
@[simp] theorem say_agenda (ls : List Log.Line) : (d.say ls).agenda = d.agenda := rfl
@[simp] theorem say_ended (ls : List Log.Line) : (d.say ls).ended = d.ended := rfl
@[simp] theorem say_supervised (ls : List Log.Line) :
    (d.say ls).supervised = d.supervised := rfl

@[simp] theorem setSession_session (s : Session) : (d.setSession s).session = s := rfl
@[simp] theorem setSession_coordinator (s : Session) :
    (d.setSession s).coordinator = d.coordinator := rfl
@[simp] theorem setSession_agenda (s : Session) : (d.setSession s).agenda = d.agenda := rfl
@[simp] theorem setSession_ended (s : Session) : (d.setSession s).ended = d.ended := rfl
@[simp] theorem setSession_supervised (s : Session) :
    (d.setSession s).supervised = d.supervised := rfl

@[simp] theorem call_session (c : Call) : (d.call c).session = d.session := rfl
@[simp] theorem call_coordinator (c : Call) :
    (d.call c).coordinator = d.coordinator.record c := rfl
@[simp] theorem call_agenda (c : Call) : (d.call c).agenda = d.agenda := rfl
@[simp] theorem call_ended (c : Call) : (d.call c).ended = d.ended := rfl
@[simp] theorem call_supervised (c : Call) : (d.call c).supervised = d.supervised := rfl

/-- End events after the receiver has ended for a reason. -/
def told (reason : String) : List StreamEnded :=
  if d.supervised then d.ended ++ [⟨d.name, reason⟩] else d.ended

/-- The session after its receiver has ended. -/
def deaf : Session := { d.session.dropSenders with receiver := .ended }

/-- The session after an arbitration update has been taken from the queue. -/
def taken (rest : List Wire.ArbitrationUpdate) (role : Role) : Session :=
  { d.session with arbitrations := d.session.arbitrations.taken rest, role }

/-- The effects of moves on session, coordinator and end events. -/
inductive Effect : Move → Session → Coordinator → List StreamEnded → Prop
  | queuedArbitration {u : Wire.ArbitrationUpdate} {rest : List Arrival}
      (reading : d.session.receiver = .reading)
      (next : d.coordinator.inbox = .message (.arbitration u) :: rest)
      (listener : d.session.arbitrations.receiverOpen = true) :
      Effect .receive
        { d.session with arbitrations := (d.session.arbitrations.send u).1 }
        { d.coordinator with inbox := rest } d.ended
  | queuedDirective {u : Wire.LinkUpdate} {directive : LinkDirective} {rest : List Arrival}
      (reading : d.session.receiver = .reading)
      (next : d.coordinator.inbox = .message (.linkUpdate u) :: rest)
      (valid : LinkDirective.ofUpdate u = .ok directive)
      (listener : d.session.directives.receiverOpen = true) :
      Effect .receive
        { d.session with directives := (d.session.directives.send directive).1 }
        { d.coordinator with inbox := rest } d.ended
  | ignored {m : Wire.StreamResponse} {rest : List Arrival}
      (reading : d.session.receiver = .reading)
      (next : d.coordinator.inbox = .message m :: rest)
      (noArbitration : m.arbitration? = none) (noDirective : m.directive? = none) :
      Effect .receive d.session { d.coordinator with inbox := rest } d.ended
  | orphaned {m : Wire.StreamResponse} {rest : List Arrival}
      (reading : d.session.receiver = .reading)
      (next : d.coordinator.inbox = .message m :: rest)
      (alone : m.arbitration? ≠ none ∧ d.session.arbitrations.receiverOpen = false ∨
        m.directive? ≠ none ∧ d.session.directives.receiverOpen = false) :
      Effect .receive d.deaf ({ d.coordinator with inbox := rest } : Coordinator).dropStream
        (d.told dispatcherGone)
  | failed {e : TransportError} {rest : List Arrival}
      (reading : d.session.receiver = .reading)
      (next : d.coordinator.inbox = .failure e :: rest) :
      Effect .receive d.deaf d.coordinator.dropStream (d.told e.message)
  | finished (reading : d.session.receiver = .reading) (nothing : d.coordinator.inbox = [])
      (gone : d.coordinator.finished = true) :
      Effect .receive d.deaf d.coordinator.dropStream (d.told "stream closed by coordinator")
  | demoted {u : Wire.ArbitrationUpdate} {rest : List Wire.ArbitrationUpdate}
      (waiting : d.session.dispatcher = .waiting)
      (watched : d.session.arbitrationsWatched = true)
      (next : d.session.arbitrations.waiting = u :: rest)
      (role : Role.ofStatus u.status = .notPrimary) :
      Effect .dispatchArbitration (d.taken rest .notPrimary) d.coordinator d.ended
  | promoted {u : Wire.ArbitrationUpdate} {rest : List Wire.ArbitrationUpdate}
      (waiting : d.session.dispatcher = .waiting)
      (watched : d.session.arbitrationsWatched = true)
      (next : d.session.arbitrations.waiting = u :: rest)
      (role : Role.ofStatus u.status = .primary) :
      Effect .dispatchArbitration { d.taken rest .primary with dispatcher := .promoted }
        d.coordinator d.ended
  | pushed (promoted : d.session.dispatcher = .promoted)
      (calm : d.coordinator.behaviour.policiesPanic = false)
      (free : d.coordinator.held = false) :
      Effect .startPush { d.session with dispatcher := .waiting }
        (d.coordinator.record d.session.config.pushCall) d.ended
  | heldUp (promoted : d.session.dispatcher = .promoted)
      (calm : d.coordinator.behaviour.policiesPanic = false)
      (held : d.coordinator.held = true) :
      Effect .startPush { d.session with dispatcher := .pushing }
        (d.coordinator.record d.session.config.pushCall) d.ended
  | panicked (promoted : d.session.dispatcher = .promoted)
      (fatal : d.coordinator.behaviour.policiesPanic = true) :
      Effect .startPush d.session.panic (d.coordinator.record d.session.config.pushCall) d.ended
  | applied {directive : LinkDirective} {rest : List LinkDirective}
      (waiting : d.session.dispatcher = .waiting)
      (watched : d.session.directivesWatched = true)
      (next : d.session.directives.waiting = directive :: rest) :
      Effect .dispatchDirective
        { d.session with
          directives := d.session.directives.taken rest
          store := d.session.store.apply directive }
        d.coordinator d.ended
  | resumed (pushing : d.session.dispatcher = .pushing) (free : d.coordinator.held = false) :
      Effect .resumePush { d.session with dispatcher := .waiting } d.coordinator d.ended
  | arbitrationsClosed (waiting : d.session.dispatcher = .waiting)
      (watched : d.session.arbitrationsWatched = true)
      (closed : d.session.arbitrations.isClosed = true) :
      Effect .closeArbitrations { d.session with arbitrationsWatched := false }
        d.coordinator d.ended
  | directivesClosed (waiting : d.session.dispatcher = .waiting)
      (watched : d.session.directivesWatched = true)
      (closed : d.session.directives.isClosed = true) :
      Effect .closeDirectives { d.session with directivesWatched := false }
        d.coordinator d.ended
  | stopped (waiting : d.session.dispatcher = .waiting)
      (noArbitrations : d.session.arbitrationsWatched = false)
      (noDirectives : d.session.directivesWatched = false) :
      Effect .stopDispatcher { d.session.dropReceivers with dispatcher := .ended }
        d.coordinator d.ended

/-- What a move changes of a dialogue, log lines apart. -/
structure Moved (m : Move) (d' : Dialogue) : Prop where
  effect : d.Effect m d'.session d'.coordinator d'.ended
  agenda : d'.agenda = d.agenda
  supervised : d'.supervised = d.supervised

variable {d : Dialogue}

/-- A dialogue without its log. -/
def mute (d : Dialogue) : Dialogue := { d with log := [] }

theorem Moved.of_mute {m : Move} {e d' : Dialogue} (h : d'.mute = e.mute) (he : d.Moved m e) :
    d.Moved m d' := by
  obtain ⟨effect, agenda, supervised⟩ := he
  cases d'
  cases e
  simp only [mute, Dialogue.mk.injEq] at h
  obtain ⟨rfl, rfl, rfl, rfl, -, rfl⟩ := h
  exact ⟨effect, agenda, supervised⟩

theorem queueArbitration_of_listener (u : Wire.ArbitrationUpdate)
    (h : d.session.arbitrations.receiverOpen = true) :
    (d.queueArbitration u).mute = (d.setSession
      { d.session with arbitrations := (d.session.arbitrations.send u).1 }).mute := by
  simp only [queueArbitration, say_session, Backlog.send, h, if_true]
  rfl

theorem queueArbitration_of_alone (u : Wire.ArbitrationUpdate)
    (h : d.session.arbitrations.receiverOpen = false) :
    (d.queueArbitration u).mute = (d.endReceiver dispatcherGone).mute := by
  simp only [queueArbitration, say_session, Backlog.send_returned _ _ h]
  rfl

theorem queueDirective_of_listener (directive : LinkDirective)
    (h : d.session.directives.receiverOpen = true) :
    (d.queueDirective directive).mute = (d.setSession
      { d.session with directives := (d.session.directives.send directive).1 }).mute := by
  simp only [queueDirective, say_session, Backlog.send, h, if_true]
  rfl

theorem queueDirective_of_alone (directive : LinkDirective)
    (h : d.session.directives.receiverOpen = false) :
    (d.queueDirective directive).mute = (d.endReceiver dispatcherGone).mute := by
  simp only [queueDirective, say_session, Backlog.send_returned _ _ h]
  rfl

/-- The dialogue after the next message has been taken from the stream. -/
def read (d : Dialogue) (rest : List Arrival) : Dialogue :=
  { d with coordinator := { d.coordinator with inbox := rest } }

/-- The receiver hands a message on; without a dispatcher it ends. -/
theorem hear_moved {m : Wire.StreamResponse} {rest : List Arrival}
    (reading : d.session.receiver = .reading)
    (next : d.coordinator.inbox = .message m :: rest) :
    d.Moved .receive ((d.read rest).hear m) := by
  cases m with
  | arbitration u =>
    rw [hear]
    cases listener : d.session.arbitrations.receiverOpen with
    | true =>
      exact .of_mute (queueArbitration_of_listener u listener)
        ⟨.queuedArbitration reading next listener, rfl, rfl⟩
    | false =>
      have needed : Wire.StreamResponse.arbitration? (.arbitration u) ≠ none := by
        simp [Wire.StreamResponse.arbitration?]
      exact .of_mute (queueArbitration_of_alone u listener)
        ⟨.orphaned reading next (.inl ⟨needed, listener⟩), rfl, rfl⟩
  | linkUpdate u =>
    simp only [hear]
    cases valid : LinkDirective.ofUpdate u with
    | ok directive =>
      cases listener : d.session.directives.receiverOpen with
      | true =>
        exact .of_mute (queueDirective_of_listener directive listener)
          ⟨.queuedDirective reading next valid listener, rfl, rfl⟩
      | false =>
        have needed : Wire.StreamResponse.directive? (.linkUpdate u) ≠ none := by
          simp [Wire.StreamResponse.directive?, valid, Except.toOption]
        exact .of_mute (queueDirective_of_alone directive listener)
          ⟨.orphaned reading next (.inr ⟨needed, listener⟩), rfl, rfl⟩
    | error e =>
      have invalid : Wire.StreamResponse.directive? (.linkUpdate u) = none := by
        simp [Wire.StreamResponse.directive?, valid, Except.toOption]
      exact ⟨.ignored reading next rfl invalid, rfl, rfl⟩
  | error notice => exact ⟨.ignored reading next rfl rfl, rfl, rfl⟩

theorem receive_moved {d' : Dialogue} (h : d.receive? = some d') : d.Moved .receive d' := by
  unfold receive? at h
  split at h
  case isFalse => cases h
  case isTrue reading =>
    split at h
    case h_1 m rest next =>
      cases h
      exact hear_moved reading next
    case h_2 e rest next =>
      cases h
      exact ⟨.failed reading next, rfl, rfl⟩
    case h_3 nothing =>
      split at h
      case isFalse => cases h
      case isTrue gone =>
        cases h
        exact ⟨.finished reading nothing gone, rfl, rfl⟩

theorem finishPush_mute : d.finishPush.mute =
    (d.setSession { d.session with dispatcher := .waiting }).mute := by
  simp only [finishPush]
  split <;> rfl

/-- Apart from the log, an update changes the role and what the dispatcher is about. -/
theorem adopt_mute (u : Wire.ArbitrationUpdate) : (d.adopt u).mute = (d.setSession
    { d.session with
      role := Role.ofStatus u.status
      dispatcher := if Role.ofStatus u.status = .primary then .promoted else .waiting }).mute := by
  simp only [adopt]
  split <;> split <;> rfl

theorem startPush_of_panic (h : d.coordinator.behaviour.policiesPanic = true) :
    d.startPush = (d.call d.session.config.pushCall).setSession d.session.panic := by
  simp only [startPush, call_coordinator, Coordinator.record, h, if_true]
  rfl

theorem startPush_of_held (h : d.coordinator.behaviour.policiesPanic = false)
    (held : d.coordinator.held = true) :
    d.startPush = (d.call d.session.config.pushCall).setSession
      { d.session with dispatcher := .pushing } := by
  simp only [startPush, call_coordinator, setSession_coordinator, Coordinator.record, h, held]
  rfl

theorem startPush_of_free (h : d.coordinator.behaviour.policiesPanic = false)
    (free : d.coordinator.held = false) :
    d.startPush.mute = ((d.call d.session.config.pushCall).setSession
      { d.session with dispatcher := .waiting }).mute := by
  simp only [startPush, call_coordinator, setSession_coordinator, Coordinator.record, h, free]
  exact finishPush_mute

theorem adopt_moved {u : Wire.ArbitrationUpdate} {rest : List Wire.ArbitrationUpdate}
    (waiting : d.session.dispatcher = .waiting)
    (watched : d.session.arbitrationsWatched = true)
    (next : d.session.arbitrations.waiting = u :: rest) :
    d.Moved .dispatchArbitration
      ((d.setSession { d.session with
        arbitrations := d.session.arbitrations.taken rest }).adopt u) := by
  refine .of_mute (adopt_mute u) ?_
  cases role : Role.ofStatus u.status with
  | notPrimary =>
    have same : { d.taken rest .notPrimary with dispatcher := .waiting } =
        d.taken rest .notPrimary := by
      simp [taken, ← waiting]
    have effect := Effect.demoted waiting watched next role
    rw [← same] at effect
    exact ⟨effect, rfl, rfl⟩
  | primary => exact ⟨.promoted waiting watched next role, rfl, rfl⟩

/-- A push leaves the dispatcher waiting, held up or down. -/
theorem startPush_moved (promoted : d.session.dispatcher = .promoted) :
    d.Moved .startPush d.startPush := by
  cases calm : d.coordinator.behaviour.policiesPanic with
  | true =>
    exact .of_mute (congrArg mute (startPush_of_panic calm)) ⟨.panicked promoted calm, rfl, rfl⟩
  | false =>
    cases held : d.coordinator.held with
    | true =>
      exact .of_mute (congrArg mute (startPush_of_held calm held))
        ⟨.heldUp promoted calm held, rfl, rfl⟩
    | false =>
      exact .of_mute (startPush_of_free calm held) ⟨.pushed promoted calm held, rfl, rfl⟩

/-- All that a move can do. -/
theorem move_moved {m : Move} {d' : Dialogue} (h : d.move? m = some d') : d.Moved m d' := by
  cases m with
  | receive => exact receive_moved h
  | dispatchArbitration =>
    simp only [move?, dispatchArbitration?] at h
    split at h
    case isFalse => cases h
    case isTrue ready =>
      split at h
      case h_1 q u item =>
        obtain ⟨rest, next, rfl⟩ := Backlog.exists_of_receive_item item
        cases h
        exact adopt_moved ready.1 ready.2 next
      case h_2 => cases h
  | startPush =>
    simp only [move?, startPush?] at h
    split at h
    case isFalse => cases h
    case isTrue promoted =>
      cases h
      exact startPush_moved promoted
  | dispatchDirective =>
    simp only [move?, dispatchDirective?] at h
    split at h
    case isFalse => cases h
    case isTrue ready =>
      split at h
      case h_1 q directive item =>
        obtain ⟨rest, next, rfl⟩ := Backlog.exists_of_receive_item item
        cases h
        exact ⟨.applied ready.1 ready.2 next, rfl, rfl⟩
      case h_2 => cases h
  | resumePush =>
    simp only [move?, resumePush?] at h
    split at h
    case isFalse => cases h
    case isTrue ready =>
      cases h
      exact .of_mute finishPush_mute ⟨.resumed ready.1 ready.2, rfl, rfl⟩
  | closeArbitrations =>
    simp only [move?, closeArbitrations?] at h
    split at h
    case isFalse => cases h
    case isTrue ready =>
      cases h
      exact ⟨.arbitrationsClosed ready.1 ready.2.1 ready.2.2, rfl, rfl⟩
  | closeDirectives =>
    simp only [move?, closeDirectives?] at h
    split at h
    case isFalse => cases h
    case isTrue ready =>
      cases h
      exact ⟨.directivesClosed ready.1 ready.2.1 ready.2.2, rfl, rfl⟩
  | stopDispatcher =>
    simp only [move?, stopDispatcher?] at h
    split at h
    case isFalse => cases h
    case isTrue ready =>
      cases h
      exact ⟨.stopped ready.1 ready.2.1 ready.2.2, rfl, rfl⟩

end Dialogue

end PeeringAgent
