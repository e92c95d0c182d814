import PeeringAgent.Dialogue.Run
import PeeringAgent.Proofs.Dialogue.Effect

/-!
# What an act changes

Each act of a run changes the session, its coordinator, the agenda of its owner and
the end events in one of a few ways. Invariants of runs are proved once for each of
these changes.
-/

set_option autoImplicit false

namespace PeeringAgent

/-- The call that an errand makes, if it makes one. -/
def Errand.call? (c : SessionConfig) : Errand → Option Call
  | dial => some c.dialCall
  | openStream => some .openStream
  | bid => some SessionConfig.bidCall
  | portRange range => some (.setPortRange range)
  | startDispatcher => none
  | closeSend => some .closeSend
  | close => some .close
  | dismiss => none
  | retire => none

/-- Errands of connecting that are reported, but not given up, when their call fails. -/
def Errand.lenient : Errand → Bool
  | bid => true
  | portRange _ => true
  | _ => false

/-- The errands between the opening of the stream and the end of connecting. -/
def Errand.registers : Errand → Bool
  | startDispatcher => true
  | errand => errand.lenient

/-- The errands of a release. -/
def Errand.departs : Errand → Bool
  | closeSend => true
  | close => true
  | dismiss => true
  | retire => true
  | _ => false

theorem Errand.departs_of_registers {errand : Errand} (h : errand.registers = true) :
    errand.departs = false := by
  cases errand <;> first | rfl | cases h

theorem Errand.registers_of_lenient {errand : Errand} (h : errand.lenient = true) :
    errand.registers = true := by
  cases errand <;> first | rfl | cases h

namespace Dialogue

variable (d : Dialogue)

/-- The changes that acts make to session, coordinator, agenda and end events. -/
inductive Change : Act → Session → Coordinator → List Errand → List StreamEnded → Prop
  | began (idle : d.agenda = []) :
      Change .beginConnect { d.session with phase := .connecting } d.coordinator
        d.session.config.errands d.ended
  | refused {e : TransportError} {rest : List Errand} (next : d.agenda = .dial :: rest)
      (error : d.coordinator.behaviour.connectError = some e) :
      Change .carryOn { d.session with phase := .closed }
        (d.coordinator.record d.session.config.dialCall) [] d.ended
  | dialled {rest : List Errand} (next : d.agenda = .dial :: rest)
      (success : d.coordinator.behaviour.connectError = none) :
      Change .carryOn d.session (d.coordinator.record d.session.config.dialCall) rest d.ended
  | streamless {e : TransportError} {rest : List Errand} (next : d.agenda = .openStream :: rest)
      (error : d.coordinator.openError = some e) :
      Change .carryOn { d.session with phase := .closed }
        ((d.coordinator.record .openStream).record .close) [] d.ended
  | opened {rest : List Errand} (next : d.agenda = .openStream :: rest)
      (success : d.coordinator.openError = none) :
      Change .carryOn d.session.startReceiver
        { d.coordinator.record .openStream with stream := .taken } rest d.ended
  | asked {errand : Errand} {call : Call} {rest : List Errand} (next : d.agenda = errand :: rest)
      (lenient : errand.lenient = true) (made : errand.call? d.session.config = some call) :
      Change .carryOn d.session (d.coordinator.record call) rest d.ended
  | started {rest : List Errand} (next : d.agenda = .startDispatcher :: rest) :
      Change .carryOn d.session.startDispatcher d.coordinator rest d.ended
  | disconnected (idle : d.agenda = []) :
      Change .disconnect d.session d.coordinator d.session.departure d.ended
  | closed (idle : d.agenda = [])
      (gone : d.session.dismissed = true ∨ d.session.tasksOver = true) :
      Change .closeEnded d.session d.coordinator d.session.departure d.ended
  | hungUp {rest : List Errand} (next : d.agenda = .closeSend :: rest) :
      Change .carryOn d.session (d.coordinator.record .closeSend) rest d.ended
  | parted {rest : List Errand} (next : d.agenda = .close :: rest) :
      Change .carryOn { d.session with connected := false } (d.coordinator.record .close) rest
        d.ended
  | dismissed {rest : List Errand} (next : d.agenda = .dismiss :: rest) :
      Change .carryOn { d.session with dismissed := true } d.coordinator rest d.ended
  | retired {rest : List Errand} (next : d.agenda = .retire :: rest) :
      Change .carryOn { d.session with role := .notPrimary, phase := .closed } d.coordinator rest
        d.ended
  | arrived (a : Arrival) : Change (.arrive a) d.session (d.coordinator.put a).1 d.agenda d.ended
  | finished : Change .finish d.session d.coordinator.finish.1 d.agenda d.ended
  | behaved (b : Behaviour) :
      Change (.behave b) d.session { d.coordinator with behaviour := b } d.agenda d.ended
  | heldBack : Change .hold d.session d.coordinator.hold.1 d.agenda d.ended
  | letGo : Change .release d.session d.coordinator.release.1 d.agenda d.ended
  | crashed (pushing : d.session.dispatcher = .pushing) :
      Change .crash d.session.panic d.coordinator d.agenda d.ended
  | receiverCancelled (gone : d.session.dismissed = true)
      (reading : d.session.receiver = .reading) :
      Change .cancelReceiver d.session.cancelReceiver d.coordinator.dropStream d.agenda d.ended
  | dispatcherCancelled (gone : d.session.dismissed = true)
      (pauses : d.session.dispatcher.pauses = true) :
      Change .cancelDispatcher d.session.cancelDispatcher d.coordinator d.agenda d.ended
  | moved {m : Move} {s : Session} {c : Coordinator} {ended : List StreamEnded}
      (effect : d.Effect m s c ended) : Change (.move m) s c d.agenda ended
  | reconciled :
      Change .reconcile { d.session with store := d.session.store.reconcile.1 } d.coordinator
        d.agenda d.ended
  | unsupervised : Change .unsupervise d.session d.coordinator d.agenda d.ended

variable {d : Dialogue}

theorem dial_change {rest : List Errand} (next : d.agenda = .dial :: rest) (d' : Dialogue)
    (h : ({ d with agenda := rest } : Dialogue).dial.1 = d') :
    d.Change .carryOn d'.session d'.coordinator d'.agenda d'.ended := by
  subst h
  cases error : d.coordinator.behaviour.connectError with
  | none =>
    simp only [dial, call_coordinator, Coordinator.record, error]
    exact .dialled next error
  | some e =>
    simp only [dial, call_coordinator, Coordinator.record, error]
    exact .refused next error

theorem openStream_change {rest : List Errand} (next : d.agenda = .openStream :: rest)
    (d' : Dialogue) (h : ({ d with agenda := rest } : Dialogue).openStream.1 = d') :
    d.Change .carryOn d'.session d'.coordinator d'.agenda d'.ended := by
  subst h
  have same (e : Option TransportError) (h : d.coordinator.openError = e) :
      (d.coordinator.record .openStream).openError = e := h
  cases error : d.coordinator.openError with
  | none =>
    simp only [openStream, call_coordinator, same _ error]
    exact .opened next error
  | some e =>
    simp only [openStream, call_coordinator, same _ error]
    exact .streamless next error

theorem carryOn_change {d' : Dialogue} (h : d.carryOn?.map Prod.fst = some d') :
    d.Change .carryOn d'.session d'.coordinator d'.agenda d'.ended := by
  unfold carryOn? at h
  cases next : d.agenda with
  | nil => simp [next] at h
  | cons errand rest =>
    simp only [next, Option.map_some, Option.some.injEq] at h
    cases errand with
    | dial => exact dial_change next d' h
    | openStream => exact openStream_change next d' h
    | bid =>
      subst h
      simp only [perform, sendBid]
      split <;> exact .asked next rfl rfl
    | portRange range =>
      subst h
      simp only [perform, setPortRange]
      split <;> exact .asked next rfl rfl
    | startDispatcher =>
      subst h
      exact .started next
    | closeSend =>
      subst h
      exact .hungUp next
    | close =>
      subst h
      exact .parted next
    | dismiss =>
      subst h
      exact .dismissed next
    | retire =>
      subst h
      simp only [perform, retire]
      split <;> exact .retired next

/-- Before a release that waits for the tasks there is one more line to log at most. -/
theorem exists_of_awaitTasks {d' : Dialogue} (h : d.awaitTasks? = some d') :
    (d.session.dismissed = true ∨ d.session.tasksOver = true) ∧ ∃ before, d' = d.say before := by
  unfold awaitTasks? at h
  split at h
  case isTrue dismissed =>
    cases h
    exact ⟨.inl dismissed, [], by simp [say]⟩
  case isFalse =>
    split at h
    case isFalse => cases h
    case isTrue gone =>
      refine ⟨.inr gone, ?_⟩
      cases h
      split
      · exact ⟨_, rfl⟩
      · exact ⟨[], by simp [say]⟩

/-- All that an act can change. -/
theorem act_change {a : Act} {d' : Dialogue} (h : d.act? a = some d') :
    d.Change a d'.session d'.coordinator d'.agenda d'.ended := by
  cases a with
  | beginConnect =>
    simp only [act?] at h
    split at h
    case isFalse => cases h
    case isTrue idle =>
      cases h
      exact .began idle
  | carryOn => exact carryOn_change h
  | disconnect =>
    simp only [act?] at h
    split at h
    case isFalse => cases h
    case isTrue idle =>
      cases h
      exact .disconnected idle
  | closeEnded =>
    simp only [act?] at h
    split at h
    case isFalse => cases h
    case isTrue idle =>
      obtain ⟨e, waited, rfl⟩ := Option.map_eq_some_iff.mp h
      obtain ⟨gone, before, rfl⟩ := exists_of_awaitTasks waited
      exact .closed idle gone
  | arrive a => cases h; exact .arrived a
  | finish => cases h; exact .finished
  | behave b => cases h; exact .behaved b
  | hold => cases h; exact .heldBack
  | release => cases h; exact .letGo
  | crash =>
    simp only [act?, crash?] at h
    split at h
    case isFalse => cases h
    case isTrue pushing =>
      cases h
      exact .crashed pushing
  | cancelReceiver =>
    simp only [act?, cancelReceiver?] at h
    split at h
    case isFalse => cases h
    case isTrue ready =>
      cases h
      exact .receiverCancelled ready.1 ready.2
  | cancelDispatcher =>
    simp only [act?, cancelDispatcher?] at h
    split at h
    case isFalse => cases h
    case isTrue ready =>
      cases h
      exact .dispatcherCancelled ready.1 ready.2
  | move m =>
    have moved := move_moved h
    rw [moved.agenda]
    exact .moved moved.effect
  | reconcile => cases h; exact .reconciled
  | unsupervise => cases h; exact .unsupervised

end Dialogue

end PeeringAgent
