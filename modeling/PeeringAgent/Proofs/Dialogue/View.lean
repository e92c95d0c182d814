import PeeringAgent.Dialogue.Run
import PeeringAgent.Proofs.Dialogue.Effect

/-!
# What a session looks at

Its log and its end events are only written. What is on the stream matters to the
receiver alone, and whether somebody listens matters to the end event alone. So all of
these may be seen in another way, and everything else goes on as before.
-/

set_option autoImplicit false

namespace PeeringAgent

/-- Another way to see the log, the stream and the supervisor of a session. -/
structure View where
  /-- Lines before those of the log. -/
  lines : List Log.Line
  inbox : List Arrival → List Arrival
  finished : Bool → Bool
  supervised : Bool → Bool
  ended : List StreamEnded → List StreamEnded
  nothing : inbox [] = []

namespace View

/-- Nothing is seen in another way. -/
def plain : View :=
  { lines := [], inbox := id, finished := id, supervised := id, ended := id, nothing := rfl }

/-- An end event is seen by whoever listens, as it is. -/
def Tells (v : View) : Prop := ∀ (listens : Bool) (told : List StreamEnded) (e : StreamEnded),
  v.ended (if listens then told ++ [e] else told) =
    if v.supervised listens then v.ended told ++ [e] else v.ended told

/-- What the receiver would find next is seen as it is. -/
def KeepsNext (v : View) (c : Coordinator) : Prop :=
  match c.inbox with
  | [] => v.finished c.finished = c.finished
  | first :: rest => v.inbox (first :: rest) = first :: v.inbox rest

theorem keepsNext_of_same {v : View} (inbox : v.inbox = id) (finished : v.finished = id)
    (c : Coordinator) : v.KeepsNext c := by
  rw [KeepsNext, inbox, finished]
  split <;> rfl

end View

namespace Coordinator

variable (v : View) (c : Coordinator)

def seen : Coordinator := { c with inbox := v.inbox c.inbox, finished := v.finished c.finished }

@[simp] theorem seen_behaviour : (c.seen v).behaviour = c.behaviour := rfl
@[simp] theorem seen_held : (c.seen v).held = c.held := rfl
@[simp] theorem seen_openError : (c.seen v).openError = c.openError := rfl
@[simp] theorem record_seen (call : Call) : (c.seen v).record call = (c.record call).seen v := rfl

@[simp] theorem dropStream_seen : (c.seen v).dropStream = c.dropStream.seen v := by
  by_cases taken : c.stream = .taken <;> simp [dropStream, seen, taken, v.nothing]

end Coordinator

namespace Dialogue

/-- A dialogue that is seen in another way. -/
def seen (v : View) (d : Dialogue) : Dialogue :=
  { d with
    coordinator := d.coordinator.seen v
    supervised := v.supervised d.supervised
    log := v.lines ++ d.log
    ended := v.ended d.ended }

/-- The acts that concern the stream itself or who listens for its end. -/
def Act.facesOut : Act → Bool
  | .arrive _ => true
  | .finish => true
  | .move .receive => true
  | .unsupervise => true
  | _ => false

section

variable (v : View) (d : Dialogue)

@[simp] theorem seen_session : (d.seen v).session = d.session := rfl
@[simp] theorem seen_coordinator : (d.seen v).coordinator = d.coordinator.seen v := rfl
@[simp] theorem seen_agenda : (d.seen v).agenda = d.agenda := rfl
@[simp] theorem seen_tagged (text : String) : (d.seen v).tagged text = d.tagged text := rfl

@[simp] theorem say_seen (more : List Log.Line) :
    (d.seen v).say more = (d.say more).seen v := by
  simp [seen, say, List.append_assoc]

@[simp] theorem call_seen (c : Call) : (d.seen v).call c = (d.call c).seen v := rfl

@[simp] theorem setSession_seen (s : Session) :
    (d.seen v).setSession s = (d.setSession s).seen v := rfl

@[simp] theorem setPhase_seen (p : Phase) :
    (d.seen v).setPhase p = (d.setPhase p).seen v := rfl

@[simp] theorem giveUp_seen : (d.seen v).giveUp = d.giveUp.seen v := rfl

/-! ## Errands -/

theorem dial_seen : (d.seen v).dial = (d.dial.1.seen v, d.dial.2) := by
  simp only [dial, seen_session, call_seen, seen_coordinator, Coordinator.seen_behaviour]
  split <;> simp

theorem openStream_seen : (d.seen v).openStream = (d.openStream.1.seen v, d.openStream.2) := by
  simp only [openStream, call_seen, seen_coordinator, Coordinator.seen_openError]
  split
  · simp
  · simp [seen, Coordinator.seen, call, say, setSession, tagged, name, List.append_assoc]

theorem sendBid_seen : (d.seen v).sendBid = d.sendBid.seen v := by
  simp only [sendBid, call_seen, seen_coordinator, Coordinator.seen_behaviour]
  split <;> simp

theorem setPortRange_seen (range : Wire.PortRange) :
    (d.seen v).setPortRange range = (d.setPortRange range).seen v := by
  simp only [setPortRange, call_seen, seen_coordinator, Coordinator.seen_behaviour]
  split <;> simp

theorem retire_seen : (d.seen v).retire = d.retire.seen v := by
  by_cases streaming : d.session.phase = .streaming <;> simp [retire, streaming]

theorem perform_seen (errand : Errand) :
    (d.seen v).perform errand = ((d.perform errand).1.seen v, (d.perform errand).2) := by
  cases errand with
  | dial => exact dial_seen v d
  | openStream => exact openStream_seen v d
  | bid => exact Prod.ext (sendBid_seen v d) rfl
  | portRange range => exact Prod.ext (setPortRange_seen v d range) rfl
  | retire => exact Prod.ext (retire_seen v d) rfl
  | startDispatcher | closeSend | close | dismiss => rfl

theorem carryOn_seen : (d.seen v).carryOn? =
    d.carryOn?.map fun after => (after.1.seen v, after.2) := by
  cases agenda : d.agenda with
  | nil => simp [carryOn?, agenda]
  | cons errand rest =>
    simp only [carryOn?, seen_agenda, agenda, Option.map_some]
    exact congrArg some (perform_seen v { d with agenda := rest } errand)

/-! ## The receiver -/

variable {v}

theorem endReceiver_seen (tells : v.Tells) (reason : String) :
    (d.seen v).endReceiver reason = (d.endReceiver reason).seen v := by
  have dropped := d.coordinator.dropStream_seen v
  have told := tells d.supervised d.ended ⟨d.name, reason⟩
  simp only [endReceiver, seen, say, dropped, List.append_assoc]
  exact congrArg _ told.symm

theorem queueArbitration_seen (tells : v.Tells) (u : Wire.ArbitrationUpdate) :
    (d.seen v).queueArbitration u = (d.queueArbitration u).seen v := by
  simp only [queueArbitration, seen_tagged, say_seen, seen_session]
  split
  · exact endReceiver_seen _ tells _
  · simp

theorem queueDirective_seen (tells : v.Tells) (directive : LinkDirective) :
    (d.seen v).queueDirective directive = (d.queueDirective directive).seen v := by
  simp only [queueDirective, seen_tagged, say_seen, seen_session]
  split
  · exact endReceiver_seen _ tells _
  · simp

theorem hear_seen (tells : v.Tells) (m : Wire.StreamResponse) :
    (d.seen v).hear m = (d.hear m).seen v := by
  cases m with
  | arbitration u => exact queueArbitration_seen d tells u
  | linkUpdate u =>
    simp only [hear]
    split
    · exact queueDirective_seen d tells _
    · simp
  | error notice => simp [hear]

/-- The receiver looks at what is next on the stream and at nothing behind it. -/
theorem receive_seen (tells : v.Tells) (next : v.KeepsNext d.coordinator) :
    (d.seen v).receive? = d.receive?.map (seen v) := by
  by_cases reading : d.session.receiver = .reading
  · cases inbox : d.coordinator.inbox with
    | nil =>
      rw [View.KeepsNext, inbox] at next
      cases finished : d.coordinator.finished <;> rw [finished] at next <;>
        simp [receive?, Coordinator.seen, reading, inbox, finished, next, v.nothing,
          ← endReceiver_seen _ tells]
    | cons first rest =>
      rw [View.KeepsNext, inbox] at next
      cases first with
      | failure e =>
        simp [receive?, Coordinator.seen, reading, inbox, next, ← endReceiver_seen _ tells]
      | message m =>
        have heard := hear_seen (v := v) (d.read rest) tells m
        simp only [receive?, seen_session, seen_coordinator, Coordinator.seen, reading, inbox,
          next, if_true, Option.map_some]
        exact congrArg some heard
  · simp [receive?, reading]

variable (v)

/-! ## The dispatcher -/

@[simp] theorem finishPush_seen : (d.seen v).finishPush = d.finishPush.seen v := by
  cases error : d.coordinator.behaviour.policiesError <;> simp [finishPush, error]

@[simp] theorem startPush_seen : (d.seen v).startPush = d.startPush.seen v := by
  have same (b : Bool) (h : d.coordinator.behaviour.policiesPanic = b) (call : Call) :
      (d.coordinator.record call).behaviour.policiesPanic = b := h
  have same' (b : Bool) (h : d.coordinator.held = b) (call : Call) :
      (d.coordinator.record call).held = b := h
  cases panic : d.coordinator.behaviour.policiesPanic <;>
    cases held : d.coordinator.held <;>
    simp [startPush, same _ panic, same' _ held]

@[simp] theorem adopt_seen (u : Wire.ArbitrationUpdate) :
    (d.seen v).adopt u = (d.adopt u).seen v := by
  simp only [adopt]
  generalize Role.ofStatus u.status = role
  by_cases error : u.status = .error <;> by_cases same : d.session.role = role <;>
    simp [error, same]

theorem move_seen {m : Move} (dispatcher : m ≠ .receive) :
    (d.seen v).move? m = (d.move? m).map (seen v) := by
  cases m with
  | receive => exact absurd rfl dispatcher
  | dispatchArbitration =>
    by_cases ready : d.session.dispatcher = .waiting ∧ d.session.arbitrationsWatched = true
    · cases received : d.session.arbitrations.receive with
      | mk q result => cases result <;> simp [move?, dispatchArbitration?, ready, received]
    · simp [move?, dispatchArbitration?, ready]
  | startPush =>
    by_cases promoted : d.session.dispatcher = .promoted <;> simp [move?, startPush?, promoted]
  | dispatchDirective =>
    by_cases ready : d.session.dispatcher = .waiting ∧ d.session.directivesWatched = true
    · cases received : d.session.directives.receive with
      | mk q result => cases result <;> simp [move?, dispatchDirective?, ready, received]
    · simp [move?, dispatchDirective?, ready]
  | resumePush =>
    by_cases ready : d.session.dispatcher = .pushing ∧ d.coordinator.held = false <;>
      simp [move?, resumePush?, ready]
  | closeArbitrations =>
    by_cases ready : d.session.dispatcher = .waiting ∧ d.session.arbitrationsWatched = true ∧
      d.session.arbitrations.isClosed = true <;> simp [move?, closeArbitrations?, ready]
  | closeDirectives =>
    by_cases ready : d.session.dispatcher = .waiting ∧ d.session.directivesWatched = true ∧
      d.session.directives.isClosed = true <;> simp [move?, closeDirectives?, ready]
  | stopDispatcher =>
    by_cases ready : d.session.dispatcher = .waiting ∧ d.session.arbitrationsWatched = false ∧
      d.session.directivesWatched = false <;> simp [move?, stopDispatcher?, ready]

/-! ## Acts -/

theorem beginConnect_seen : (d.seen v).beginConnect = d.beginConnect.seen v := by
  simp [beginConnect, seen, say, setPhase, setSession, tagged, name, List.append_assoc]

@[simp] theorem beginRelease_seen : (d.seen v).beginRelease = d.beginRelease.seen v := rfl

theorem awaitTasks_seen : (d.seen v).awaitTasks? = d.awaitTasks?.map (seen v) := by
  by_cases dismissed : d.session.dismissed = true
  · simp [awaitTasks?, dismissed]
  · by_cases gone : d.session.tasksOver = true
    · by_cases panicked : d.session.dispatcher = .panicked <;>
        simp [awaitTasks?, dismissed, gone, panicked]
    · simp [awaitTasks?, dismissed, gone]

theorem cancelReceiver_seen : (d.seen v).cancelReceiver? = d.cancelReceiver?.map (seen v) := by
  by_cases ready : d.session.dismissed = true ∧ d.session.receiver = .reading
  · have dropped := d.coordinator.dropStream_seen v
    simp [cancelReceiver?, ready, seen, dropped]
  · simp [cancelReceiver?, ready]

theorem cancelDispatcher_seen :
    (d.seen v).cancelDispatcher? = d.cancelDispatcher?.map (seen v) := by
  by_cases ready : d.session.dismissed = true ∧ d.session.dispatcher.pauses = true <;>
    simp [cancelDispatcher?, ready]

/-- All other acts go on as before. -/
theorem act_seen {a : Act} (inside : a.facesOut = false) :
    (d.seen v).act? a = (d.act? a).map (seen v) := by
  cases a with
  | beginConnect => by_cases idle : d.agenda = [] <;> simp [act?, idle, beginConnect_seen]
  | carryOn => simp [act?, carryOn_seen, Function.comp_def]
  | disconnect => by_cases idle : d.agenda = [] <;> simp [act?, idle]
  | closeEnded =>
    by_cases idle : d.agenda = [] <;> simp [act?, idle, awaitTasks_seen, Function.comp_def]
  | cancelReceiver => exact cancelReceiver_seen v d
  | cancelDispatcher => exact cancelDispatcher_seen v d
  | crash => by_cases pushing : d.session.dispatcher = .pushing <;> simp [act?, crash?, pushing]
  | move m =>
    refine move_seen v d ?_
    rintro rfl
    cases inside
  | behave | hold | release | reconcile => rfl
  | arrive | finish | unsupervise => cases inside

end

/-- Dialogues that are seen alike do alike. -/
theorem act_of_seen {v : View} {d d' e : Dialogue} {a : Act} (same : e.seen v = d.seen v)
    (he : d.act? a = some d') (inside : a.facesOut = false) :
    ∃ e', e.act? a = some e' ∧ e'.seen v = d'.seen v := by
  have goes := act_seen v e inside
  rw [same, act_seen v d inside, he] at goes
  exact Option.map_eq_some_iff.mp goes.symm

end Dialogue

end PeeringAgent
