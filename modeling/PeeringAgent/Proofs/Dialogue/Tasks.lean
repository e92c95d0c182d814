import PeeringAgent.Dialogue.Account
import PeeringAgent.Proofs.Dialogue.Stage
import PeeringAgent.Proofs.Dialogue.Work

/-!
# The tasks of a session

While nothing brings the dispatcher down and no release has begun, the receiver reads
with both queues open and leaves both closed and the stream empty, and the dispatcher
stops watching a queue only when it is closed and empty. So the tasks of a connected
session whose stream is over can always go on, unless a push is held up.
-/

set_option autoImplicit false

namespace PeeringAgent

/-- Nothing that ends the stream has come yet. -/
def Coordinator.isOpen (c : Coordinator) : Bool :=
  c.reaches && c.inbox.all fun a => a.message?.isSome

namespace Dialogue

open SessionConfig Coordinator

/-- How tasks, queues and stream hang together. -/
structure Flowing (s : Session) (c : Coordinator) : Prop where
  calm : c.behaviour.policiesPanic = false
  absent : s.receiver = .absent →
    s.arbitrations.waiting = [] ∧ s.directives.waiting = [] ∧ c.stream = .offered
  reading : s.receiver = .reading → c.stream = .taken ∧
    (s.arbitrations.senderOpen = true ∧ s.directives.senderOpen = true) ∧
    s.arbitrations.receiverOpen = true ∧ s.directives.receiverOpen = true
  ended : s.receiver = .ended → (c.stream = .dropped ∧ c.inbox = []) ∧
    s.arbitrations.senderOpen = false ∧ s.directives.senderOpen = false
  arbitrationsLeft : s.dispatcher ≠ .absent → s.arbitrationsWatched = false →
    s.arbitrations.isClosed = true
  directivesLeft : s.dispatcher ≠ .absent → s.directivesWatched = false →
    s.directives.isClosed = true
  stopped : s.dispatcher = .ended →
    s.arbitrations.isClosed = true ∧ s.directives.isClosed = true
  listening : s.receiver ≠ .cancelled
  up : s.dispatcher ≠ .panicked ∧ s.dispatcher ≠ .cancelled

/-- No release has begun. -/
structure Staying (s : Session) (g : List Errand) : Prop where
  dismissed : s.dismissed = false
  agenda : ∀ errand ∈ g, errand.departs = false

/-- Acts that do not bring the dispatcher down. -/
def Act.isCalm : Act → Bool
  | .crash => false
  | .behave b => !b.policiesPanic
  | _ => true

variable {d : Dialogue} {s : Session} {c : Coordinator} {g : List Errand}
  {ended : List StreamEnded}

theorem isClosed_iff {α : Type} (q : Backlog α) :
    q.isClosed = true ↔ q.waiting = [] ∧ q.senderOpen = false := by
  simp [Backlog.isClosed]

/-- Both ends of a queue are as they were. -/
structure SameEnds {α : Type} (q q' : Backlog α) : Prop where
  sender : q'.senderOpen = q.senderOpen
  receiver : q'.receiverOpen = q.receiverOpen

theorem SameEnds.refl {α : Type} (q : Backlog α) : SameEnds q q := ⟨rfl, rfl⟩

theorem send_of_listener {α : Type} {q : Backlog α} (x : α) (h : q.receiverOpen = true) :
    (q.send x).1.waiting = q.waiting ++ [x] ∧ SameEnds q (q.send x).1 := by
  rw [Backlog.send, if_pos h]
  exact ⟨rfl, rfl, rfl⟩

/-- At most something has been taken from a queue. -/
structure Drawn {α : Type} (q q' : Backlog α) : Prop extends SameEnds q q' where
  nothing : q.waiting = [] → q'.waiting = []

theorem Drawn.refl {α : Type} (q : Backlog α) : Drawn q q := ⟨.refl q, id⟩

theorem Drawn.of_next {α : Type} {q : Backlog α} {x : α} {rest : List α}
    (next : q.waiting = x :: rest) : Drawn q (q.taken rest) := by
  refine ⟨⟨rfl, rfl⟩, ?_⟩
  intro nothing
  rw [nothing] at next
  cases next

theorem Drawn.isClosed {α : Type} {q q' : Backlog α} (h : Drawn q q')
    (closed : q.isClosed = true) : q'.isClosed = true := by
  obtain ⟨nothing, shut⟩ := (isClosed_iff q).mp closed
  exact (isClosed_iff q').mpr ⟨h.nothing nothing, h.sender.trans shut⟩

/-! ## No release -/

theorem Staying.next (h : Staying s g) {errand : Errand} {rest : List Errand}
    (next : g = errand :: rest) : errand.departs = false :=
  h.agenda errand (by simp [next])

theorem Staying.rest (h : Staying d.session d.agenda) {errand : Errand} {rest : List Errand}
    (next : d.agenda = errand :: rest) (same : s.dismissed = d.session.dismissed) :
    Staying s rest :=
  ⟨same.trans h.dismissed, fun later among => h.agenda later (by simp [next, among])⟩

theorem Staying.step {a : Act} (h : Staying d.session d.agenda) (change : d.Change a s c g ended)
    (kept : a.isRelease = false) : Staying s g := by
  cases own : a.isCommand with
  | false =>
    have frame := change.frame own
    exact ⟨frame.dismissed.trans h.dismissed, frame.agenda ▸ h.agenda⟩
  | true =>
    cases change with
    | began =>
      refine ⟨h.dismissed, ?_⟩
      simp [SessionConfig.errands, Errand.departs, or_imp, forall_and]
    | refused | streamless => exact ⟨h.dismissed, by simp⟩
    | dialled next | asked next | started next => exact h.rest next rfl
    | opened next => exact h.rest next h.dismissed.symm
    | hungUp next | parted next | dismissed next | retired next =>
      exact absurd (h.next next) (by simp [Errand.departs])
    | disconnected | closed => cases kept
    | arrived | finished | behaved | heldBack | letGo | crashed | receiverCancelled
    | dispatcherCancelled | moved | reconciled | unsupervised => cases own

/-! ## The receiver -/

/-- No queue is closed while the receiver reads. -/
theorem Flowing.unclosed (h : Flowing s c) (now : s.receiver = .reading) :
    s.arbitrations.isClosed = false ∧ s.directives.isClosed = false := by
  obtain ⟨-, ⟨arbitrations, directives⟩, -⟩ := h.reading now
  simp [Backlog.isClosed, arbitrations, directives]

/-- The dispatcher watches both queues while the receiver reads. -/
theorem Flowing.watched (h : Flowing s c) (now : s.receiver = .reading)
    (present : s.dispatcher ≠ .absent) :
    s.arbitrationsWatched = true ∧ s.directivesWatched = true := by
  obtain ⟨arbitrations, directives⟩ := h.unclosed now
  constructor
  · cases watched : s.arbitrationsWatched with
    | true => rfl
    | false =>
      rw [h.arbitrationsLeft present watched] at arbitrations
      cases arbitrations
  · cases watched : s.directivesWatched with
    | true => rfl
    | false =>
      rw [h.directivesLeft present watched] at directives
      cases directives

theorem Flowing.not_stopped (h : Flowing s c) (now : s.receiver = .reading) :
    s.dispatcher ≠ .ended := by
  intro gone
  have closed := (h.stopped gone).1
  rw [(h.unclosed now).1] at closed
  cases closed

/-- The receiver reads on and sends to queues whose ends stay as they are. -/
theorem Flowing.read (h : Flowing d.session d.coordinator)
    (now : d.session.receiver = .reading) (rest : List Arrival)
    {arbitrations : Backlog Wire.ArbitrationUpdate} {directives : Backlog LinkDirective}
    (first : SameEnds d.session.arbitrations arbitrations)
    (second : SameEnds d.session.directives directives) :
    Flowing { d.session with arbitrations, directives } { d.coordinator with inbox := rest } := by
  obtain ⟨taken, ⟨arbitrationsSent, directivesSent⟩, arbitrationsHeard, directivesHeard⟩ :=
    h.reading now
  constructor
  case calm => exact h.calm
  case absent =>
    intro off
    exact absurd (now.symm.trans off) (by simp)
  case reading =>
    intro _
    exact ⟨taken, ⟨first.sender.trans arbitrationsSent, second.sender.trans directivesSent⟩,
      first.receiver.trans arbitrationsHeard, second.receiver.trans directivesHeard⟩
  case ended =>
    intro gone
    exact absurd (now.symm.trans gone) (by simp)
  case arbitrationsLeft =>
    intro present left
    exact absurd ((h.watched now present).1.symm.trans left) (by simp)
  case directivesLeft =>
    intro present left
    exact absurd ((h.watched now present).2.symm.trans left) (by simp)
  case stopped =>
    intro gone
    exact absurd gone (h.not_stopped now)
  case listening => exact h.listening
  case up => exact h.up

/-- The receiver drops its ends of the queues and of the stream together. -/
theorem Flowing.deaf (h : Flowing d.session d.coordinator)
    (now : d.session.receiver = .reading) (rest : List Arrival) :
    Flowing d.deaf ({ d.coordinator with inbox := rest } : Coordinator).dropStream := by
  have taken := (h.reading now).1
  constructor
  case calm => simp [dropStream, taken, h.calm]
  case absent => simp [Dialogue.deaf]
  case reading => simp [Dialogue.deaf]
  case ended => simp [dropStream, taken, Dialogue.deaf, Session.dropSenders, Backlog.dropSender]
  case arbitrationsLeft =>
    intro present left
    exact absurd ((h.watched now present).1.symm.trans left) (by simp)
  case directivesLeft =>
    intro present left
    exact absurd ((h.watched now present).2.symm.trans left) (by simp)
  case stopped =>
    intro gone
    exact absurd gone (h.not_stopped now)
  case listening => simp [Dialogue.deaf]
  case up => exact h.up

/-! ## The dispatcher -/

/-- The dispatcher goes on, having taken from the queues what it found there. -/
theorem Flowing.served (h : Flowing d.session d.coordinator)
    (present : d.session.dispatcher ≠ .absent) {now : Dispatcher}
    (running : now.isOver = false) {role : Role} {store : LinkStore}
    {arbitrations : Backlog Wire.ArbitrationUpdate} {directives : Backlog LinkDirective}
    (first : Drawn d.session.arbitrations arbitrations)
    (second : Drawn d.session.directives directives) (calls : List Call) :
    Flowing { d.session with dispatcher := now, role, store, arbitrations, directives }
      { d.coordinator with calls } := by
  constructor
  case calm => exact h.calm
  case absent =>
    intro off
    obtain ⟨noArbitrations, noDirectives, offered⟩ := h.absent off
    exact ⟨first.nothing noArbitrations, second.nothing noDirectives, offered⟩
  case reading =>
    intro reading
    obtain ⟨taken, ⟨arbitrationsSent, directivesSent⟩, arbitrationsHeard, directivesHeard⟩ :=
      h.reading reading
    exact ⟨taken, ⟨first.sender.trans arbitrationsSent, second.sender.trans directivesSent⟩,
      first.receiver.trans arbitrationsHeard, second.receiver.trans directivesHeard⟩
  case ended =>
    intro gone
    obtain ⟨dropped, noArbitrations, noDirectives⟩ := h.ended gone
    exact ⟨dropped, first.sender.trans noArbitrations, second.sender.trans noDirectives⟩
  case arbitrationsLeft =>
    intro _ left
    exact first.isClosed (h.arbitrationsLeft present left)
  case directivesLeft =>
    intro _ left
    exact second.isClosed (h.directivesLeft present left)
  case stopped =>
    rintro rfl
    cases running
  case listening => exact h.listening
  case up => constructor <;> rintro rfl <;> cases running

/-- A queue is given up only when it is closed. -/
theorem Flowing.unwatch (h : Flowing s c) {arbitrationsWatched directivesWatched : Bool}
    (arbitrations : arbitrationsWatched = false →
      s.arbitrationsWatched = false ∨ s.arbitrations.isClosed = true)
    (directives : directivesWatched = false →
      s.directivesWatched = false ∨ s.directives.isClosed = true) :
    Flowing { s with arbitrationsWatched, directivesWatched } c where
  calm := h.calm
  absent := h.absent
  reading := h.reading
  ended := h.ended
  arbitrationsLeft := fun present left => (arbitrations left).elim (h.arbitrationsLeft present) id
  directivesLeft := fun present left => (directives left).elim (h.directivesLeft present) id
  stopped := h.stopped
  listening := h.listening
  up := h.up

/-- The dispatcher stops over closed queues. -/
theorem Flowing.stop (h : Flowing s c) (present : s.dispatcher ≠ .absent)
    (noArbitrations : s.arbitrationsWatched = false) (noDirectives : s.directivesWatched = false) :
    Flowing { s.dropReceivers with dispatcher := .ended } c := by
  obtain ⟨nothing, arbitrationsShut⟩ :=
    (isClosed_iff _).mp (h.arbitrationsLeft present noArbitrations)
  obtain ⟨none, directivesShut⟩ := (isClosed_iff _).mp (h.directivesLeft present noDirectives)
  have arbitrations : s.arbitrations.dropReceiver.isClosed = true := by
    simp [Backlog.isClosed, Backlog.dropReceiver, arbitrationsShut]
  have directives : s.directives.dropReceiver.isClosed = true := by
    simp [Backlog.isClosed, Backlog.dropReceiver, directivesShut]
  constructor
  case calm => exact h.calm
  case absent =>
    intro off
    exact ⟨rfl, rfl, (h.absent off).2.2⟩
  case reading =>
    intro reading
    have sent := (h.reading reading).2.1.1
    rw [arbitrationsShut] at sent
    cases sent
  case ended => exact h.ended
  case arbitrationsLeft => exact fun _ _ => arbitrations
  case directivesLeft => exact fun _ _ => directives
  case stopped => exact fun _ => ⟨arbitrations, directives⟩
  case listening => exact h.listening
  case up => simp

theorem Flowing.effect {m : Move} (h : Flowing d.session d.coordinator)
    (effect : d.Effect m s c ended) : Flowing s c := by
  have present {now : Dispatcher} (at_now : d.session.dispatcher = now) (on : now ≠ .absent) :
      d.session.dispatcher ≠ .absent := by
    rw [at_now]
    exact on
  cases effect with
  | queuedArbitration now next listener =>
    exact h.read now _ (send_of_listener _ listener).2 (.refl _)
  | queuedDirective now next valid listener =>
    exact h.read now _ (.refl _) (send_of_listener _ listener).2
  | ignored now next noArbitration noDirective => exact h.read now _ (.refl _) (.refl _)
  | orphaned now next alone =>
    obtain ⟨-, -, arbitrations, directives⟩ := h.reading now
    rcases alone with ⟨-, closed⟩ | ⟨-, closed⟩
    · rw [arbitrations] at closed
      cases closed
    · rw [directives] at closed
      cases closed
  | failed now next => exact h.deaf now d.coordinator.inbox
  | finished now nothing finished => exact h.deaf now d.coordinator.inbox
  | panicked promoted fatal =>
    rw [h.calm] at fatal
    cases fatal
  | demoted waiting watched next role =>
    exact h.served (present waiting (by simp)) (by rw [waiting]; rfl) (.of_next next) (.refl _) _
  | promoted waiting watched next role =>
    exact h.served (present waiting (by simp)) rfl (.of_next next) (.refl _) _
  | pushed promoted calm free =>
    exact h.served (present promoted (by simp)) rfl (.refl _) (.refl _) _
  | heldUp promoted calm held =>
    exact h.served (present promoted (by simp)) rfl (.refl _) (.refl _) _
  | applied waiting watched next =>
    exact h.served (present waiting (by simp)) (by rw [waiting]; rfl) (.refl _) (.of_next next) _
  | resumed pushing free =>
    exact h.served (present pushing (by simp)) rfl (.refl _) (.refl _) _
  | arbitrationsClosed waiting watched closed =>
    exact h.unwatch (fun _ => .inr closed) (fun left => .inl left)
  | directivesClosed waiting watched closed =>
    exact h.unwatch (fun left => .inl left) (fun _ => .inr closed)
  | stopped waiting noArbitrations noDirectives =>
    exact h.stop (present waiting (by simp)) noArbitrations noDirectives

/-- Opening the stream starts from a session at rest. -/
theorem Flowing.opened (h : Flowing d.session d.coordinator) (resting : Resting d.session) :
    Flowing d.session.startReceiver
      { d.coordinator.record .openStream with stream := .taken } := by
  have off : d.session.startReceiver.dispatcher = .absent := resting.dispatcher
  constructor
  case calm => exact h.calm
  case absent => simp [Session.startReceiver]
  case reading =>
    intro _
    exact ⟨rfl, ⟨rfl, rfl⟩, rfl, rfl⟩
  case ended => simp [Session.startReceiver]
  case arbitrationsLeft => simp [off]
  case directivesLeft => simp [off]
  case stopped => simp [off]
  case listening => simp [Session.startReceiver]
  case up => simp [off]

theorem Flowing.started (h : Flowing d.session d.coordinator) :
    Flowing d.session.startDispatcher d.coordinator := by
  obtain ⟨calm, absent, reading, gone, -, -, -, listening, -⟩ := h
  constructor
  case calm => exact calm
  case absent => exact absent
  case reading => exact reading
  case ended => exact gone
  case listening => exact listening
  all_goals simp [Session.startDispatcher]

/-- Nothing is put on a stream that nobody reads any more. -/
theorem Flowing.arrived (h : Flowing d.session d.coordinator) (a : Arrival) :
    Flowing d.session (d.coordinator.put a).1 := by
  unfold put
  split
  case isFalse => exact h
  case isTrue reaches =>
    have still : d.coordinator.stream ≠ .dropped := by
      simp only [Coordinator.reaches, Bool.and_eq_true, bne_iff_ne] at reaches
      exact reaches.2
    obtain ⟨calm, absent, reading, gone, arbitrationsLeft, directivesLeft, stopped, listening,
      up⟩ := h
    constructor
    case ended =>
      intro off
      exact absurd (gone off).1.1 still
    all_goals assumption

theorem Flowing.step {a : Act} {f : Option SessionError} (h : Flowing d.session d.coordinator)
    (stage : Stage d.session d.coordinator d.agenda f) (change : d.Change a s c g ended)
    (staying : Staying d.session d.agenda) (kept : a.isRelease = false) (calm : a.isCalm = true) :
    Flowing s c := by
  have ⟨quiet, absent, reading, gone, arbitrationsLeft, directivesLeft, stopped, listening, up⟩ := h
  cases change with
  | opened next success =>
    rw [next] at stage
    exact h.opened stage.resting_of_openStream
  | started next => exact h.started
  | arrived a => exact h.arrived a
  | moved effect => exact h.effect effect
  | behaved b =>
    have still : b.policiesPanic = false := by simpa [Act.isCalm] using calm
    constructor <;> assumption
  | disconnected => cases kept
  | closed => cases kept
  | crashed => cases calm
  | hungUp next | parted next | dismissed next | retired next =>
    exact absurd (staying.next next) (by simp [Errand.departs])
  | receiverCancelled gone | dispatcherCancelled gone =>
    rw [staying.dismissed] at gone
    cases gone
  | began | refused | dialled | streamless | asked | finished | heldBack | letGo | reconciled
  | unsupervised => constructor <;> assumption

/-- A session that is to do these acts, none of which releases it or brings a task down. -/
structure Sound (acts : List Act) (d : Dialogue) : Prop where
  staged : ∃ f, Staged acts d f
  staying : Staying d.session d.agenda
  flowing : Flowing d.session d.coordinator
  calm : ∀ a ∈ acts, a.isCalm = true
  kept : ∀ a ∈ acts, a.isRelease = false

theorem Sound.step {a : Act} {as : List Act} {d e : Dialogue} (h : Sound (a :: as) d)
    (he : d.act? a = some e) : Sound as e := by
  obtain ⟨⟨f, staged⟩, staying, flowing, calm, kept⟩ := h
  have change := act_change he
  have here := kept a (by simp)
  have next := flowing.step staged.stage change staying here (calm a (by simp))
  exact ⟨⟨_, staged.step he⟩, staying.step change here, next, fun b hb => calm b (by simp [hb]),
    fun b hb => kept b (by simp [hb])⟩

theorem Sound.run (acts : List Act) {d d' : Dialogue} (h : Sound acts d)
    (run : run? acts d = some d') : Sound [] d' := by
  induction acts generalizing d with
  | nil =>
    cases run
    exact h
  | cons a as ih =>
    obtain ⟨e, he, hr⟩ := Option.bind_eq_some_iff.mp run
    exact ih (h.step he) hr

theorem sound_new (config : SessionConfig) (behaviour : Behaviour) (store : LinkStore)
    (acts : List Act) (once : connects acts ≤ 1) (quiet : behaviour.policiesPanic = false)
    (calm : ∀ a ∈ acts, a.isCalm = true) (kept : ∀ a ∈ acts, a.isRelease = false) :
    Sound acts ((new config behaviour).setStore store) := by
  have fresh := unconnected_new config behaviour store
  refine ⟨⟨none, .unconnected fresh, once, fun _ => fresh⟩, ⟨rfl, by simp [new, setStore,
    setSession]⟩, ?_, calm, kept⟩
  constructor
  case calm => exact quiet
  case absent =>
    intro _
    exact ⟨rfl, rfl, rfl⟩
  all_goals simp [new, setStore, setSession, Session.new]

/-! ## Progress -/

theorem receive_of_waiting {α : Type} {q : Backlog α} (closed : q.senderOpen = false)
    (open' : q.isClosed = false) : ∃ x rest, q.waiting = x :: rest := by
  cases h : q.waiting with
  | nil => simp [Backlog.isClosed, closed, h] at open'
  | cons x rest => exact ⟨x, rest, rfl⟩

/-- A waiting dispatcher is never idle when nobody can send. -/
theorem not_waiting_of_idle (idle : d.Idle)
    (arbitrations : d.session.arbitrations.senderOpen = false)
    (directives : d.session.directives.senderOpen = false) : d.session.dispatcher ≠ .waiting := by
  intro waiting
  have noArbitrations : d.session.arbitrationsWatched = false := by
    cases watched : d.session.arbitrationsWatched with
    | false => rfl
    | true =>
      cases closed : d.session.arbitrations.isClosed with
      | true =>
        have stuck := idle .closeArbitrations
        simp [move?, closeArbitrations?, waiting, watched, closed] at stuck
      | false =>
        obtain ⟨u, rest, next⟩ := receive_of_waiting arbitrations closed
        have stuck := idle .dispatchArbitration
        simp [move?, dispatchArbitration?, waiting, watched,
          Backlog.receive_cons _ _ _ next] at stuck
  have noDirectives : d.session.directivesWatched = false := by
    cases watched : d.session.directivesWatched with
    | false => rfl
    | true =>
      cases closed : d.session.directives.isClosed with
      | true =>
        have stuck := idle .closeDirectives
        simp [move?, closeDirectives?, waiting, watched, closed] at stuck
      | false =>
        obtain ⟨directive, rest, next⟩ := receive_of_waiting directives closed
        have stuck := idle .dispatchDirective
        simp [move?, dispatchDirective?, waiting, watched,
          Backlog.receive_cons _ _ _ next] at stuck
  have stuck := idle .stopDispatcher
  simp [move?, stopDispatcher?, waiting, noArbitrations, noDirectives] at stuck

/-- Behind a receiver that has ended, the tasks rest only at their end or at a held push. -/
theorem over_of_idle (idle : d.Idle) (ended : d.session.receiver = .ended)
    (arbitrations : d.session.arbitrations.senderOpen = false)
    (directives : d.session.directives.senderOpen = false) :
    d.session.tasksOver = true ∨ d.session.dispatcher = .pushing ∧ d.coordinator.held = true := by
  cases now : d.session.dispatcher with
  | absent | ended | panicked | cancelled =>
    left
    simp [Session.tasksOver, Dispatcher.isOver, ended, now]
  | promoted =>
    have stuck := idle .startPush
    simp [move?, startPush?, now] at stuck
  | waiting => exact absurd now (not_waiting_of_idle idle arbitrations directives)
  | pushing =>
    right
    cases held : d.coordinator.held with
    | true => exact ⟨rfl, rfl⟩
    | false =>
      have stuck := idle .resumePush
      simp [move?, resumePush?, now, held] at stuck

/-- An idle receiver has ended, once the stream is over. -/
theorem Flowing.receiver_ended (h : Flowing d.session d.coordinator) (idle : d.Idle)
    (started : d.session.receiver ≠ .absent) (gone : d.coordinator.isOpen = false) :
    d.session.receiver = .ended := by
  cases now : d.session.receiver with
  | absent => exact absurd now started
  | ended => rfl
  | cancelled => exact absurd now h.listening
  | reading =>
    obtain ⟨inbox, finished⟩ := receive_none_iff.mp (idle .receive) now
    simp [isOpen, reaches, inbox, finished, (h.reading now).1] at gone

/-- Once the stream is over, the tasks rest only at their end or at a held push. -/
theorem Flowing.over_of_idle (h : Flowing d.session d.coordinator) (idle : d.Idle)
    (receiver : d.session.receiver ≠ .absent) (gone : d.coordinator.isOpen = false) :
    d.session.tasksOver = true ∨ d.session.dispatcher = .pushing ∧ d.coordinator.held = true := by
  have ended := h.receiver_ended idle receiver gone
  obtain ⟨-, arbitrations, directives⟩ := h.ended ended
  exact Dialogue.over_of_idle idle ended arbitrations directives

end Dialogue

end PeeringAgent
