import PeeringAgent.Dialogue.Account
import PeeringAgent.Proofs.Dialogue.Stage

/-!
# One stream, one dispatcher

However often a session connects, its stream opens once, so its dispatcher starts once,
and behind a receiver. A dispatcher that is over stays as it is: it takes nothing more
and pushes nothing more.
-/

set_option autoImplicit false

namespace PeeringAgent.Dialogue

open SessionConfig Coordinator

variable {d d' : Dialogue} {s : Session} {c : Coordinator} {g : List Errand}
  {ended : List StreamEnded} {a : Act}

/-- No call is taken back. -/
theorem Change.calls (h : d.Change a s c g ended) : d.coordinator.calls <+: c.calls := by
  cases own : a.isCommand with
  | false =>
    obtain ⟨n, more⟩ := (h.frame own).exists_calls
    exact ⟨_, more.symm⟩
  | true =>
    cases h with
    | refused | dialled | opened | asked | hungUp | parted => exact List.prefix_append _ _
    | streamless => exact (List.prefix_append _ _).trans (List.prefix_append _ _)
    | began | started | disconnected | closed | dismissed | retired => exact List.prefix_rfl
    | arrived | finished | behaved | heldBack | letGo | crashed | receiverCancelled
    | dispatcherCancelled | moved | reconciled | unsupervised => cases own

theorem calls_run (acts : List Act) (run : run? acts d = some d') :
    d.coordinator.calls <+: d'.coordinator.calls :=
  run_keeps (fun e => d.coordinator.calls <+: e.coordinator.calls) (fun _ => True)
    (fun _ _ _ _ before he => before.trans (act_change he).calls) acts d d' (fun _ _ => trivial)
    List.prefix_rfl run

/-! ## A dispatcher that is over -/

theorem records_of_call {errand : Errand} {call : Call} {config : SessionConfig}
    (made : errand.call? config = some call) : call.records? = none := by
  cases errand <;> cases made <;> rfl

theorem pushes_record {call : Call} (h : call.records? = none) :
    (c.calls ++ [call]).filterMap Call.records? = c.calls.filterMap Call.records? := by
  rw [List.filterMap_append, List.filterMap_cons_none h]
  exact List.append_nil _

/-- Only a dispatcher that waits takes anything. -/
theorem takes_of_busy (h : d.Change a s c g ended) (busy : d.session.dispatcher ≠ .waiting) :
    d.takes a = [] ∧ d.applies a = [] := by
  cases h with
  | moved effect =>
    cases effect with
    | demoted waiting | promoted waiting | applied waiting => exact absurd waiting busy
    | queuedArbitration | queuedDirective | ignored | orphaned | failed | finished | pushed
    | heldUp | panicked | resumed | arbitrationsClosed | directivesClosed | stopped =>
      exact ⟨rfl, rfl⟩
  | began | refused | dialled | streamless | opened | asked | started | disconnected | closed
  | hungUp | parted | dismissed | retired | arrived | finished | behaved | heldBack | letGo
  | crashed | receiverCancelled | dispatcherCancelled | reconciled | unsupervised =>
    exact ⟨rfl, rfl⟩

theorem not_waiting_of_isOver {now : Dispatcher} (spent : now.isOver = true) : now ≠ .waiting := by
  rintro rfl
  cases spent

/-- Unless it is started, such a dispatcher stays as it is and does nothing. -/
theorem Change.halt (h : d.Change a s c g ended) (spent : d.session.dispatcher.isOver = true)
    (started : ∀ rest, d.agenda ≠ .startDispatcher :: rest) :
    s.dispatcher = d.session.dispatcher ∧ c.calls.filterMap Call.records? = d.pushes ∧
      d.takes a = [] ∧ d.applies a = [] := by
  refine and_assoc.mp ⟨?_, takes_of_busy h (not_waiting_of_isOver spent)⟩
  cases own : a.isCommand with
  | false =>
    have frame := h.frame own
    exact ⟨frame.spent spent, congrArg _ (frame.calls_of_over spent)⟩
  | true =>
    cases h with
    | began | disconnected | closed | dismissed | retired => exact ⟨rfl, rfl⟩
    | started next => exact absurd next (started _)
    | refused | dialled | opened => exact ⟨rfl, pushes_record rfl⟩
    | streamless =>
      refine ⟨rfl, ?_⟩
      rw [record_calls, pushes_record rfl, record_calls, pushes_record rfl]
      rfl
    | asked next lenient made => exact ⟨rfl, pushes_record (records_of_call made)⟩
    | hungUp => exact ⟨rfl, pushes_record rfl⟩
    | parted => exact ⟨rfl, pushes_record rfl⟩
    | arrived | finished | behaved | heldBack | letGo | crashed | receiverCancelled
    | dispatcherCancelled | moved | reconciled | unsupervised => cases own

/-- So it goes on through a run in which it is not started. -/
theorem halt_of_run {P : Dialogue → Prop} {Q : Act → Prop}
    (step : ∀ {d a d'}, Q a → P d → d.act? a = some d' →
      d'.session.dispatcher = d.session.dispatcher → P d')
    (unstarted : ∀ {d rest}, P d → d.agenda ≠ .startDispatcher :: rest) (acts : List Act)
    (h : P d) (allowed : ∀ a ∈ acts, Q a) (spent : d.session.dispatcher.isOver = true)
    (run : run? acts d = some d') :
    d'.session.dispatcher = d.session.dispatcher ∧ d'.pushes = d.pushes ∧
      dispatched acts d = [] ∧ applied acts d = [] := by
  induction acts generalizing d with
  | nil =>
    cases run
    exact ⟨rfl, rfl, rfl, rfl⟩
  | cons a as ih =>
    obtain ⟨e, he, hr⟩ := Option.bind_eq_some_iff.mp run
    obtain ⟨same, pushes, takes, applies⟩ := (act_change he).halt spent fun _ => unstarted h
    obtain ⟨stays, made, dispatches, works⟩ := ih (step (allowed a List.mem_cons_self) h he same)
      (fun b among => allowed b (List.mem_cons_of_mem a among)) (same ▸ spent) hr
    rw [dispatched_cons he, applied_cons he, takes, applies, dispatches, works]
    exact ⟨stays.trans same, made.trans pushes, rfl, rfl⟩

/-- Nothing is left to do but a release, if anything. -/
def Departing (g : List Errand) : Prop := ∀ errand ∈ g, errand.departs = true

theorem departing_nil : Departing [] := fun _ among => by cases among

theorem departing_departure (s : Session) : Departing s.departure := by
  cases connected : s.connected with
  | false => simp [Departing, s.departure_of_unconnected connected, Errand.departs]
  | true => simp [Departing, s.departure_of_connected connected, Errand.departs]

theorem Departing.next {errand : Errand} {rest : List Errand} (h : Departing g)
    (next : g = errand :: rest) : errand.departs = true ∧ Departing rest := by
  subst next
  exact ⟨h errand (by simp), fun later among => h later (by simp [among])⟩

theorem Departing.step (h : Departing d.agenda) (change : d.Change a s c g ended)
    (other : a.isConnect = false) : Departing g := by
  cases own : a.isCommand with
  | false => exact (change.frame own).agenda ▸ h
  | true =>
    cases change with
    | began => cases other
    | refused | streamless => exact departing_nil
    | disconnected | closed => exact departing_departure d.session
    | dialled next | opened next | asked next | started next | hungUp next | parted next
    | dismissed next | retired next => exact (h.next next).2
    | arrived | finished | behaved | heldBack | letGo | crashed | receiverCancelled
    | dispatcherCancelled | moved | reconciled | unsupervised => cases own

/-- A dispatcher that is over stays so for as long as nobody connects. -/
theorem Departing.halt_run (acts : List Act) (h : Departing d.agenda)
    (spent : d.session.dispatcher.isOver = true) (none : connects acts = 0)
    (run : run? acts d = some d') :
    d'.session.dispatcher = d.session.dispatcher ∧ d'.pushes = d.pushes ∧
      dispatched acts d = [] ∧ applied acts d = [] := by
  have others : ∀ a ∈ acts, a.isConnect = false := fun a among =>
    Bool.eq_false_iff.mpr (List.countP_eq_zero.mp none a among)
  refine halt_of_run (P := fun e => Departing e.agenda) (fun other departing he _ =>
    departing.step (act_change he) other) (fun departing next => ?_) acts h others spent run
  have departs := (departing.next next).1
  cases departs

/-- A release goes on to its end, whatever its calls come to. -/
theorem Departing.exists_run (h : Departing d.agenda) :
    ∃ e, run? (List.replicate d.agenda.length .carryOn) d = some e ∧ e.agenda = [] ∧
      (.retire ∈ d.agenda → retired (List.replicate d.agenda.length .carryOn) d = true) := by
  generalize left : d.agenda = errands at h ⊢
  induction errands generalizing d with
  | nil => exact ⟨d, rfl, left, fun among => by cases among⟩
  | cons errand rest ih =>
    -- The errands of a release do not fail, so the others come next.
    have next : (({ d with agenda := rest } : Dialogue).perform errand).1.agenda = rest := by
      have departs := (h.next rfl).1
      cases errand with
      | closeSend | close | dismiss => rfl
      | retire =>
        simp only [perform, retire]
        split <;> rfl
      | dial | openStream | bid | portRange | startDispatcher => cases departs
    have he : d.act? .carryOn = some (({ d with agenda := rest } : Dialogue).perform errand).1 := by
      rw [act?, carryOn?, left]
      rfl
    obtain ⟨e, run, done, retires⟩ := ih next (h.next rfl).2
    refine ⟨e, ?_, done, fun among => ?_⟩
    · rw [List.length_cons, List.replicate_succ, run?, he]
      exact run
    · rw [List.length_cons, List.replicate_succ, retired_cons he, Dialogue.retires, left,
        Bool.or_eq_true]
      rcases List.mem_cons.mp among with rfl | later
      · exact .inl rfl
      · exact .inr (retires later)

/-- A release that waits for the tasks begins when they are over. -/
theorem over_of_closeEnded (held : d.session.dismissed = false)
    (he : d.act? .closeEnded = some d') : d.agenda = [] ∧ d.session.tasksOver = true := by
  have change := act_change he
  generalize d'.session = s, d'.coordinator = c, d'.agenda = g, d'.ended = ended at change
  cases change with
  | closed idle gone => exact ⟨idle, gone.resolve_left (by simp [held])⟩

/-- So nothing is taken or pushed from there on, unless somebody connects. -/
theorem halt_of_closeEnded {after : List Act} (held : d.session.dismissed = false)
    (none : connects after = 0) (run : run? (.closeEnded :: after) d = some d') :
    d'.session.dispatcher = d.session.dispatcher ∧ d'.pushes = d.pushes ∧
      dispatched (.closeEnded :: after) d = [] ∧ applied (.closeEnded :: after) d = [] := by
  obtain ⟨e, he, -⟩ := Option.bind_eq_some_iff.mp run
  obtain ⟨idle, gone⟩ := over_of_closeEnded held he
  rw [Session.tasksOver, Bool.and_eq_true] at gone
  have departing : Departing d.agenda := by
    rw [idle]
    exact departing_nil
  exact departing.halt_run _ gone.2 (by rw [connects_cons, none]; rfl) run

/-! ## Connecting -/

/-- How far connecting has come; what comes after the opening comes behind a receiver. -/
inductive Approach (s : Session) (c : Coordinator) : List Errand → Prop
  | departing {g : List Errand} (agenda : Departing g) : Approach s c g
  | begun : Approach s c s.config.errands
  | dialled : Approach s c (.openStream :: s.config.registration)
  | registering {before g : List Errand} (agenda : s.config.registration = before ++ g)
      (rest : g ≠ []) (receiver : s.receiver ≠ .absent) (off : s.dispatcher = .absent)
      (opened : c.stream ≠ .offered) : Approach s c g

theorem Approach.idle : Approach s c [] := .departing departing_nil

theorem Approach.of_openStream {rest : List Errand} (h : Approach s c (.openStream :: rest)) :
    rest = s.config.registration := by
  generalize agenda : Errand.openStream :: rest = g at h
  cases h with
  | departing departs => cases (departs.next agenda.symm).1
  | begun => cases agenda
  | dialled => exact (List.cons.inj agenda).2
  | registering same =>
    subst agenda
    exact absurd rfl (registration_next same).2

theorem Approach.of_dial {rest : List Errand} (h : Approach s c (.dial :: rest)) :
    rest = .openStream :: s.config.registration := by
  generalize agenda : Errand.dial :: rest = g at h
  cases h with
  | departing departs => cases (departs.next agenda.symm).1
  | begun => exact (List.cons.inj agenda).2
  | dialled => cases agenda
  | registering same =>
    subst agenda
    exact absurd rfl (registration_next same).1

theorem Approach.of_registration {errand : Errand} {rest : List Errand}
    (h : Approach s c (errand :: rest)) (registers : errand.registers = true) :
    s.receiver ≠ .absent ∧ s.dispatcher = .absent ∧ c.stream ≠ .offered ∧
      ∃ before, s.config.registration = before ++ errand :: rest := by
  have ⟨noDial, noStream⟩ := later_of_registers registers
  generalize agenda : errand :: rest = g at h
  cases h with
  | departing departs =>
    have leaves := (departs.next agenda.symm).1
    rw [Errand.departs_of_registers registers] at leaves
    cases leaves
  | begun => exact absurd (List.cons.inj agenda).1 noDial
  | dialled => exact absurd (List.cons.inj agenda).1 noStream
  | registering same rest receiver off opened =>
    subst agenda
    exact ⟨receiver, off, opened, _, same⟩

theorem Approach.of_departing {errand : Errand} {rest : List Errand}
    (h : Approach s c (errand :: rest)) (departs : errand.departs = true) : Departing rest := by
  generalize agenda : errand :: rest = g at h
  cases h with
  | departing departing => exact (departing.next agenda.symm).2
  | begun =>
    rw [(List.cons.inj agenda).1] at departs
    cases departs
  | dialled =>
    rw [(List.cons.inj agenda).1] at departs
    cases departs
  | registering same =>
    subst agenda
    rw [Errand.departs_of_registers (registers_of_registration same)] at departs
    cases departs

/-- A stream that has been opened is never offered again. -/
theorem Effect.stream {m : Move} (h : d.Effect m s c ended)
    (opened : d.coordinator.stream ≠ .offered) : c.stream ≠ .offered := by
  cases h with
  | orphaned => exact dropStream_stream opened
  | failed => exact dropStream_stream opened
  | finished => exact dropStream_stream opened
  | queuedArbitration | queuedDirective | ignored | demoted | promoted | pushed | heldUp
  | panicked | applied | resumed | arbitrationsClosed | directivesClosed | stopped => exact opened

theorem Change.stream (h : d.Change a s c g ended) (own : a.isCommand = false)
    (opened : d.coordinator.stream ≠ .offered) : c.stream ≠ .offered := by
  cases h with
  | moved effect => exact effect.stream opened
  | arrived a =>
    rw [put_stream]
    exact opened
  | receiverCancelled => exact dropStream_stream opened
  | finished | behaved | heldBack | letGo | crashed | dispatcherCancelled | reconciled
  | unsupervised => exact opened
  | began | refused | dialled | streamless | opened | asked | started | disconnected | closed
  | hungUp | parted | dismissed | retired => cases own

theorem Approach.frame (h : Approach d.session d.coordinator d.agenda)
    (frame : Frame d s c g)
    (opened : d.coordinator.stream ≠ .offered → c.stream ≠ .offered) : Approach s c g := by
  rw [frame.agenda]
  generalize d.agenda = g' at h
  cases h with
  | departing agenda => exact .departing agenda
  | begun =>
    rw [← frame.config]
    exact .begun
  | dialled =>
    rw [← frame.config]
    exact .dialled
  | registering agenda rest receiver off stream =>
    exact .registering (by rw [frame.config, agenda]) rest
      (fun gone => receiver (frame.receiver.mp gone)) (frame.dispatcher.mpr off) (opened stream)

/-- No task has been started before the stream is opened. -/
structure Attended (s : Session) (c : Coordinator) (g : List Errand) : Prop where
  approach : Approach s c g
  receiver : s.receiver ≠ .absent → c.stream ≠ .offered
  dispatcher : s.dispatcher ≠ .absent → c.stream ≠ .offered

/-- Only a stream that is still offered can be opened. -/
theorem offered_of_openable {c : Coordinator} (h : c.openError = none) : c.stream = .offered := by
  unfold openError at h
  split at h
  · cases h
  · split at h
    · assumption
    · cases h

theorem Attended.step (h : Attended d.session d.coordinator d.agenda)
    (change : d.Change a s c g ended) : Attended s c g := by
  obtain ⟨approach, receiver, dispatcher⟩ := h
  cases own : a.isCommand with
  | false =>
    have frame := change.frame own
    have kept := change.stream own
    exact ⟨approach.frame frame kept,
      fun on => kept (receiver fun off => on (frame.receiver.mpr off)),
      fun on => kept (dispatcher fun off => on (frame.dispatcher.mpr off))⟩
  | true =>
    cases change with
    | began => exact ⟨.begun, receiver, dispatcher⟩
    | refused | streamless => exact ⟨.idle, receiver, dispatcher⟩
    | dialled next =>
      rw [next] at approach
      rw [approach.of_dial]
      exact ⟨.dialled, receiver, dispatcher⟩
    | opened next success =>
      rw [next] at approach
      rw [approach.of_openStream]
      have off : d.session.dispatcher = .absent :=
        Decidable.byContradiction fun on => dispatcher on (offered_of_openable success)
      have agenda : d.session.config.registration = [] ++ d.session.config.registration := rfl
      exact ⟨.registering agenda (List.cons_ne_nil _ _) (by simp [Session.startReceiver]) off
        (by simp), by simp, by simp⟩
    | @asked errand call rest next lenient made =>
      rw [next] at approach
      obtain ⟨on, off, opened, before, agenda⟩ :=
        approach.of_registration (Errand.registers_of_lenient lenient)
      have more : g ≠ [] := by
        rintro rfl
        rw [registration_end agenda] at lenient
        cases lenient
      have later : d.session.config.registration = (before ++ [errand]) ++ g := by simp [agenda]
      exact ⟨.registering later more on off opened, receiver, dispatcher⟩
    | started next =>
      rw [next] at approach
      obtain ⟨on, off, opened, before, agenda⟩ := approach.of_registration rfl
      rw [registration_last agenda]
      exact ⟨.idle, receiver, fun _ => opened⟩
    | disconnected | closed =>
      exact ⟨.departing (departing_departure d.session), receiver, dispatcher⟩
    | hungUp next | parted next | dismissed next | retired next =>
      rw [next] at approach
      exact ⟨.departing (approach.of_departing rfl), receiver, dispatcher⟩
    | arrived | finished | behaved | heldBack | letGo | crashed | receiverCancelled
    | dispatcherCancelled | moved | reconciled | unsupervised => cases own

theorem Attended.run (acts : List Act) (h : Attended d.session d.coordinator d.agenda)
    (run : run? acts d = some d') : Attended d'.session d'.coordinator d'.agenda :=
  run_keeps (fun e => Attended e.session e.coordinator e.agenda) (fun _ => True)
    (fun _ _ _ _ attended he => attended.step (act_change he)) acts d d' (fun _ _ => trivial) h run

theorem attended_new (config : SessionConfig) (behaviour : Behaviour) (store : LinkStore) :
    Attended ((new config behaviour).setStore store).session
      ((new config behaviour).setStore store).coordinator
      ((new config behaviour).setStore store).agenda :=
  ⟨.idle, fun on => absurd rfl on, fun on => absurd rfl on⟩

/-- The dispatcher starts behind a receiver, and only once. -/
theorem Attended.of_start {rest : List Errand} (h : Attended s c g)
    (next : g = .startDispatcher :: rest) : s.dispatcher = .absent ∧ s.receiver ≠ .absent := by
  subst next
  obtain ⟨on, off, -⟩ := h.approach.of_registration rfl
  exact ⟨off, on⟩

/-- A dispatcher that was started and is over stays so, whatever happens. -/
theorem Attended.halt_run (acts : List Act) (h : Attended d.session d.coordinator d.agenda)
    (spent : d.session.dispatcher.isOver = true) (present : d.session.dispatcher ≠ .absent)
    (run : run? acts d = some d') :
    d'.session.dispatcher = d.session.dispatcher ∧ d'.pushes = d.pushes ∧
      dispatched acts d = [] ∧ applied acts d = [] :=
  halt_of_run (Q := fun _ => True)
    (P := fun e => Attended e.session e.coordinator e.agenda ∧ e.session.dispatcher ≠ .absent)
    (fun _ ⟨attended, on⟩ he same => ⟨attended.step (act_change he), same ▸ on⟩)
    (fun ⟨attended, on⟩ next => on (attended.of_start next).1) acts ⟨h, present⟩
    (fun _ _ => trivial) spent run

end PeeringAgent.Dialogue
