import PeeringAgent.Proofs.Dialogue.Agenda

/-!
# Stages of a session

A session that connects at most once goes through a few stages, each with its own
calls. Commands lead from one stage to the next; the tasks and the world outside
stay within a stage, and only add pushes of policies to it. They go on doing so in the
stages of a release, as long as the dispatcher has not stopped.
-/

set_option autoImplicit false

namespace PeeringAgent.Dialogue

open SessionConfig Coordinator

/-- No task has been started and nothing is connected. -/
structure Resting (s : Session) : Prop where
  connected : s.connected = false
  receiver : s.receiver = .absent
  dispatcher : s.dispatcher = .absent

/-- Connecting has not begun. -/
structure Unconnected (s : Session) (c : Coordinator) (g : List Errand) : Prop where
  agenda : Parting g
  resting : Resting s
  phase : s.phase = .disconnected ∨ s.phase = .closed
  calls : c.calls = []

/-- How far a session has come, and why it failed to connect if it did. -/
inductive Stage (s : Session) (c : Coordinator) (g : List Errand) : Option SessionError → Prop
  | unconnected (unconnected : Unconnected s c g) : Stage s c g none
  | dialling (agenda : g = s.config.errands) (resting : Resting s)
      (phase : s.phase = .connecting) (calls : c.calls = []) : Stage s c g none
  | dialled (agenda : g = .openStream :: s.config.registration) (resting : Resting s)
      (phase : s.phase = .connecting) (calls : c.calls = [s.config.dialCall]) : Stage s c g none
  | registering (before : List Errand) (agenda : s.config.registration = before ++ g)
      (rest : g ≠ []) (connected : s.connected = false) (receiver : s.receiver ≠ .absent)
      (dispatcher : s.dispatcher = .absent) (phase : s.phase = .streaming)
      (calls : c.calls =
        [s.config.dialCall, .openStream] ++ before.filterMap (·.call? s.config)) :
      Stage s c g none
  | serving (pushes : Nat) (agenda : g = [] ∨ g = [.closeSend, .close, .dismiss, .retire])
      (connected : s.connected = true) (receiver : s.receiver ≠ .absent)
      (dispatcher : s.dispatcher ≠ .absent) (phase : s.phase = .streaming)
      (calls : c.calls = s.config.service pushes) : Stage s c g none
  | hungUp (pushes between : Nat) (agenda : g = [.close, .dismiss, .retire])
      (connected : s.connected = true) (receiver : s.receiver ≠ .absent)
      (dispatcher : s.dispatcher ≠ .absent) (phase : s.phase = .streaming)
      (calls : c.calls = s.config.service pushes ++
        .closeSend :: List.replicate between s.config.pushCall) : Stage s c g none
  | refused (cause : TransportError) (agenda : Parting g) (resting : Resting s)
      (phase : s.phase = .closed) (calls : c.calls = [s.config.dialCall]) :
      Stage s c g (some (.connect s.config.address cause))
  | streamless (cause : TransportError) (agenda : Parting g) (resting : Resting s)
      (phase : s.phase = .closed) (calls : c.calls = [s.config.dialCall, .openStream, .close]) :
      Stage s c g (some (.openStream cause))
  | released (pushes between behind : Nat) (agenda : Parting g) (connected : s.connected = false)
      (receiver : s.receiver ≠ .absent) (dispatcher : s.dispatcher ≠ .absent)
      (phase : s.phase = .closed ∨ s.phase = .streaming ∧ g ≠ [])
      (calls : c.calls = s.config.service pushes ++ s.config.farewell between behind) :
      Stage s c g none

/-- What stays as it is while tasks move and the world outside acts. -/
structure Frame (d : Dialogue) (s : Session) (c : Coordinator) (g : List Errand) : Prop where
  config : s.config = d.session.config
  phase : s.phase = d.session.phase
  connected : s.connected = d.session.connected
  dismissed : s.dismissed = d.session.dismissed
  receiver : s.receiver = .absent ↔ d.session.receiver = .absent
  dispatcher : s.dispatcher = .absent ↔ d.session.dispatcher = .absent
  /-- A dispatcher that is over does not begin again. -/
  spent : d.session.dispatcher.isOver = true → s.dispatcher = d.session.dispatcher
  agenda : g = d.agenda
  /-- A dispatcher that is about to push may do so. -/
  calls : c.calls = d.coordinator.calls ∨
    d.session.dispatcher = .promoted ∧
      c.calls = d.coordinator.calls ++ [d.session.config.pushCall]

@[simp] theorem dropStream_calls (c : Coordinator) : c.dropStream.calls = c.calls := by
  unfold Coordinator.dropStream
  split <;> rfl

theorem dropStream_stream {c : Coordinator} (opened : c.stream ≠ .offered) :
    c.dropStream.stream ≠ .offered := by
  unfold Coordinator.dropStream
  split
  · simp
  · exact opened

@[simp] theorem put_calls (c : Coordinator) (a : Arrival) : (c.put a).1.calls = c.calls := by
  unfold Coordinator.put
  split <;> rfl

@[simp] theorem put_stream (c : Coordinator) (a : Arrival) : (c.put a).1.stream = c.stream := by
  unfold Coordinator.put
  split <;> rfl

variable {d : Dialogue} {s : Session} {c : Coordinator} {g : List Errand}
  {ended : List StreamEnded}

theorem Effect.frame {m : Move} (h : d.Effect m s c ended) : Frame d s c d.agenda := by
  cases h <;> constructor <;>
    simp_all [deaf, taken, Session.dropSenders, Session.dropReceivers, Session.panic,
      Coordinator.record, Dispatcher.isOver]

/-- The acts of the session's owner. -/
def Act.isCommand : Act → Bool
  | .beginConnect => true
  | .carryOn => true
  | .disconnect => true
  | .closeEnded => true
  | _ => false

theorem Change.frame {a : Act} (h : d.Change a s c g ended) (own : a.isCommand = false) :
    Frame d s c g := by
  cases h with
  | moved effect => exact effect.frame
  | arrived a => constructor <;> simp
  | crashed pushing =>
    constructor <;> simp [Session.panic, Session.dropReceivers, pushing, Dispatcher.isOver]
  | receiverCancelled gone reading =>
    constructor <;> simp [Session.cancelReceiver, Session.dropSenders, reading]
  | dispatcherCancelled gone pauses =>
    have present : d.session.dispatcher ≠ .absent := by
      intro off
      simp [off, Dispatcher.pauses] at pauses
    have running : d.session.dispatcher.isOver ≠ true := by
      intro spent
      rw [Dispatcher.isOver_of_pauses pauses] at spent
      cases spent
    constructor <;> simp [Session.cancelDispatcher, Session.dropReceivers, present, running]
  | finished | behaved | heldBack | letGo | reconciled | unsupervised =>
    constructor <;> simp [Coordinator.finish, Coordinator.hold, Coordinator.release]
  | began | refused | dialled | streamless | opened | asked | started | disconnected | closed
  | hungUp | parted | dismissed | retired => cases own

theorem Frame.resting (h : Frame d s c g) (resting : Resting d.session) : Resting s :=
  ⟨by rw [h.connected, resting.connected], h.receiver.mpr resting.receiver,
    h.dispatcher.mpr resting.dispatcher⟩

theorem Frame.calls_of_over (h : Frame d s c g) (spent : d.session.dispatcher.isOver = true) :
    c.calls = d.coordinator.calls := by
  rcases h.calls with same | ⟨promoted, -⟩
  · exact same
  · rw [promoted] at spent
    cases spent

theorem Frame.calls_of_absent (h : Frame d s c g) (absent : d.session.dispatcher = .absent) :
    c.calls = d.coordinator.calls :=
  h.calls_of_over (by rw [absent]; rfl)

theorem Frame.exists_calls (h : Frame d s c g) :
    ∃ n, c.calls = d.coordinator.calls ++ List.replicate n d.session.config.pushCall := by
  rcases h.calls with same | ⟨-, more⟩
  · exact ⟨0, same.trans (List.append_nil _).symm⟩
  · exact ⟨1, more⟩

theorem Frame.unconnected (h : Frame d s c g)
    (unconnected : Unconnected d.session d.coordinator d.agenda) : Unconnected s c g := by
  have same := h.calls_of_absent unconnected.resting.dispatcher
  exact ⟨h.agenda ▸ unconnected.agenda, h.resting unconnected.resting,
    by rw [h.phase]; exact unconnected.phase, same.trans unconnected.calls⟩

theorem replicate_append {α : Type} (m n : Nat) (x : α) :
    List.replicate m x ++ List.replicate n x = List.replicate (m + n) x :=
  List.replicate_append_replicate

/-- Tasks and the world outside keep the stage. -/
theorem Stage.of_frame {f : Option SessionError}
    (h : Stage d.session d.coordinator d.agenda f) (frame : Frame d s c g) : Stage s c g f := by
  have receiver' (on : d.session.receiver ≠ .absent) : s.receiver ≠ .absent :=
    fun off => on (frame.receiver.mp off)
  have dispatcher' (on : d.session.dispatcher ≠ .absent) : s.dispatcher ≠ .absent :=
    fun off => on (frame.dispatcher.mp off)
  cases h with
  | unconnected unconnected => exact .unconnected (frame.unconnected unconnected)
  | dialling agenda resting phase calls =>
    have same := frame.calls_of_absent resting.dispatcher
    exact .dialling (by rw [frame.agenda, frame.config, agenda]) (frame.resting resting)
      (frame.phase.trans phase) (same.trans calls)
  | dialled agenda resting phase calls =>
    have same := frame.calls_of_absent resting.dispatcher
    exact .dialled (by rw [frame.agenda, frame.config, agenda]) (frame.resting resting)
      (frame.phase.trans phase) (by rw [same, frame.config, calls])
  | registering before agenda rest connected receiver dispatcher phase calls =>
    have same := frame.calls_of_absent dispatcher
    exact .registering before (by rw [frame.agenda, frame.config, agenda])
      (by rw [frame.agenda]; exact rest) (frame.connected.trans connected) (receiver' receiver)
      (frame.dispatcher.mpr dispatcher) (frame.phase.trans phase)
      (by rw [same, frame.config, calls])
  | serving pushes agenda connected receiver dispatcher phase calls =>
    obtain ⟨n, more⟩ := frame.exists_calls
    refine .serving (pushes + n) (by rw [frame.agenda]; exact agenda)
      (frame.connected.trans connected) (receiver' receiver) (dispatcher' dispatcher)
      (frame.phase.trans phase) ?_
    rw [more, calls, frame.config, service, service, List.append_assoc, replicate_append]
  | hungUp pushes between agenda connected receiver dispatcher phase calls =>
    obtain ⟨n, more⟩ := frame.exists_calls
    refine .hungUp pushes (between + n) (frame.agenda.trans agenda)
      (frame.connected.trans connected) (receiver' receiver) (dispatcher' dispatcher)
      (frame.phase.trans phase) ?_
    rw [more, calls, frame.config, List.append_assoc, List.cons_append, replicate_append]
  | refused cause agenda resting phase calls =>
    have same := frame.calls_of_absent resting.dispatcher
    rw [← frame.config]
    exact .refused cause (frame.agenda ▸ agenda) (frame.resting resting)
      (frame.phase.trans phase) (by rw [same, frame.config, calls])
  | streamless cause agenda resting phase calls =>
    have same := frame.calls_of_absent resting.dispatcher
    exact .streamless cause (frame.agenda ▸ agenda) (frame.resting resting)
      (frame.phase.trans phase) (by rw [same, frame.config, calls])
  | released pushes between behind agenda connected receiver dispatcher phase calls =>
    obtain ⟨n, more⟩ := frame.exists_calls
    refine .released pushes between (behind + n) (frame.agenda ▸ agenda)
      (frame.connected.trans connected) (receiver' receiver) (dispatcher' dispatcher)
      (by rw [frame.phase, frame.agenda]; exact phase) ?_
    rw [more, calls, frame.config, List.append_assoc, farewell, farewell, List.cons_append,
      List.append_assoc, List.cons_append, replicate_append]

/-! ## Commands -/

theorem Stage.of_dial {rest : List Errand} {f : Option SessionError}
    (h : Stage s c (.dial :: rest) f) :
    f = none ∧ rest = .openStream :: s.config.registration ∧ Resting s ∧
      s.phase = .connecting ∧ c.calls = [] := by
  cases h with
  | dialling agenda resting phase calls =>
    rw [errands_eq, List.cons.injEq] at agenda
    exact ⟨rfl, agenda.2, resting, phase, calls⟩
  | registering before agenda => exact absurd rfl (registration_next agenda).1
  | unconnected unconnected => exact (unconnected.agenda.absurd_next rfl nofun nofun).elim
  | dialled agenda | hungUp _ _ agenda => cases agenda
  | serving _ agenda => rcases agenda with agenda | agenda <;> cases agenda
  | refused _ agenda | streamless _ agenda | released _ _ _ agenda =>
    exact (agenda.absurd_next rfl nofun nofun).elim

theorem Stage.of_openStream {rest : List Errand} {f : Option SessionError}
    (h : Stage s c (.openStream :: rest) f) :
    f = none ∧ rest = s.config.registration ∧ Resting s ∧ s.phase = .connecting ∧
      c.calls = [s.config.dialCall] := by
  cases h with
  | dialled agenda resting phase calls =>
    rw [List.cons.injEq] at agenda
    exact ⟨rfl, agenda.2, resting, phase, calls⟩
  | registering before agenda => exact absurd rfl (registration_next agenda).2
  | unconnected unconnected => exact (unconnected.agenda.absurd_next rfl nofun nofun).elim
  | dialling agenda | hungUp _ _ agenda => cases agenda
  | serving _ agenda => rcases agenda with agenda | agenda <;> cases agenda
  | refused _ agenda | streamless _ agenda | released _ _ _ agenda =>
    exact (agenda.absurd_next rfl nofun nofun).elim

/-- A session rests until its stream is open. -/
theorem Stage.resting_of_openStream {rest : List Errand} {f : Option SessionError}
    (h : Stage s c (.openStream :: rest) f) : Resting s := by
  obtain ⟨-, -, resting, -⟩ := h.of_openStream
  exact resting

theorem Stage.of_registration {errand : Errand} {rest : List Errand} {f : Option SessionError}
    (h : Stage s c (errand :: rest) f) (registers : errand.registers = true) :
    f = none ∧ s.connected = false ∧ s.receiver ≠ .absent ∧ s.dispatcher = .absent ∧
      s.phase = .streaming ∧ ∃ before, s.config.registration = before ++ errand :: rest ∧
        c.calls = [s.config.dialCall, .openStream] ++
          before.filterMap (·.call? s.config) := by
  have other {errand' : Errand} (off : errand'.registers = false) : errand ≠ errand' := by
    rintro rfl
    rw [off] at registers
    cases registers
  have parts (agenda : Parting (errand :: rest)) : False :=
    agenda.absurd_next rfl (other rfl) (other rfl)
  cases h with
  | registering before agenda rest connected receiver dispatcher phase calls =>
    exact ⟨rfl, connected, receiver, dispatcher, phase, before, agenda, calls⟩
  | dialling agenda => exact absurd (List.cons.inj agenda).1 (other rfl)
  | dialled agenda => exact absurd (List.cons.inj agenda).1 (other rfl)
  | hungUp _ _ agenda => exact absurd (List.cons.inj agenda).1 (other rfl)
  | serving _ agenda =>
    rcases agenda with agenda | agenda
    · cases agenda
    · exact absurd (List.cons.inj agenda).1 (other rfl)
  | unconnected unconnected => exact (parts unconnected.agenda).elim
  | refused _ agenda | streamless _ agenda | released _ _ _ agenda => exact (parts agenda).elim

theorem Stage.streaming_of_registration {errand : Errand} {rest : List Errand}
    {f : Option SessionError} (h : Stage s c (errand :: rest) f)
    (registers : errand.registers = true) : s.phase = .streaming := by
  obtain ⟨-, -, -, -, phase, -⟩ := h.of_registration registers
  exact phase

theorem Stage.of_closeSend {rest : List Errand} {f : Option SessionError}
    (h : Stage s c (.closeSend :: rest) f) :
    f = none ∧ rest = [.close, .dismiss, .retire] ∧ s.connected = true ∧
      s.receiver ≠ .absent ∧ s.dispatcher ≠ .absent ∧ s.phase = .streaming ∧
      ∃ pushes, c.calls = s.config.service pushes := by
  cases h with
  | serving pushes agenda connected receiver dispatcher phase calls =>
    rcases agenda with agenda | agenda
    · cases agenda
    · exact ⟨rfl, (List.cons.inj agenda).2, connected, receiver, dispatcher, phase, pushes, calls⟩
  | registering before agenda =>
    have registers := registers_of_registration agenda
    cases registers
  | dialling agenda | dialled agenda | hungUp _ _ agenda => cases agenda
  | unconnected unconnected => exact (unconnected.agenda.absurd_next rfl nofun nofun).elim
  | refused _ agenda | streamless _ agenda | released _ _ _ agenda =>
    exact (agenda.absurd_next rfl nofun nofun).elim

theorem Stage.of_close {rest : List Errand} {f : Option SessionError}
    (h : Stage s c (.close :: rest) f) :
    f = none ∧ rest = [.dismiss, .retire] ∧ s.receiver ≠ .absent ∧ s.dispatcher ≠ .absent ∧
      s.phase = .streaming ∧ ∃ pushes between, c.calls = s.config.service pushes ++
        .closeSend :: List.replicate between s.config.pushCall := by
  cases h with
  | hungUp pushes between agenda connected receiver dispatcher phase calls =>
    exact ⟨rfl, (List.cons.inj agenda).2, receiver, dispatcher, phase, pushes, between, calls⟩
  | serving _ agenda => rcases agenda with agenda | agenda <;> cases agenda
  | registering before agenda =>
    have registers := registers_of_registration agenda
    cases registers
  | dialling agenda | dialled agenda => cases agenda
  | unconnected unconnected => exact (unconnected.agenda.absurd_next rfl nofun nofun).elim
  | refused _ agenda | streamless _ agenda | released _ _ _ agenda =>
    exact (agenda.absurd_next rfl nofun nofun).elim

theorem Stage.dismiss_not_last {f : Option SessionError} (h : Stage s c [.dismiss] f) : False := by
  have parts (agenda : Parting [.dismiss]) : False := by
    rcases (agenda.next rfl).1 with ⟨-, rest⟩ | ⟨other, -⟩
    · cases rest
    · cases other
  cases h with
  | unconnected unconnected => exact parts unconnected.agenda
  | refused _ agenda | streamless _ agenda | released _ _ _ agenda => exact parts agenda
  | dialling agenda | dialled agenda | hungUp _ _ agenda => cases agenda
  | serving _ agenda => rcases agenda with agenda | agenda <;> cases agenda
  | registering before agenda =>
    have last := registration_end agenda
    cases last

/-- Behind the calls of a release only its session changes. -/
theorem Stage.part {errand : Errand} {rest : List Errand} {f : Option SessionError}
    (h : Stage s c (errand :: rest) f) (last : errand = .dismiss ∨ errand = .retire)
    {s' : Session} (config : s'.config = s.config) (connected : s'.connected = s.connected)
    (receiver : s'.receiver = s.receiver) (dispatcher : s'.dispatcher = s.dispatcher)
    (phase : s'.phase = .closed ∨ s'.phase = s.phase ∧ rest ≠ []) : Stage s' c rest f := by
  have resting (rests : Resting s) : Resting s' :=
    ⟨connected.trans rests.connected, receiver.trans rests.receiver,
      dispatcher.trans rests.dispatcher⟩
  have closed (was : s.phase = .closed) : s'.phase = .closed :=
    phase.elim id fun same => same.1.trans was
  cases h with
  | unconnected unconnected =>
    refine .unconnected ⟨(unconnected.agenda.next rfl).2, resting unconnected.resting, ?_,
      unconnected.calls⟩
    rcases phase with gone | ⟨same, -⟩
    · exact .inr gone
    · rw [same]
      exact unconnected.phase
  | refused cause agenda rests was calls =>
    rw [← config]
    exact .refused cause (agenda.next rfl).2 (resting rests) (closed was)
      (by rw [calls, config])
  | streamless cause agenda rests was calls =>
    exact .streamless cause (agenda.next rfl).2 (resting rests) (closed was)
      (by rw [calls, config])
  | released pushes between behind agenda off on here was calls =>
    refine .released pushes between behind (agenda.next rfl).2 (connected.trans off)
      (receiver ▸ on) (dispatcher ▸ here) ?_ (by rw [calls, config])
    rcases phase with gone | ⟨same, more⟩
    · exact .inl gone
    · rw [same]
      exact was.imp_right fun streaming => ⟨streaming.1, more⟩
  | registering before agenda =>
    have registers := registers_of_registration agenda
    rcases last with rfl | rfl <;> cases registers
  | dialling agenda | dialled agenda | hungUp _ _ agenda =>
    rcases last with rfl | rfl <;> cases agenda
  | serving _ agenda => rcases last with rfl | rfl <;> rcases agenda with agenda | agenda <;>
      cases agenda

/-- A failed errand is told. -/
theorem failureAt_carryOn {errand : Errand} {rest : List Errand}
    (next : d.agenda = errand :: rest) :
    d.failureAt? .carryOn =
      match (({ d with agenda := rest } : Dialogue).perform errand).2 with
      | .error e => some e
      | .ok () => none := by
  simp only [failureAt?, carryOn?, next]
  generalize ({ d with agenda := rest } : Dialogue).perform errand = result
  obtain ⟨after, _ | _⟩ := result <;> rfl

theorem failureAt_of_dial {rest : List Errand} (next : d.agenda = .dial :: rest) :
    d.failureAt? .carryOn =
      d.coordinator.behaviour.connectError.map (.connect d.session.config.address) := by
  rw [failureAt_carryOn next]
  cases error : d.coordinator.behaviour.connectError <;>
    simp [perform, dial, Coordinator.record, error]

theorem failureAt_of_openStream {rest : List Errand} (next : d.agenda = .openStream :: rest) :
    d.failureAt? .carryOn = d.coordinator.openError.map .openStream := by
  have same (e : Option TransportError) (h : d.coordinator.openError = e) :
      (d.coordinator.record .openStream).openError = e := h
  rw [failureAt_carryOn next]
  cases error : d.coordinator.openError <;> simp [perform, openStream, same _ error]

theorem failureAt_of_later {errand : Errand} {rest : List Errand}
    (next : d.agenda = errand :: rest) (noDial : errand ≠ .dial)
    (noStream : errand ≠ .openStream) : d.failureAt? .carryOn = none := by
  rw [failureAt_carryOn next]
  cases errand with
  | dial => exact absurd rfl noDial
  | openStream => exact absurd rfl noStream
  | bid | portRange | startDispatcher | closeSend | close | dismiss | retire => rfl

/-- An errand leads on to the next stage, or connecting fails. -/
theorem Stage.carryOn {f : Option SessionError}
    (h : Stage d.session d.coordinator d.agenda f)
    (change : d.Change .carryOn s c g ended) :
    Stage s c g (f.or (d.failureAt? .carryOn)) := by
  cases change with
  | refused next error =>
    rw [next] at h
    obtain ⟨rfl, -, resting, -, calls⟩ := h.of_dial
    rw [failureAt_of_dial next, error]
    exact .refused _ parting_nil ⟨resting.1, resting.2, resting.3⟩ rfl
      (by rw [record_calls, calls]; rfl)
  | dialled next success =>
    rw [next] at h
    obtain ⟨rfl, rfl, resting, phase, calls⟩ := h.of_dial
    rw [failureAt_of_dial next, success]
    exact .dialled rfl resting phase (by rw [record_calls, calls]; rfl)
  | streamless next error =>
    rw [next] at h
    obtain ⟨rfl, -, resting, -, calls⟩ := h.of_openStream
    rw [failureAt_of_openStream next, error]
    exact .streamless _ parting_nil ⟨resting.1, resting.2, resting.3⟩ rfl
      (by rw [record_calls, record_calls, calls]; rfl)
  | opened next success =>
    rw [next] at h
    obtain ⟨rfl, rfl, resting, -, calls⟩ := h.of_openStream
    rw [failureAt_of_openStream next, success]
    have receiver : d.session.startReceiver.receiver ≠ .absent := by simp [Session.startReceiver]
    exact .registering [] rfl (List.cons_ne_nil _ _) resting.connected receiver
      resting.dispatcher rfl (by rw [record_calls, calls]; rfl)
  | @asked errand call rest next lenient made =>
    rw [next] at h
    have registers := Errand.registers_of_lenient lenient
    have ⟨noDial, noStream⟩ := later_of_registers registers
    obtain ⟨rfl, connected, receiver, dispatcher, phase, before, agenda, calls⟩ :=
      h.of_registration registers
    rw [failureAt_of_later next noDial noStream]
    have more : g ≠ [] := by
      rintro rfl
      rw [registration_end agenda] at lenient
      cases lenient
    exact .registering (before ++ [errand]) (by simp [agenda]) more connected receiver
      dispatcher phase (by simp [calls, record_calls, made])
  | started next =>
    rw [next] at h
    obtain ⟨rfl, -, receiver, -, phase, before, agenda, calls⟩ := h.of_registration rfl
    obtain rfl := registration_last agenda
    rw [failureAt_of_later next nofun nofun]
    have dispatcher : d.session.startDispatcher.dispatcher ≠ .absent := by
      simp [Session.startDispatcher]
    refine .serving 0 (.inl rfl) rfl receiver dispatcher phase ?_
    show d.coordinator.calls = d.session.config.opening ++ []
    rw [calls, opening_eq agenda, List.append_nil]
    exact (List.append_nil _).symm
  | hungUp next =>
    rw [next] at h
    obtain ⟨rfl, rfl, connected, receiver, dispatcher, phase, pushes, calls⟩ := h.of_closeSend
    rw [failureAt_of_later next nofun nofun]
    exact .hungUp pushes 0 rfl connected receiver dispatcher phase
      (by rw [record_calls, calls]; rfl)
  | parted next =>
    rw [next] at h
    obtain ⟨rfl, rfl, receiver, dispatcher, phase, pushes, between, calls⟩ := h.of_close
    rw [failureAt_of_later next nofun nofun]
    refine .released pushes between 0 List.suffix_rfl rfl receiver dispatcher
      (.inr ⟨phase, List.cons_ne_nil _ _⟩) ?_
    rw [record_calls, calls, List.append_assoc]
    rfl
  | dismissed next =>
    rw [next] at h
    rw [failureAt_of_later next nofun nofun, Option.or_none]
    have more : g ≠ [] := by
      rintro rfl
      exact h.dismiss_not_last
    exact h.part (.inl rfl) rfl rfl rfl rfl (.inr ⟨rfl, more⟩)
  | retired next =>
    rw [next] at h
    rw [failureAt_of_later next nofun nofun, Option.or_none]
    exact h.part (.inr rfl) rfl rfl rfl rfl (.inl rfl)

/-- A connected session is being served. -/
theorem Stage.serving_of_streaming {f : Option SessionError} (h : Stage s c g f)
    (connected : s.phase = .streaming) (complete : g = []) :
    s.connected = true ∧ s.receiver ≠ .absent ∧ s.dispatcher ≠ .absent ∧
      ∃ pushes, c.calls = s.config.service pushes := by
  have other {p : Prop} (phase : s.phase ≠ .streaming) : p := absurd connected phase
  cases h with
  | serving pushes _ connected receiver dispatcher _ calls =>
    exact ⟨connected, receiver, dispatcher, pushes, calls⟩
  | unconnected unconnected =>
    exact other (by rcases unconnected.phase with phase | phase <;> simp [phase])
  | dialling _ _ phase | dialled _ _ phase | refused _ _ _ phase | streamless _ _ _ phase =>
    exact other (by simp [phase])
  | registering _ _ rest => exact absurd complete rest
  | hungUp _ _ agenda =>
    rw [complete] at agenda
    cases agenda
  | released _ _ _ _ _ _ _ phase =>
    rcases phase with phase | ⟨-, more⟩
    · exact other (by simp [phase])
    · exact absurd complete more

/-- A release begins within a stage. -/
theorem Stage.depart {f : Option SessionError}
    (h : Stage d.session d.coordinator d.agenda f) (idle : d.agenda = []) :
    Stage d.session d.coordinator d.session.departure f := by
  cases h with
  | unconnected unconnected =>
    obtain ⟨-, resting, phase, calls⟩ := unconnected
    exact .unconnected ⟨parting_of_unconnected resting.connected, resting, phase, calls⟩
  | dialling agenda | dialled agenda | hungUp _ _ agenda =>
    rw [idle] at agenda
    cases agenda
  | registering before agenda rest => exact absurd idle rest
  | serving pushes agenda connected receiver dispatcher phase calls =>
    exact .serving pushes (.inr (d.session.departure_of_connected connected)) connected receiver
      dispatcher phase calls
  | refused cause agenda resting phase calls =>
    exact .refused cause (parting_of_unconnected resting.connected) resting phase calls
  | streamless cause agenda resting phase calls =>
    exact .streamless cause (parting_of_unconnected resting.connected) resting phase calls
  | released pushes between behind agenda connected receiver dispatcher phase calls =>
    refine .released pushes between behind (parting_of_unconnected connected) connected receiver
      dispatcher (.inl ?_) calls
    exact phase.resolve_right fun streaming => streaming.2 idle

/-! ## Runs -/

/-- An errand of a session that parts only dismisses the tasks or closes the session. -/
theorem Change.parts (h : d.Change .carryOn s c g ended) (parting : Parting d.agenda) :
    Parting g ∧ c = d.coordinator ∧ s.connected = d.session.connected ∧
      s.receiver = d.session.receiver ∧ s.dispatcher = d.session.dispatcher ∧
      (s.phase = d.session.phase ∨ s.phase = .closed) ∧
      (s.dismissed = d.session.dismissed ∨ s.dismissed = true) := by
  cases h with
  | dismissed next => exact ⟨(parting.next next).2, rfl, rfl, rfl, rfl, .inl rfl, .inr rfl⟩
  | retired next => exact ⟨(parting.next next).2, rfl, rfl, rfl, rfl, .inr rfl, .inl rfl⟩
  | refused next | dialled next | streamless next | opened next | started next | hungUp next
  | parted next => exact (parting.absurd_next next nofun nofun).elim
  | asked next lenient =>
    refine (parting.absurd_next next ?_ ?_).elim <;>
    · rintro rfl
      cases lenient

theorem Unconnected.step {a : Act} (h : Unconnected d.session d.coordinator d.agenda)
    (change : d.Change a s c g ended) (other : a.isConnect = false) : Unconnected s c g := by
  have ⟨agenda, resting, phase, calls⟩ := h
  cases own : a.isCommand with
  | false => exact (change.frame own).unconnected h
  | true =>
    have parts := parting_of_unconnected resting.connected
    cases a with
    | beginConnect => cases other
    | carryOn =>
      obtain ⟨left, rfl, connected, receiver, dispatcher, now, -⟩ := change.parts agenda
      refine ⟨left, ⟨connected.trans resting.connected, receiver.trans resting.receiver,
        dispatcher.trans resting.dispatcher⟩, ?_, calls⟩
      rcases now with same | closed
      · rw [same]
        exact phase
      · exact .inr closed
    | disconnect =>
      cases change
      exact ⟨parts, resting, phase, calls⟩
    | closeEnded =>
      cases change
      exact ⟨parts, resting, phase, calls⟩
    | _ => cases own

theorem Change.config {a : Act} (h : d.Change a s c g ended) :
    s.config = d.session.config := by
  cases own : a.isCommand with
  | false => exact (h.frame own).config
  | true => cases h <;> first | rfl | cases own

theorem run_config (acts : List Act) {d d' : Dialogue} (run : run? acts d = some d') :
    d'.session.config = d.session.config :=
  run_keeps (fun e => e.session.config = d.session.config) (fun _ => True)
    (fun _ _ _ _ same h => (act_change h).config.trans same) acts d d' (fun _ _ => trivial) rfl run

theorem failureAt_of_other {a : Act} (h : a ≠ .carryOn) : d.failureAt? a = none := by
  cases a <;> first | rfl | exact absurd rfl h

/-- Connecting is begun once at most; every other act leads from stage to stage. -/
theorem Stage.step {a : Act} {f : Option SessionError}
    (h : Stage d.session d.coordinator d.agenda f) (change : d.Change a s c g ended)
    (first : a.isConnect = true → Unconnected d.session d.coordinator d.agenda) :
    Stage s c g (f.or (d.failureAt? a)) := by
  cases own : a.isCommand with
  | false =>
    have other : a ≠ .carryOn := by
      rintro rfl
      cases own
    rw [failureAt_of_other other, Option.or_none]
    exact h.of_frame (change.frame own)
  | true =>
    cases a with
    | beginConnect =>
      cases change with
      | began idle =>
        obtain ⟨-, resting, -, calls⟩ := first rfl
        cases h with
        | unconnected => exact .dialling rfl ⟨resting.1, resting.2, resting.3⟩ rfl calls
        | dialling agenda | dialled agenda | hungUp _ _ agenda =>
          rw [idle] at agenda
          cases agenda
        | registering _ _ rest => exact absurd idle rest
        | serving _ _ connected =>
          rw [resting.connected] at connected
          cases connected
        | released _ _ _ _ _ receiver => exact absurd resting.receiver receiver
        | refused _ _ _ _ made | streamless _ _ _ _ made =>
          rw [calls] at made
          cases made
    | carryOn => exact h.carryOn change
    | disconnect =>
      cases change with
      | disconnected idle =>
        rw [failureAt_of_other (by simp), Option.or_none]
        exact h.depart idle
    | closeEnded =>
      cases change with
      | closed idle gone =>
        rw [failureAt_of_other (by simp), Option.or_none]
        exact h.depart idle
    | _ => cases own

theorem Unconnected.run (acts : List Act) {d d' : Dialogue}
    (h : Unconnected d.session d.coordinator d.agenda) (none : connects acts = 0)
    (run : run? acts d = some d') : Unconnected d'.session d'.coordinator d'.agenda := by
  induction acts generalizing d with
  | nil =>
    cases run
    exact h
  | cons a as ih =>
    obtain ⟨e, he, hr⟩ := Option.bind_eq_some_iff.mp run
    obtain ⟨other, none⟩ := other_of_connects none
    exact ih (h.step (act_change he) other) none hr

theorem unconnected_new (config : SessionConfig) (behaviour : Behaviour) (store : LinkStore) :
    Unconnected ((new config behaviour).setStore store).session
      ((new config behaviour).setStore store).coordinator
      ((new config behaviour).setStore store).agenda :=
  ⟨parting_nil, ⟨rfl, rfl, rfl⟩, .inl rfl, rfl⟩

def exampleConfig : SessionConfig :=
  { address := "10.0.0.1:6000", credentials := ⟨"1-ff00:0:110", "edge", "secret"⟩
    interfaces := [⟨"vlan1", "10.0.0.2", 50000, 50010⟩]
    policies :=
      [{ vlan := "vlan1", accept := true, peerAsn := some "1-ff00:0:111", peerOwner := none
         peerIsd := none },
       { vlan := "vlan2", accept := false, peerAsn := none, peerOwner := none, peerIsd := none }]
    backlogWarn := 8 }

/-- A session that is to do these acts and connects at most once in its life. -/
structure Staged (acts : List Act) (d : Dialogue) (f : Option SessionError) : Prop where
  stage : Stage d.session d.coordinator d.agenda f
  once : connects acts ≤ 1
  fresh : connects acts = 1 → Unconnected d.session d.coordinator d.agenda

theorem Staged.step {a : Act} {as : List Act} {d e : Dialogue} {f : Option SessionError}
    (h : Staged (a :: as) d f) (he : d.act? a = some e) :
    Staged as e (f.or (d.failureAt? a)) := by
  obtain ⟨stage, once, fresh⟩ := h
  have change := act_change he
  rw [connects_cons] at once fresh
  cases begins : a.isConnect with
  | true =>
    rw [begins, if_pos rfl] at once fresh
    refine ⟨stage.step change fun _ => fresh (by omega), by omega, fun one => ?_⟩
    omega
  | false =>
    rw [begins, if_neg Bool.false_ne_true] at once fresh
    refine ⟨stage.step change fun again => ?_, once, fun one => (fresh one).step change begins⟩
    rw [begins] at again
    cases again

/-- The stage of a session depends on how connecting went. -/
theorem Staged.run (acts : List Act) {d d' : Dialogue} {f : Option SessionError}
    (h : Staged acts d f) (run : run? acts d = some d') :
    Stage d'.session d'.coordinator d'.agenda (f.or (failure? acts d)) := by
  induction acts generalizing d f with
  | nil =>
    cases run
    rw [failure?, Option.or_none]
    exact h.stage
  | cons a as ih =>
    obtain ⟨e, he, hr⟩ := Option.bind_eq_some_iff.mp run
    rw [failure?, he, ← Option.or_assoc]
    exact ih (h.step he) hr

end PeeringAgent.Dialogue
