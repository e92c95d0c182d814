import PeeringAgent.Proofs.Dialogue.Pipe

/-!
# Conservation of updates

What has come over the stream is still on it, has been read into a queue or has been
taken from there, in the same order and once, whatever receiver and dispatcher do in
between. A dispatcher that goes down or is stopped takes nothing more; one that has only
been told to stop may go on for a while.
-/

set_option autoImplicit false

namespace PeeringAgent.Dialogue

open SessionConfig Coordinator

variable {d e d' : Dialogue} {s : Session} {c : Coordinator} {g : List Errand}
  {ended : List StreamEnded} {a : Act} {as : List Act}

/-! ## The stream -/

/-- What has come and not been read, and what a run still brings. -/
def unread (c : Coordinator) (acts : List Act) : List Wire.StreamResponse :=
  readable c.inbox ++ if c.isOpen then heard acts else []

theorem unread_of_shut {acts : List Act} (nothing : readable c.inbox = [])
    (shut : c.isOpen = false) : unread c acts = [] := by
  rw [unread, nothing, shut]
  rfl

theorem unread_put (arrival : Arrival) :
    unread (c.put arrival).1 as = unread c (.arrive arrival :: as) := by
  cases reaches : c.reaches with
  | false =>
    have shut : c.isOpen = false := by rw [isOpen, reaches, Bool.false_and]
    rw [put_fst_of_not_reaches _ _ reaches, unread, unread, shut]
    rfl
  | true =>
    have readers : c.isOpen = c.inbox.all fun a => a.message?.isSome := by
      rw [isOpen, reaches, Bool.true_and]
    rw [put, if_pos reaches, unread, unread, isOpen_append, readable_append, ← readers]
    cases c.isOpen <;> cases arrival <;> simp [readable, heard, Arrival.message?]

/-- The end of the reading loses what has not been read. -/
theorem unread_dropStream (c : Coordinator) (as : List Act) : c.dropStream = c ∨
    c.dropStream.stream = .dropped ∧ unread c.dropStream as = [] := by
  by_cases taken : c.stream = .taken
  · right
    rw [dropStream, if_pos taken]
    exact ⟨rfl, unread_of_shut rfl (by simp [isOpen, reaches])⟩
  · left
    rw [dropStream, if_neg taken]

/-- A message that is read leaves the stream; what is lost is lost at the end of it. -/
theorem Effect.unread {m : Move} (h : d.Effect m s c ended) (as : List Act) :
    d.reads (.move m) ++ unread c as = unread d.coordinator as ∨
      c.stream = .dropped ∧ d.reads (.move m) ++ Dialogue.unread c as <+:
        Dialogue.unread d.coordinator as := by
  have read {m : Wire.StreamResponse} {rest : List Arrival}
      (next : d.coordinator.inbox = .message m :: rest) :
      [m] ++ Dialogue.unread { d.coordinator with inbox := rest } as =
        Dialogue.unread d.coordinator as := by
    rw [Dialogue.unread, Dialogue.unread, isOpen_read next, next, readable]
    rfl
  cases h with
  | queuedArbitration reading next | queuedDirective reading next | ignored reading next =>
    rw [reads_of_message next]
    exact .inl (read next)
  | @orphaned m rest reading next =>
    rw [reads_of_message next, ← read next]
    rcases unread_dropStream { d.coordinator with inbox := rest } as with
      same | ⟨dropped, nothing⟩
    · exact .inl (by rw [same])
    · refine .inr ⟨dropped, ?_⟩
      rw [nothing]
      exact (List.prefix_append_right_inj _).mpr List.nil_prefix
  | failed reading next =>
    have none : Dialogue.unread d.coordinator as = [] :=
      unread_of_shut (by rw [next, readable]) (by simp [isOpen, next, Arrival.message?])
    rw [reads, next]
    rcases unread_dropStream d.coordinator as with same | ⟨dropped, nothing⟩
    · exact .inl (by rw [same]; rfl)
    · exact .inl (by rw [nothing, none]; rfl)
  | finished reading empty gone =>
    have none : Dialogue.unread d.coordinator as = [] :=
      unread_of_shut (by rw [empty, readable]) (by simp [isOpen, reaches, gone])
    rw [reads, empty]
    rcases unread_dropStream d.coordinator as with same | ⟨dropped, nothing⟩
    · exact .inl (by rw [same]; rfl)
    · exact .inl (by rw [nothing, none]; rfl)
  | demoted | promoted | pushed | heldUp | panicked | applied | resumed | arbitrationsClosed
  | directivesClosed | stopped => exact .inl rfl

theorem Change.unread (h : d.Change a s c g ended) (as : List Act) :
    d.reads a ++ unread c as = unread d.coordinator (a :: as) ∨
      c.stream = .dropped ∧ d.reads a ++ Dialogue.unread c as <+:
        Dialogue.unread d.coordinator (a :: as) := by
  cases h with
  | moved effect => exact effect.unread as
  | arrived a => exact .inl (unread_put a)
  | finished =>
    left
    have shut : d.coordinator.finish.1.isOpen = false := by simp [isOpen, reaches, finish]
    have same : readable d.coordinator.finish.1.inbox = readable d.coordinator.inbox := rfl
    show Dialogue.unread _ as = _
    rw [Dialogue.unread, Dialogue.unread, shut, same]
    cases d.coordinator.isOpen <;> rfl
  | opened next success =>
    left
    have offered := offered_of_openable success
    have still : ({ d.coordinator with stream := .taken } : Coordinator).isOpen =
        d.coordinator.isOpen := by
      rw [isOpen, isOpen, reaches, reaches, offered]
      rfl
    show readable d.coordinator.inbox ++
      (if ({ d.coordinator with stream := .taken } : Coordinator).isOpen then heard as else []) = _
    rw [still]
    rfl
  | receiverCancelled =>
    rcases unread_dropStream d.coordinator as with same | ⟨dropped, nothing⟩
    · exact .inl (by rw [same]; rfl)
    · refine .inr ⟨dropped, ?_⟩
      rw [nothing]
      exact List.nil_prefix
  | began | refused | dialled | streamless | asked | started | disconnected | closed | hungUp
  | parted | dismissed | retired | behaved | heldBack | letGo | crashed | dispatcherCancelled
  | reconciled | unsupervised => exact .inl rfl

/-- A stream that has been dropped stays so. -/
theorem Change.dropped (h : d.Change a s c g ended) (gone : d.coordinator.stream = .dropped) :
    c.stream = .dropped := by
  have still (c : Coordinator) (gone : c.stream = .dropped) : c.dropStream.stream = .dropped := by
    rw [dropStream, if_neg (by simp [gone])]
    exact gone
  cases h with
  | moved effect =>
    cases effect with
    | orphaned => exact still _ gone
    | failed => exact still _ gone
    | finished => exact still _ gone
    | queuedArbitration | queuedDirective | ignored | demoted | promoted | pushed | heldUp
    | panicked | applied | resumed | arbitrationsClosed | directivesClosed | stopped =>
      exact gone
  | opened next success =>
    have offered := offered_of_openable success
    rw [gone] at offered
    cases offered
  | receiverCancelled => exact still _ gone
  | arrived a => exact (put_stream _ a).trans gone
  | began | refused | dialled | streamless | asked | started | disconnected | closed | hungUp
  | parted | dismissed | retired | finished | behaved | heldBack | letGo | crashed
  | dispatcherCancelled | reconciled | unsupervised => exact gone

/-- A run reads what has come and what it brings, up to some place; while the stream is
there the rest is still to be read. -/
theorem received_run (acts : List Act) (run : run? acts d = some d') :
    received acts d <+: unread d.coordinator acts ∧
      (d'.coordinator.stream ≠ .dropped →
        received acts d ++ readable d'.coordinator.inbox = unread d.coordinator acts) := by
  induction acts generalizing d with
  | nil =>
    cases run
    refine ⟨List.nil_prefix, fun _ => ?_⟩
    rw [unread, heard]
    split <;> exact (List.append_nil _).symm
  | cons a as ih =>
    obtain ⟨e, he, hr⟩ := Option.bind_eq_some_iff.mp run
    obtain ⟨before, rest⟩ := ih hr
    have change := act_change he
    rw [received_cons he]
    rcases change.unread as with same | ⟨dropped, part⟩
    · rw [← same]
      refine ⟨(List.prefix_append_right_inj _).mpr before, fun on => ?_⟩
      rw [List.append_assoc, rest on]
    · have gone : d'.coordinator.stream = .dropped :=
        run_keeps (fun f => f.coordinator.stream = .dropped) (fun _ => True)
          (fun _ _ _ _ gone hf => (act_change hf).dropped gone) as e d' (fun _ _ => trivial)
          dropped hr
      exact ⟨((List.prefix_append_right_inj _).mpr before).trans part, fun on => absurd gone on⟩

/-! ## The account -/

/-- No task moves before the stream has been opened. -/
theorem Attended.of_effect {m : Move} (h : Attended d.session d.coordinator d.agenda)
    (effect : d.Effect m s c ended) : d.coordinator.stream ≠ .offered := by
  cases effect with
  | queuedArbitration reading | queuedDirective reading | ignored reading | orphaned reading
  | failed reading | finished reading => exact h.receiver (by simp [reading])
  | demoted now | promoted now | pushed now | heldUp now | panicked now | applied now
  | resumed now | arbitrationsClosed now | directivesClosed now | stopped now =>
    exact h.dispatcher (by simp [now])

/-- What has been read, applied and dispatched, against the queues. -/
structure Ledger (s : Session) (c : Coordinator) (g : List Errand)
    (got : List Wire.StreamResponse) (applied : List LinkDirective)
    (dispatched : List Wire.ArbitrationUpdate) : Prop where
  attended : Attended s c g
  fresh : c.stream = .offered → got = [] ∧ applied = [] ∧ dispatched = []
  directives : Pipe s s.directives s.directivesWatched (got.filterMap (·.directive?)) applied
  arbitrations :
    Pipe s s.arbitrations s.arbitrationsWatched (got.filterMap (·.arbitration?)) dispatched

variable {got : List Wire.StreamResponse} {dones : List LinkDirective}
  {adopted : List Wire.ArbitrationUpdate}

/-- What leaves both tasks and both queues alone keeps the account. -/
theorem Ledger.same (h : Ledger d.session d.coordinator d.agenda got dones adopted)
    (attended : Attended s c g) (stream : c.stream = d.coordinator.stream)
    (receiver : s.receiver = d.session.receiver) (dispatcher : s.dispatcher = d.session.dispatcher)
    (directives : s.directives = d.session.directives)
    (directivesWatched : s.directivesWatched = d.session.directivesWatched)
    (arbitrations : s.arbitrations = d.session.arbitrations)
    (arbitrationsWatched : s.arbitrationsWatched = d.session.arbitrationsWatched) :
    Ledger s c g got dones adopted := by
  refine ⟨attended, fun offered => h.fresh (stream ▸ offered), ?_, ?_⟩
  · rw [directives, directivesWatched]
    exact h.directives.same receiver dispatcher
  · rw [arbitrations, arbitrationsWatched]
    exact h.arbitrations.same receiver dispatcher

/-- A session that has lost its dispatcher keeps what it has taken. -/
theorem Ledger.lost (h : Ledger d.session d.coordinator d.agenda got dones adopted)
    (attended : Attended s c g) (stream : c.stream = .offered → d.coordinator.stream = .offered)
    (dead : s.delivers = false) : Ledger s c g got dones adopted := by
  have still (on : s.delivers = true) : d.session.delivers = true := by
    rw [dead] at on
    cases on
  exact ⟨attended, fun offered => h.fresh (stream offered),
    h.directives.quiet (.lost dead List.nil_prefix) still,
    h.arbitrations.quiet (.lost dead List.nil_prefix) still⟩

theorem Ledger.effect {m : Move} (h : Ledger d.session d.coordinator d.agenda got dones adopted)
    (attended : Attended s c d.agenda) (effect : d.Effect m s c ended) :
    Ledger s c d.agenda (got ++ d.reads (.move m)) (dones ++ d.applies (.move m))
      (adopted ++ d.takes (.move m)) := by
  have opened := effect.stream (h.attended.of_effect effect)
  refine ⟨attended, fun offered => absurd offered opened, ?_, ?_⟩
  · rw [List.filterMap_append]
    exact h.directives.turn (effect.directivesTurn h.arbitrations h.directives) effect.still
      fun off => (takes_of_busy (.moved effect) (not_waiting_of_lost off)).2
  · rw [List.filterMap_append]
    exact h.arbitrations.turn (effect.arbitrationsTurn h.arbitrations h.directives) effect.still
      fun off => (takes_of_busy (.moved effect) (not_waiting_of_lost off)).1

/-- Opening the stream starts with empty queues and nothing to account for. -/
theorem Ledger.opened (h : Ledger d.session d.coordinator d.agenda got dones adopted)
    (attended : Attended d.session.startReceiver
      { d.coordinator.record .openStream with stream := .taken } g)
    (success : d.coordinator.openError = none) :
    Ledger d.session.startReceiver { d.coordinator.record .openStream with stream := .taken } g
      got dones adopted := by
  have offered := offered_of_openable success
  obtain ⟨rfl, rfl, rfl⟩ := h.fresh offered
  have off : d.session.dispatcher = .absent :=
    Decidable.byContradiction fun on => h.attended.dispatcher on offered
  exact ⟨attended, fun _ => ⟨rfl, rfl, rfl⟩, pipe_empty _ _ off, pipe_empty _ _ off⟩

theorem Ledger.started {rest : List Errand}
    (h : Ledger d.session d.coordinator d.agenda got dones adopted)
    (attended : Attended d.session.startDispatcher d.coordinator rest)
    (next : d.agenda = .startDispatcher :: rest) :
    Ledger d.session.startDispatcher d.coordinator rest got dones adopted := by
  have off := (h.attended.of_start next).1
  have on : d.session.delivers = true := by rw [Session.delivers, off]
  exact ⟨attended, h.fresh, h.directives.quiet (.watch rfl) fun _ => on,
    h.arbitrations.quiet (.watch rfl) fun _ => on⟩

/-- A receiver that is stopped leaves the queues as they are. -/
theorem Ledger.muted (h : Ledger d.session d.coordinator d.agenda got dones adopted)
    (attended : Attended d.session.cancelReceiver d.coordinator.dropStream g)
    (reading : d.session.receiver = .reading) :
    Ledger d.session.cancelReceiver d.coordinator.dropStream g got dones adopted := by
  have opened := dropStream_stream (h.attended.receiver (by simp [reading]))
  have spent : d.session.cancelReceiver.receiver ≠ .reading := by simp [Session.cancelReceiver]
  exact ⟨attended, fun offered => absurd offered opened,
    h.directives.quiet (.deaf reading spent id) id,
    h.arbitrations.quiet (.deaf reading spent id) id⟩

theorem Ledger.step (h : Ledger d.session d.coordinator d.agenda got dones adopted)
    (change : d.Change a s c g ended) :
    Ledger s c g (got ++ d.reads a) (dones ++ d.applies a) (adopted ++ d.takes a) := by
  have attended := h.attended.step change
  have none (settled : Ledger s c g got dones adopted) :
      Ledger s c g (got ++ []) (dones ++ []) (adopted ++ []) := by
    rwa [List.append_nil, List.append_nil, List.append_nil]
  cases change with
  | moved effect => exact h.effect attended effect
  | opened next success => exact none (h.opened attended success)
  | started next => exact none (h.started attended next)
  | crashed => exact none (h.lost attended id rfl)
  | dispatcherCancelled => exact none (h.lost attended id rfl)
  | receiverCancelled gone reading => exact none (h.muted attended reading)
  | arrived a => exact none (h.same attended (put_stream _ a) rfl rfl rfl rfl rfl rfl)
  | began | refused | dialled | streamless | asked | disconnected | closed | hungUp | parted
  | dismissed | retired | finished | behaved | heldBack | letGo | reconciled | unsupervised =>
    exact none (h.same attended rfl rfl rfl rfl rfl rfl rfl)

theorem Ledger.run (acts : List Act)
    (h : Ledger d.session d.coordinator d.agenda got dones adopted) (run : run? acts d = some d') :
    Ledger d'.session d'.coordinator d'.agenda (got ++ received acts d) (dones ++ applied acts d)
      (adopted ++ dispatched acts d) := by
  induction acts generalizing d got dones adopted with
  | nil =>
    cases run
    show Ledger _ _ _ (got ++ []) (dones ++ []) (adopted ++ [])
    rwa [List.append_nil, List.append_nil, List.append_nil]
  | cons a as ih =>
    obtain ⟨e, he, hr⟩ := Option.bind_eq_some_iff.mp run
    have next := ih (h.step (act_change he)) hr
    rw [received_cons he, applied_cons he, dispatched_cons he, ← List.append_assoc,
      ← List.append_assoc, ← List.append_assoc]
    exact next

theorem ledger_new (config : SessionConfig) (behaviour : Behaviour) (store : LinkStore) :
    Ledger ((new config behaviour).setStore store).session
      ((new config behaviour).setStore store).coordinator
      ((new config behaviour).setStore store).agenda [] [] [] :=
  ⟨attended_new config behaviour store, fun _ => ⟨rfl, rfl, rfl⟩, pipe_empty _ _ rfl,
    pipe_empty _ _ rfl⟩

theorem store_run (acts : List Act) (run : run? acts d = some d') :
    d'.session.store = LinkStore.run (history acts d) d.session.store := by
  induction acts generalizing d with
  | nil =>
    cases run
    rfl
  | cons a as ih =>
    obtain ⟨e, he, hr⟩ := Option.bind_eq_some_iff.mp run
    rw [history_cons he, LinkStore.run_append, ← (act_change he).store]
    exact ih hr

/-! ## The receiver does not wait -/

theorem reading_of_receive (he : d.act? (.move .receive) = some e) :
    d.session.receiver = .reading := by
  refine Decidable.byContradiction fun off => ?_
  rw [act?, move?, receive?, if_neg off] at he
  cases he

/-- A message that is next is read, whatever the dispatcher does. -/
theorem receive_of_message {m : Wire.StreamResponse} {rest : List Arrival}
    (reading : d.session.receiver = .reading)
    (next : d.coordinator.inbox = .message m :: rest) :
    d.act? (.move .receive) = some ((d.read rest).hear m) := by
  rw [act?, move?, receive?, if_pos reading, next]
  rfl

/-- With both queues open the receiver goes on reading, and the dispatcher stays as it is. -/
theorem hear_open (m : Wire.StreamResponse)
    (arbitrations : d.session.arbitrations.receiverOpen = true)
    (directives : d.session.directives.receiverOpen = true) :
    (d.hear m).coordinator = d.coordinator ∧
      (d.hear m).session.receiver = d.session.receiver ∧
      (d.hear m).session.dispatcher = d.session.dispatcher ∧
      (d.hear m).session.arbitrations.receiverOpen = true ∧
      (d.hear m).session.directives.receiverOpen = true := by
  cases m with
  | arbitration u =>
    have same := queueArbitration_of_listener (d := d) u arbitrations
    have kept := (send_of_listener u arbitrations).2.receiver.trans arbitrations
    have coordinator := congrArg Dialogue.coordinator same
    have session := congrArg Dialogue.session same
    simp only [mute] at coordinator session
    rw [hear, coordinator, session]
    exact ⟨rfl, rfl, rfl, kept, directives⟩
  | linkUpdate u =>
    cases valid : LinkDirective.ofUpdate u with
    | error e =>
      simp only [hear, valid]
      exact ⟨rfl, rfl, rfl, arbitrations, directives⟩
    | ok directive =>
      have same := queueDirective_of_listener (d := d) directive directives
      have kept := (send_of_listener directive directives).2.receiver.trans directives
      have coordinator := congrArg Dialogue.coordinator same
      have session := congrArg Dialogue.session same
      simp only [mute] at coordinator session
      simp only [hear, valid]
      rw [coordinator, session]
      exact ⟨rfl, rfl, rfl, arbitrations, kept⟩
  | error notice => exact ⟨rfl, rfl, rfl, arbitrations, directives⟩

/-- All that has come can be read at one go. -/
theorem run_receive (ms : List Wire.StreamResponse) (rest : List Arrival)
    (reading : d.session.receiver = .reading)
    (arbitrations : d.session.arbitrations.receiverOpen = true)
    (directives : d.session.directives.receiverOpen = true)
    (waiting : d.coordinator.inbox = ms.map .message ++ rest) :
    ∃ e, run? (List.replicate ms.length (.move .receive)) d = some e ∧
      received (List.replicate ms.length (.move .receive)) d = ms ∧
      e.coordinator.inbox = rest ∧ e.session.receiver = .reading ∧
      e.session.dispatcher = d.session.dispatcher := by
  induction ms generalizing d with
  | nil => exact ⟨d, rfl, rfl, waiting, reading, rfl⟩
  | cons m ms ih =>
    have next : d.coordinator.inbox = .message m :: (ms.map .message ++ rest) := waiting
    have he := receive_of_message reading next
    obtain ⟨coordinator, still, same, first, second⟩ :=
      hear_open (d := d.read (ms.map .message ++ rest)) m arbitrations directives
    obtain ⟨e, run, all, inbox, goesOn, dispatcher⟩ :=
      ih (still.trans reading) first second (by rw [coordinator]; rfl)
    refine ⟨e, ?_, ?_, inbox, goesOn, dispatcher.trans same⟩
    · rw [List.length_cons, List.replicate_succ, run?, he]
      exact run
    · rw [List.length_cons, List.replicate_succ, received_cons he, all, reads_of_message next]
      rfl

/-- What becomes of the updates of a run. -/
structure Conserved (start : Dialogue) (acts : List Act) (d : Dialogue) : Prop where
  store : d.session.store = LinkStore.run (history acts start) start.session.store
  /-- The receiver reads what has come, in order and without a gap. -/
  arrived : received acts start <+: heard acts
  pending : d.coordinator.stream ≠ .dropped →
    received acts start ++ readable d.coordinator.inbox = heard acts
  applied : Dialogue.applied acts start <+: (received acts start).filterMap (·.directive?)
  dispatched : Dialogue.dispatched acts start <+:
    (received acts start).filterMap (·.arbitration?)
  /-- Until the dispatcher goes down or is stopped, whatever has been read is applied or
  queued. -/
  directives : d.session.delivers = true →
    Dialogue.applied acts start ++ d.session.directives.waiting =
      (received acts start).filterMap (·.directive?)
  arbitrations : d.session.delivers = true →
    Dialogue.dispatched acts start ++ d.session.arbitrations.waiting =
      (received acts start).filterMap (·.arbitration?)
  /-- A message that is next can be read, whatever the dispatcher does. -/
  reads : d.session.receiver = .reading → ∀ m rest,
    d.coordinator.inbox = .message m :: rest → (d.act? (.move .receive)).isSome = true
  /-- So can any number of them, while the dispatcher does nothing. -/
  readsOn : d.session.receiver = .reading → d.session.delivers = true → ∀ ms rest,
    d.coordinator.inbox = ms.map .message ++ rest →
    ∃ e, run? (List.replicate ms.length (.move .receive)) d = some e ∧
      received (List.replicate ms.length (.move .receive)) d = ms ∧
      e.coordinator.inbox = rest ∧ e.session.receiver = .reading ∧
      e.session.dispatcher = d.session.dispatcher
  /-- Once the dispatcher is over, nothing is taken any more. -/
  halted : ∀ before after e, acts = before ++ after → run? before start = some e →
    e.session.dispatcher.isOver = true → e.session.dispatcher ≠ .absent →
    Dialogue.applied after e = [] ∧ Dialogue.dispatched after e = []
  /-- So nothing is taken after a release that has waited for the tasks. -/
  awaited : ∀ before after e, acts = before ++ .closeEnded :: after →
    run? before start = some e → e.session.dismissed = false → connects after = 0 →
    Dialogue.applied (.closeEnded :: after) e = [] ∧
      Dialogue.dispatched (.closeEnded :: after) e = []
  /-- A dispatcher that has been told to stop can do so wherever it waits. -/
  stoppable : d.session.dismissed = true → d.session.dispatcher.pauses = true →
    ∃ e, d.act? .cancelDispatcher = some e ∧ e.session.dispatcher.isOver = true

/-- Under every schedule, and whatever brings the tasks to their end, no update is lost,
doubled or overtaken on its way from the stream to the store. -/
theorem conserved_of_run (config : SessionConfig) (behaviour : Behaviour) (store : LinkStore)
    (acts : List Act) (d : Dialogue)
    (run : run? acts ((new config behaviour).setStore store) = some d) :
    Conserved ((new config behaviour).setStore store) acts d := by
  have fresh := ledger_new config behaviour store
  have all : unread ((new config behaviour).setStore store).coordinator acts = heard acts := rfl
  generalize (new config behaviour).setStore store = start at run fresh all ⊢
  have ledger := fresh.run acts run
  obtain ⟨arrived, pending⟩ := received_run acts run
  rw [all] at arrived pending
  constructor
  case store => exact store_run acts run
  case arrived => exact arrived
  case pending => exact pending
  case applied => exact ledger.directives.before
  case dispatched => exact ledger.arbitrations.before
  case directives => exact ledger.directives.whole
  case arbitrations => exact ledger.arbitrations.whole
  case reads =>
    intro reading m rest next
    rw [receive_of_message reading next]
    rfl
  case readsOn =>
    intro reading on ms rest waiting
    exact run_receive ms rest reading (ledger.arbitrations.reading on reading).2
      (ledger.directives.reading on reading).2 waiting
  case halted =>
    intro before after e split part spent present
    rw [split] at run
    have halted :=
      (fresh.run before part).attended.halt_run after spent present (run_split run part)
    exact ⟨halted.2.2.2, halted.2.2.1⟩
  case awaited =>
    intro before after e split part held none
    rw [split] at run
    have halted := halt_of_closeEnded held none (run_split run part)
    exact ⟨halted.2.2.2, halted.2.2.1⟩
  case stoppable =>
    intro told pauses
    exact ⟨_, by rw [act?, cancelDispatcher?, if_pos ⟨told, pauses⟩], rfl⟩

def exampleUpdate (kind : Wire.UpdateKind) : Wire.LinkUpdate :=
  { updateKind := kind, linkKind := .core, peerAsn := "1-ff00:0:111"
    local? := some ⟨"10.0.0.2", 50000⟩, remote? := some ⟨"10.0.0.3", 50001⟩ }

/-- Two updates are read while a push is held up; then the dispatcher goes down over them,
and the update that comes after them ends the receiver. -/
def exampleBacklog : List Act :=
  [.beginConnect, .carryOn, .carryOn,
   .arrive (.message (.linkUpdate (exampleUpdate .create))), .move .receive,
   .carryOn, .carryOn, .carryOn, .move .dispatchDirective, .reconcile, .hold,
   .arrive (.message (.arbitration ⟨none, 100, .primary⟩)), .move .receive,
   .move .dispatchArbitration, .move .startPush,
   .arrive (.message (.linkUpdate (exampleUpdate .destroy))),
   .arrive (.message (.arbitration ⟨none, 100, .notPrimary⟩)), .move .receive, .move .receive,
   .crash, .arrive (.message (.linkUpdate (exampleUpdate .create))), .move .receive,
   .closeEnded]

theorem exampleBacklog_conserved :
    ∃ d, run? exampleBacklog ((new exampleConfig .agreeable).setStore .empty) = some d ∧
      Conserved ((new exampleConfig .agreeable).setStore .empty) exampleBacklog d := by
  have possible :
      (run? exampleBacklog ((new exampleConfig .agreeable).setStore .empty)).isSome = true := by
    decide
  obtain ⟨d, run⟩ := Option.isSome_iff_exists.mp possible
  exact ⟨d, run, conserved_of_run _ _ _ _ d run⟩

/-- A link update waits in its queue while the session is disconnected. -/
def exampleStraggler : List Act :=
  [.beginConnect, .carryOn, .carryOn, .carryOn, .carryOn, .carryOn,
   .arrive (.message (.linkUpdate (exampleUpdate .create))), .move .receive,
   .disconnect, .carryOn, .carryOn, .carryOn, .carryOn]

/-- The dispatcher has been told to stop and takes the update nevertheless. -/
theorem exampleStraggler_applies : ∃ e d,
    run? exampleStraggler ((new exampleConfig .agreeable).setStore .empty) = some e ∧
      e.agenda = [] ∧ e.session.phase = .closed ∧
      e.act? (.move .dispatchDirective) = some d ∧
      e.session.store.size = 0 ∧ d.session.store.size = 1 := by
  have possible :
      ((run? exampleStraggler ((new exampleConfig .agreeable).setStore .empty)).any fun e =>
        e.agenda.isEmpty && e.session.phase == .closed && e.session.store.size == 0 &&
        (e.act? (.move .dispatchDirective)).any fun d => d.session.store.size == 1) = true := by
    decide
  obtain ⟨e, run, holds⟩ := (Option.any_eq_true _ _).mp possible
  simp only [Bool.and_eq_true, List.isEmpty_iff, beq_iff_eq] at holds
  obtain ⟨⟨⟨complete, closed⟩, before⟩, later⟩ := holds
  obtain ⟨d, applying, after⟩ := (Option.any_eq_true _ _).mp later
  exact ⟨e, d, run, complete, closed, applying, before, beq_iff_eq.mp after⟩

end PeeringAgent.Dialogue
