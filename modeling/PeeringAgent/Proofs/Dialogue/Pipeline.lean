import PeeringAgent.Proofs.Dialogue.Conservation

/-!
# The pipeline of a session

When the stream of a connected session ends, its tasks come to an end under every
schedule. The session can be released then, and nothing that was on the stream has
been lost: each link update is applied, each primary update has pushed policies.
-/

set_option autoImplicit false

namespace PeeringAgent.Dialogue

open SessionConfig Coordinator

def Act.arrives : Act → Bool
  | .arrive _ => true
  | _ => false

/-- The directives of a run, in the order of their arrival. -/
def directives (acts : List Act) : List LinkDirective :=
  (heard acts).filterMap (·.directive?)

/-- How many updates of a run make the session primary. -/
def promotions (acts : List Act) : Nat :=
  ((heard acts).filterMap (·.arbitration?)).countP (·.isPrimary)

/-- A session that has lost nothing of what a run brought. -/
structure Drained (config : SessionConfig) (store : LinkStore) (acts : List Act)
    (d : Dialogue) : Prop where
  /-- Reconciliations take effect where they ran. -/
  replayed : d.session.store = replay acts (directives acts) store
  applied : (directives acts).length = acts.countP Act.appliesDirective
  unticked : (∀ a ∈ acts, a.reconciles = false) →
    d.session.store = (directives acts).foldl LinkStore.apply store
  calls : d.coordinator.calls = config.service (promotions acts) ++ config.farewell 0 0
  phase : d.session.phase = .closed
  role : d.session.role = .notPrimary

variable {d d' : Dialogue} {acts more : List Act}

theorem workOf_eq (acts : List Act) :
    workOf acts = 4 * acts.countP Act.arrives + 4 * connects acts := by
  induction acts with
  | nil => rfl
  | cons a as ih =>
    have one : a.work = 4 * a.arrives.toNat + 4 * a.isConnect.toNat := by cases a <;> rfl
    rw [workOf, ih, one, connects, connects, countP_cons_toNat, countP_cons_toNat]
    omega

theorem count_service (config : SessionConfig) (pushes : Nat) :
    (config.service pushes).count config.pushCall = pushes := by
  have none : config.pushCall ∉ config.opening := by
    simp [opening, dialCall, bidCall, pushCall]
  rw [service, List.count_append, List.count_eq_zero_of_not_mem none, Nat.zero_add,
    List.count_replicate_self]

/-- Tasks that have come to their end leave nothing behind. -/
theorem flow_of_over (h : Flowing d.session d.coordinator) (receiver : d.session.receiver ≠ .absent)
    (dispatcher : d.session.dispatcher ≠ .absent) (gone : d.session.tasksOver = true) :
    (flow d.session d.coordinator).directives = [] ∧
      (flow d.session d.coordinator).arbitrations = [] := by
  rw [Session.tasksOver, Bool.and_eq_true, bne_iff_ne] at gone
  have deaf : d.session.receiver = .ended := by
    have listening := h.listening
    cases now : d.session.receiver <;> simp_all
  have stopped : d.session.dispatcher = .ended := by
    have up := h.up
    have spent := gone.2
    cases now : d.session.dispatcher <;> simp_all [Dispatcher.isOver]
  obtain ⟨⟨-, inbox⟩, -, -⟩ := h.ended deaf
  obtain ⟨arbitrations, directives⟩ := h.stopped stopped
  rw [flow, inbox, ((isClosed_iff _).mp arbitrations).1, ((isClosed_iff _).mp directives).1]
  exact ⟨rfl, rfl⟩

/-! ## The release -/

/-- Nothing is heard behind the end of the stream. -/
theorem heard_append (gone : acts.any Act.endsStream = true) :
    heard (acts ++ more) = heard acts := by
  induction acts with
  | nil => cases gone
  | cons a as ih =>
    cases a with
    | arrive arrival =>
      cases arrival with
      | message m => exact congrArg (m :: ·) (ih gone)
      | failure e => rfl
    | finish => rfl
    | _ => exact ih gone

/-- Every act that dispatches a directive applies one. -/
theorem countP_applies (acts : List Act) {d d' : Dialogue} (run : run? acts d = some d') :
    acts.countP Act.appliesDirective = (applied acts d).length := by
  induction acts generalizing d with
  | nil => rfl
  | cons a as ih =>
    obtain ⟨e, he, hr⟩ := Option.bind_eq_some_iff.mp run
    rw [countP_cons_toNat, applied_cons he, List.length_append, ih hr, Nat.add_comm]
    congr 1
    cases a with
    | move m =>
      cases m with
      | dispatchDirective =>
        have moves : d.move? .dispatchDirective = some e := he
        have effect := (move_moved moves).effect
        generalize e.session = s, e.coordinator = c, e.ended = ended at effect
        cases effect with
        | applied waiting watched next =>
          rw [applies_of_next next]
          rfl
      | _ => rfl
    | _ => rfl

/-- Where nothing is applied, the store changes only by reconciliations. -/
theorem store_of_unapplied (acts : List Act) {d d' : Dialogue} (run : run? acts d = some d')
    (none : applied acts d = []) : d'.session.store = replay acts [] d.session.store := by
  induction acts generalizing d with
  | nil =>
    cases run
    rfl
  | cons a as ih =>
    obtain ⟨e, he, hr⟩ := Option.bind_eq_some_iff.mp run
    rw [applied_cons he, List.append_eq_nil_iff] at none
    have store := (act_change he).store
    rw [ih hr none.2, store]
    cases a with
    | reconcile => rfl
    | move m =>
      cases m with
      | dispatchDirective =>
        have nothing : d.works (.move .dispatchDirective) = [] := by
          have applies := none.1
          rw [Dialogue.applies, works] at applies
          rw [works]
          cases left : d.session.directives.waiting with
          | nil => rfl
          | cons directive rest => simp [left, LinkStore.Op.directive?] at applies
        rw [nothing]
        rfl
      | _ => rfl
    | _ => rfl

theorem replay_append (acts more : List Act) (directives : List LinkDirective) (store : LinkStore)
    (all : directives.length = acts.countP Act.appliesDirective) :
    replay (acts ++ more) directives store = replay more [] (replay acts directives store) := by
  induction acts generalizing directives store with
  | nil =>
    rw [List.length_eq_zero_iff.mp all]
    rfl
  | cons a as ih =>
    rw [countP_cons_toNat] at all
    cases a with
    | reconcile => exact ih directives _ all
    | move m =>
      cases m with
      | dispatchDirective =>
        cases directives with
        | nil => simp [Act.appliesDirective] at all
        | cons directive directives => exact ih directives _ (Nat.succ.inj all)
      | _ => exact ih directives store all
    | _ => exact ih directives store all

theorem records_service (c : SessionConfig) (pushes : Nat) :
    (c.service pushes).filterMap Call.records? = List.replicate pushes c.records := by
  have none : c.opening.filterMap Call.records? = [] := by
    simp [opening, dialCall, bidCall, Call.records?]
  have made : (List.replicate pushes c.pushCall).filterMap Call.records? =
      List.replicate pushes c.records := List.filterMap_replicate_of_some rfl
  rw [service, List.filterMap_append, none, made]
  rfl

theorem records_farewell (c : SessionConfig) (between behind : Nat) :
    (c.farewell between behind).filterMap Call.records? =
      List.replicate (between + behind) c.records := by
  have made (n : Nat) : (List.replicate n c.pushCall).filterMap Call.records? =
      List.replicate n c.records := List.filterMap_replicate_of_some rfl
  rw [farewell, List.filterMap_cons_none rfl, List.filterMap_append, List.filterMap_cons_none rfl,
    made, made, replicate_append]

/-- A release without another push calls nothing but its own two calls. -/
theorem farewell_of_pushes {c : SessionConfig} {n pushes between behind : Nat}
    (begun : c.service n <+: c.service pushes ++ c.farewell between behind)
    (same : pushes + (between + behind) = n) :
    pushes = n ∧ between = 0 ∧ behind = 0 := by
  obtain ⟨more, rfl⟩ : ∃ more, n = pushes + more := ⟨between + behind, same.symm⟩
  rw [service, service, ← replicate_append, List.append_assoc,
    List.prefix_append_right_inj, List.prefix_append_right_inj] at begun
  cases more with
  | zero => omega
  | succ k =>
    rw [List.replicate_succ, farewell, List.cons_prefix_cons] at begun
    have impossible := begun.1
    simp [pushCall] at impossible

/-- A session whose tasks are over is released with its two calls, whatever else happens. -/
theorem calls_of_release {n : Nat} {after : List Act} {f : Option SessionError}
    (staged : Staged [] d f) (connected : d.session.phase = .streaming)
    (present : d.session.dispatcher ≠ .absent)
    (calls : d.coordinator.calls = d.session.config.service n)
    (none : connects after = 0) (run : run? (.closeEnded :: after) d = some d')
    (halted : d'.session.dispatcher = d.session.dispatcher ∧ d'.pushes = d.pushes)
    (complete : retired (.closeEnded :: after) d = true) :
    d'.coordinator.calls = d.session.config.service n ++ d.session.config.farewell 0 0 ∧
      d'.session.phase = .closed := by
  have few : connects (.closeEnded :: after) = 0 := by
    rw [connects_cons, none]
    rfl
  have here : Staged (.closeEnded :: after) d f :=
    ⟨staged.stage, by omega, fun one => by omega⟩
  have phase := here.phase_run _ few (by simp [connected]) run
  rw [complete, if_pos rfl] at phase
  refine ⟨?_, phase⟩
  have begun := calls_run _ run
  have on : d'.session.dispatcher ≠ .absent := by
    rw [halted.1]
    exact present
  have off {p : Prop} (other : d'.session.phase ≠ .closed) : p := absurd phase other
  have pushes : d'.coordinator.calls.filterMap Call.records? =
      d.coordinator.calls.filterMap Call.records? := halted.2
  have config := run_config _ run
  have stage := here.run _ run
  generalize f.or (failure? (.closeEnded :: after) d) = failure at stage
  cases stage with
  | released pushed between behind _ _ _ _ _ made =>
    rw [made, config, calls, List.filterMap_append, records_service, records_service,
      records_farewell, replicate_append] at pushes
    have same := congrArg List.length pushes
    rw [List.length_replicate, List.length_replicate] at same
    rw [made, config, calls] at begun
    obtain ⟨rfl, rfl, rfl⟩ := farewell_of_pushes begun same
    rw [made, config]
  | unconnected unconnected => exact absurd unconnected.resting.dispatcher on
  | refused _ _ resting | streamless _ _ resting => exact absurd resting.dispatcher on
  | dialling _ _ phase | dialled _ _ phase => exact off (by simp [phase])
  | registering _ _ _ _ _ _ phase => exact off (by simp [phase])
  | serving _ _ _ _ _ phase => exact off (by simp [phase])
  | hungUp _ _ _ _ _ _ phase => exact off (by simp [phase])

/-- A session whose tasks are over can be released at any time. -/
theorem exists_release (idle : d.agenda = []) (gone : d.session.tasksOver = true)
    (connected : d.session.connected = true) :
    ∃ e, run? (.closeEnded :: List.replicate 4 .carryOn) d = some e ∧
      retired (.closeEnded :: List.replicate 4 .carryOn) d = true := by
  have possible : (d.act? .closeEnded).isSome = true := by
    simp [act?, idle, awaitTasks?, gone]
    split <;> rfl
  obtain ⟨m, he⟩ := Option.isSome_iff_exists.mp possible
  have agenda : m.agenda = [.closeSend, .close, .dismiss, .retire] := by
    have change := act_change he
    generalize m.session = s, m.coordinator = c, m.agenda = g, m.ended = ended at change ⊢
    cases change with
    | closed => exact d.session.departure_of_connected connected
  have departing : Departing m.agenda := by
    rw [agenda]
    simp [Departing, Errand.departs]
  obtain ⟨e, run, -, complete⟩ := departing.exists_run
  rw [agenda] at run complete
  refine ⟨e, ?_, ?_⟩
  · rw [run?, he]
    exact run
  · rw [retired_cons he, Bool.or_eq_true]
    exact .inr (complete (by simp))

/-- Once the stream of a connected session is over, its tasks come to their end, whatever
they choose to do first and however long pushes are held up. The session can be released
then, and however that goes it has lost nothing. -/
theorem drained_of_end (config : SessionConfig) (behaviour : Behaviour) (store : LinkStore)
    (acts : List Act) (d : Dialogue) (once : connects acts ≤ 1)
    (quiet : behaviour.policiesPanic = false) (calm : ∀ a ∈ acts, a.isCalm = true)
    (kept : ∀ a ∈ acts, a.isRelease = false)
    (run : run? acts ((new config behaviour).setStore store) = some d)
    (complete : d.agenda = []) (connected : d.session.phase = .streaming)
    (gone : acts.any Act.endsStream = true) :
    acts.countP Act.isMove ≤ 4 * acts.countP Act.arrives + 4 ∧
    (d.Idle → d.session.tasksOver = true ∨
      d.session.dispatcher = .pushing ∧ d.coordinator.held = true) ∧
    (d.session.tasksOver = true →
      (∃ e, run? (.closeEnded :: List.replicate 4 .carryOn) d = some e ∧
        retired (.closeEnded :: List.replicate 4 .carryOn) d = true) ∧
      ∀ after e, connects after = 0 → run? (.closeEnded :: after) d = some e →
        retired (.closeEnded :: after) d = true →
        Drained config store (acts ++ .closeEnded :: after) e) := by
  have sound := sound_new config behaviour store acts once quiet calm kept
  have last := sound.run acts run
  obtain ⟨f, staged⟩ := last.staged
  obtain ⟨on, receiver, dispatcher, pushes, calls⟩ :=
    staged.stage.serving_of_streaming connected complete
  have flowed := flow_run acts sound run
  refine ⟨?_, fun idle => ?_, fun spent => ⟨exists_release complete spent on, ?_⟩⟩
  · have bound := moves_le acts run
    have none : ((new config behaviour).setStore store).workLeft +
        agendaWork ((new config behaviour).setStore store).agenda = 0 := rfl
    rw [none, workOf_eq] at bound
    omega
  · have shut := Flow.run_listening acts flowed
    rw [gone, Bool.not_true, Bool.and_false] at shut
    exact last.flowing.over_of_idle idle receiver shut
  intro after e none released retires
  obtain ⟨noDirectives, noArbitrations⟩ := flow_of_over last.flowing receiver dispatcher spent
  obtain ⟨length, store', pushed⟩ := Flow.run_leaves acts flowed
  rw [noDirectives] at length
  rw [noArbitrations] at pushed
  have applied : (directives acts).length = acts.countP Act.appliesDirective := length
  have replayed : d.session.store = replay acts (directives acts) store := store'
  have same := run_config acts run
  have halted := halt_of_closeEnded last.staying.dismissed none released
  have count : promotions acts = pushes := by
    have still : d.session.pushesDue = 0 := by
      refine Session.pushesDue_of_other fun promoted => ?_
      rw [Session.tasksOver, promoted, Bool.and_eq_true] at spent
      cases spent.2
    have made : (flow d.session d.coordinator).pushes = pushes := by
      show d.coordinator.calls.count d.session.config.pushCall + d.session.pushesDue = pushes
      rw [calls, count_service, still]
      rfl
    have whole : 0 + promotions acts = (flow d.session d.coordinator).pushes + 0 := pushed
    omega
  have heardAll : heard (acts ++ .closeEnded :: after) = heard acts := heard_append gone
  have all : directives (acts ++ .closeEnded :: after) = directives acts := by
    rw [directives, heardAll]
    rfl
  have settled : e.session.store =
      replay (acts ++ .closeEnded :: after) (directives acts) store := by
    rw [store_of_unapplied _ released halted.2.2.2, replay_append acts _ _ _ applied, replayed]
  have everything : (directives acts).length =
      (acts ++ .closeEnded :: after).countP Act.appliesDirective := by
    rw [List.countP_append, countP_applies _ released, halted.2.2.2]
    exact applied
  obtain ⟨made, phase⟩ := calls_of_release staged connected dispatcher calls none released
    ⟨halted.1, halted.2.1⟩ retires
  constructor
  case replayed => rw [all, settled]
  case applied => rw [all, everything]
  case unticked =>
    intro unticked
    rw [all, settled]
    exact replay_eq_foldl _ _ _ unticked everything
  case calls =>
    rw [made, same, promotions, heardAll, ← count]
    rfl
  case phase => exact phase
  case role =>
    rw [role_of_undispatched _ released halted.2.2.1, retires]
    rfl

/-- A link comes before connecting and goes while a push is held up. -/
def exampleService : List Act :=
  [.arrive (.message (.linkUpdate (exampleUpdate .create))), .beginConnect, .carryOn, .carryOn,
   .move .receive, .carryOn, .carryOn, .carryOn,
   .arrive (.message (.arbitration ⟨none, 100, .primary⟩)), .hold, .move .receive,
   .move .dispatchArbitration, .move .startPush,
   .arrive (.message (.linkUpdate (exampleUpdate .destroy))), .finish, .reconcile, .release,
   .move .resumePush, .move .dispatchDirective, .move .receive, .reconcile, .move .receive,
   .move .closeArbitrations, .move .dispatchDirective, .move .closeDirectives,
   .move .stopDispatcher]

theorem exampleService_drained : ∃ d e,
    run? exampleService ((new exampleConfig .agreeable).setStore .empty) = some d ∧
      run? (.closeEnded :: List.replicate 4 .carryOn) d = some e ∧
      Drained exampleConfig .empty
        (exampleService ++ .closeEnded :: List.replicate 4 .carryOn) e := by
  have possible :
      ((run? exampleService ((new exampleConfig .agreeable).setStore .empty)).any fun d =>
        d.agenda.isEmpty && d.session.phase == .streaming && d.session.tasksOver) = true := by
    decide
  obtain ⟨d, run, holds⟩ := (Option.any_eq_true _ _).mp possible
  simp only [Bool.and_eq_true, List.isEmpty_iff, beq_iff_eq] at holds
  have drained := drained_of_end exampleConfig .agreeable .empty exampleService d (by decide) rfl
    (by decide) (by decide) run holds.1.1 holds.1.2 (by decide)
  obtain ⟨⟨e, released, retires⟩, lost⟩ := drained.2.2 holds.2
  exact ⟨d, e, run, released, lost _ e rfl released retires⟩

end PeeringAgent.Dialogue
