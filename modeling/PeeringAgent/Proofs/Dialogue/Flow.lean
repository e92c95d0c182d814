import PeeringAgent.Proofs.Dialogue.Tasks

/-!
# Two queues and one sequence

What receiver and dispatcher do together is what one interpreter would do that
takes the messages of the stream in their order. It has one sequence of directives
to apply and one of arbitration updates to adopt, wherever the messages wait.
-/

set_option autoImplicit false

namespace PeeringAgent.Dialogue

open SessionConfig Coordinator

/-- The sequential interpreter of a session. -/
structure Flow where
  /-- The stream is not over. -/
  listening : Bool
  directives : List LinkDirective
  arbitrations : List Wire.ArbitrationUpdate
  store : LinkStore
  /-- How often policies have been pushed, or are about to be. -/
  pushes : Nat

/-- What comes after the end of the stream is not heard. -/
def Flow.hear (f : Flow) (m : Wire.StreamResponse) : Flow :=
  if f.listening then
    { f with
      directives := f.directives ++ m.directive?.toList
      arbitrations := f.arbitrations ++ m.arbitration?.toList }
  else f

def Flow.applyNext (f : Flow) : Option Flow :=
  match f.directives with
  | [] => none
  | directive :: rest => some { f with directives := rest, store := f.store.apply directive }

def Flow.adoptNext (f : Flow) : Option Flow :=
  match f.arbitrations with
  | [] => none
  | u :: rest => some { f with arbitrations := rest, pushes := f.pushes + u.isPrimary.toNat }

def Flow.step? (f : Flow) : Act → Option Flow
  | .arrive (.message m) => some (f.hear m)
  | .arrive (.failure _) => some { f with listening := false }
  | .finish => some { f with listening := false }
  | .reconcile => some { f with store := f.store.reconcile.1 }
  | .move .dispatchDirective => f.applyNext
  | .move .dispatchArbitration => f.adoptNext
  | _ => some f

def Flow.run? : List Act → Flow → Option Flow
  | [], f => some f
  | a :: as, f => (f.step? a).bind (Flow.run? as)

/-- The messages that can still be read, in their order. -/
def readable : List Arrival → List Wire.StreamResponse
  | .message m :: rest => m :: readable rest
  | .failure _ :: _ => []
  | [] => []

/-- What session and coordinator stand for. -/
def flow (s : Session) (c : Coordinator) : Flow :=
  { listening := c.isOpen
    directives := s.directives.waiting ++ (readable c.inbox).filterMap (·.directive?)
    arbitrations := s.arbitrations.waiting ++ (readable c.inbox).filterMap (·.arbitration?)
    store := s.store
    pushes := c.calls.count s.config.pushCall + s.pushesDue }

theorem readable_append (inbox more : List Arrival) :
    readable (inbox ++ more) = readable inbox ++
      if inbox.all fun a => a.message?.isSome then readable more else [] := by
  induction inbox with
  | nil => rfl
  | cons a inbox ih =>
    cases a with
    | message m =>
      rw [List.cons_append, readable, readable, ih]
      rfl
    | failure e => rfl

variable {d : Dialogue} {s : Session} {c : Coordinator} {g : List Errand}
  {ended : List StreamEnded}

theorem isOpen_append (c : Coordinator) (a : Arrival) :
    ({ c with inbox := c.inbox ++ [a] } : Coordinator).isOpen =
      (c.isOpen && a.message?.isSome) := by
  have same : ({ c with inbox := c.inbox ++ [a] } : Coordinator).reaches = c.reaches := rfl
  simp [isOpen, same, Bool.and_assoc]

theorem isOpen_eq (h : d.coordinator.reaches = true) :
    d.coordinator.isOpen = d.coordinator.inbox.all fun a => a.message?.isSome := by
  rw [isOpen, h, Bool.true_and]

theorem isOpen_of_not_reaches (h : d.coordinator.reaches = false) :
    d.coordinator.isOpen = false := by
  rw [isOpen, h, Bool.false_and]

theorem filterMap_singleton {α β : Type} (f : α → Option β) (x : α) :
    [x].filterMap f = (f x).toList := by
  cases h : f x <;> simp [h]

/-- A message on an open stream will be heard, after those that wait. -/
theorem flow_message (m : Wire.StreamResponse) :
    flow d.session (d.coordinator.put (.message m)).1 =
      (flow d.session d.coordinator).hear m := by
  cases reaches : d.coordinator.reaches with
  | false =>
    rw [put_fst_of_not_reaches _ _ reaches, Flow.hear]
    rw [if_neg (by simp [flow, isOpen_of_not_reaches reaches])]
  | true =>
    rw [put, if_pos reaches, flow, isOpen_append, readable_append, ← isOpen_eq reaches, Flow.hear,
      flow]
    cases d.coordinator.isOpen with
    | false => simp
    | true => simp [Arrival.message?, readable, filterMap_singleton]

theorem flow_failure (e : TransportError) :
    flow d.session (d.coordinator.put (.failure e)).1 =
      { flow d.session d.coordinator with listening := false } := by
  cases reaches : d.coordinator.reaches with
  | false =>
    rw [put_fst_of_not_reaches _ _ reaches, flow, isOpen_of_not_reaches reaches]
  | true =>
    rw [put, if_pos reaches, flow, isOpen_append, readable_append, flow]
    simp [Arrival.message?, readable]

/-- Nothing is readable any more once the receiver has ended. -/
theorem flow_deaf (taken : d.coordinator.stream = .taken) (gone : d.coordinator.isOpen = false)
    (nothing : readable d.coordinator.inbox = []) :
    flow d.deaf d.coordinator.dropStream = flow d.session d.coordinator := by
  have shut : d.coordinator.dropStream.isOpen = false := by
    simp [isOpen, reaches, dropStream, taken]
  have empty : d.coordinator.dropStream.inbox = [] := by simp [dropStream, taken]
  rw [flow, flow, shut, gone, empty, nothing, dropStream_calls]
  rfl

theorem count_other {calls : List Call} {call push : Call} (h : call ≠ push) :
    (calls ++ [call]).count push = calls.count push := by
  rw [List.count_append, List.count_singleton, beq_false_of_ne h]
  rfl

theorem isOpen_read {m : Wire.StreamResponse} {rest : List Arrival}
    (next : d.coordinator.inbox = .message m :: rest) :
    ({ d.coordinator with inbox := rest } : Coordinator).isOpen = d.coordinator.isOpen := by
  have same : ({ d.coordinator with inbox := rest } : Coordinator).reaches =
      d.coordinator.reaches := rfl
  rw [isOpen, isOpen, same, next, List.all_cons]
  rfl

/-- Wherever a message waits, it is in the same place of the same sequence. -/
theorem flow_read {m : Wire.StreamResponse} {rest : List Arrival}
    (next : d.coordinator.inbox = .message m :: rest)
    (arbitrations : s.arbitrations.waiting =
      d.session.arbitrations.waiting ++ m.arbitration?.toList)
    (directives : s.directives.waiting = d.session.directives.waiting ++ m.directive?.toList)
    (config : s.config = d.session.config) (store : s.store = d.session.store)
    (dispatcher : s.dispatcher = d.session.dispatcher) :
    flow s { d.coordinator with inbox := rest } = flow d.session d.coordinator := by
  have split {α : Type} (f : Wire.StreamResponse → Option α) :
      (readable d.coordinator.inbox).filterMap f = (f m).toList ++ (readable rest).filterMap f := by
    rw [next, readable, ← List.singleton_append, List.filterMap_append, filterMap_singleton]
  rw [flow, flow, isOpen_read next, arbitrations, directives, config, store, split, split,
    Session.pushesDue, Session.pushesDue, dispatcher, List.append_assoc, List.append_assoc]

theorem count_push (calls : List Call) (push : Call) :
    (calls ++ [push]).count push = calls.count push + 1 := by
  rw [List.count_append, List.count_singleton_self]

/-- The flow after an arbitration update has been taken. -/
theorem flow_taken {u : Wire.ArbitrationUpdate} {rest : List Wire.ArbitrationUpdate}
    (next : d.session.arbitrations.waiting = u :: rest)
    (arbitrations : s.arbitrations.waiting = rest)
    (directives : s.directives = d.session.directives)
    (config : s.config = d.session.config) (store : s.store = d.session.store)
    (before : d.session.pushesDue = 0) (after : s.pushesDue = u.isPrimary.toNat) :
    (flow d.session d.coordinator).adoptNext = some (flow s d.coordinator) := by
  rw [flow, next, Flow.adoptNext, flow, arbitrations, directives, config, store, before, after]
  rfl

/-- The flow while a push is called for that was due. -/
theorem flow_pushed (promoted : d.session.dispatcher = .promoted) {now : Dispatcher}
    (other : now ≠ .promoted) :
    flow { d.session with dispatcher := now } (d.coordinator.record d.session.config.pushCall) =
      flow d.session d.coordinator := by
  have made : (d.coordinator.calls ++ [d.session.config.pushCall]).count
      d.session.config.pushCall = d.coordinator.calls.count d.session.config.pushCall + 1 :=
    count_push _ _
  rw [flow, flow, record_calls, made, Session.pushesDue_of_promoted promoted,
    Session.pushesDue_of_other (s := { d.session with dispatcher := now }) other]
  rfl

theorem isPrimary_iff (u : Wire.ArbitrationUpdate) :
    u.isPrimary = true ↔ Role.ofStatus u.status = .primary := by
  cases h : u.status <;> simp [Wire.ArbitrationUpdate.isPrimary, Role.ofStatus, h]

theorem isPrimary_of_primary {u : Wire.ArbitrationUpdate}
    (role : Role.ofStatus u.status = .primary) : u.isPrimary.toNat = 1 := by
  rw [(isPrimary_iff u).mpr role]
  rfl

theorem isPrimary_of_notPrimary {u : Wire.ArbitrationUpdate}
    (role : Role.ofStatus u.status = .notPrimary) : u.isPrimary.toNat = 0 := by
  cases h : u.isPrimary with
  | false => rfl
  | true =>
    rw [(isPrimary_iff u).mp h] at role
    cases role

/-- A move of the receiver changes nothing; the dispatcher does what comes next. -/
theorem flow_effect {m : Move} (h : Flowing d.session d.coordinator)
    (effect : d.Effect m s c ended) :
    (flow d.session d.coordinator).step? (.move m) = some (flow s c) := by
  have unpromoted {now : Dispatcher} (at_now : d.session.dispatcher = now)
      (other : now ≠ .promoted) : d.session.pushesDue = 0 :=
    Session.pushesDue_of_other (by rw [at_now]; exact other)
  cases effect with
  | queuedArbitration now next listener =>
    refine congrArg some (Eq.symm ?_)
    exact flow_read next (send_of_listener _ listener).1 (List.append_nil _).symm rfl rfl rfl
  | @queuedDirective u directive rest now next valid listener =>
    have carried : Wire.StreamResponse.directive? (.linkUpdate u) = some directive := by
      rw [Wire.StreamResponse.directive?, valid]
      rfl
    refine congrArg some (Eq.symm ?_)
    refine flow_read next (List.append_nil _).symm ?_ rfl rfl rfl
    rw [carried]
    exact (send_of_listener _ listener).1
  | ignored now next noArbitration noDirective =>
    refine congrArg some (Eq.symm ?_)
    refine flow_read next ?_ ?_ rfl rfl rfl
    · rw [noArbitration]
      exact (List.append_nil _).symm
    · rw [noDirective]
      exact (List.append_nil _).symm
  | orphaned now next alone =>
    obtain ⟨-, -, arbitrations, directives⟩ := h.reading now
    rcases alone with ⟨-, closed⟩ | ⟨-, closed⟩
    · rw [arbitrations] at closed
      cases closed
    · rw [directives] at closed
      cases closed
  | failed now next =>
    have gone : d.coordinator.isOpen = false := by simp [isOpen, next, Arrival.message?]
    have nothing : readable d.coordinator.inbox = [] := by rw [next, readable]
    exact congrArg some (flow_deaf (h.reading now).1 gone nothing).symm
  | finished now nothing finished =>
    have gone : d.coordinator.isOpen = false := by simp [isOpen, reaches, finished]
    have none : readable d.coordinator.inbox = [] := by rw [nothing, readable]
    exact congrArg some (flow_deaf (h.reading now).1 gone none).symm
  | demoted waiting watched next role =>
    refine flow_taken next rfl rfl rfl rfl (unpromoted waiting (by simp)) ?_
    rw [isPrimary_of_notPrimary role]
    exact unpromoted waiting (by simp)
  | promoted waiting watched next role =>
    refine flow_taken next rfl rfl rfl rfl (unpromoted waiting (by simp)) ?_
    rw [isPrimary_of_primary role]
    rfl
  | pushed promoted calm free => exact congrArg some (flow_pushed promoted (by simp)).symm
  | heldUp promoted calm held => exact congrArg some (flow_pushed promoted (by simp)).symm
  | panicked promoted fatal =>
    rw [h.calm] at fatal
    cases fatal
  | applied waiting watched next =>
    show (flow d.session d.coordinator).applyNext = _
    rw [flow, next, Flow.applyNext]
    rfl
  | resumed pushing free =>
    refine congrArg some ?_
    rw [flow, flow, unpromoted pushing (by simp)]
    rfl
  | arbitrationsClosed waiting watched closed => rfl
  | directivesClosed waiting watched closed => rfl
  | stopped waiting noArbitrations noDirectives =>
    have present : d.session.dispatcher ≠ .absent := by simp [waiting]
    have arbitrations := ((isClosed_iff _).mp (h.arbitrationsLeft present noArbitrations)).1
    have directives := ((isClosed_iff _).mp (h.directivesLeft present noDirectives)).1
    show some (flow d.session d.coordinator) = _
    rw [flow, arbitrations, directives, unpromoted waiting (by simp)]
    rfl

theorem flow_record {call : Call} (h : call ≠ s.config.pushCall) :
    flow s (c.record call) = flow s c := by
  have same : (c.calls ++ [call]).count s.config.pushCall = c.calls.count s.config.pushCall :=
    count_other h
  rw [flow, record_calls, same]
  rfl

/-- Opening the stream starts with empty queues, and so did the session. -/
theorem flow_opened (h : Flowing d.session d.coordinator) (absent : d.session.receiver = .absent) :
    flow d.session.startReceiver { d.coordinator.record .openStream with stream := .taken } =
      flow d.session d.coordinator := by
  obtain ⟨arbitrations, directives, offered⟩ := h.absent absent
  have same : (d.coordinator.calls ++ [Call.openStream]).count d.session.config.pushCall =
      d.coordinator.calls.count d.session.config.pushCall := count_other (by simp [pushCall])
  have still : ({ d.coordinator with stream := .taken } : Coordinator).isOpen =
      d.coordinator.isOpen := by
    rw [isOpen, isOpen, reaches, reaches, offered]
    rfl
  calc
    flow d.session.startReceiver { d.coordinator.record .openStream with stream := .taken }
      = { listening := ({ d.coordinator with stream := .taken } : Coordinator).isOpen
          directives := [] ++ (readable d.coordinator.inbox).filterMap (·.directive?)
          arbitrations := [] ++ (readable d.coordinator.inbox).filterMap (·.arbitration?)
          store := d.session.store
          pushes := (d.coordinator.calls ++ [Call.openStream]).count
            d.session.config.pushCall + d.session.pushesDue } := rfl
    _ = flow d.session d.coordinator := by rw [still, same, flow, arbitrations, directives]

/-- Every act does to what a dialogue stands for what the interpreter does. -/
theorem flow_step {a : Act} {f : Option SessionError} (h : Flowing d.session d.coordinator)
    (stage : Stage d.session d.coordinator d.agenda f) (change : d.Change a s c g ended)
    (staying : Staying d.session d.agenda) (kept : a.isRelease = false) (calm : a.isCalm = true) :
    (flow d.session d.coordinator).step? a = some (flow s c) := by
  cases change with
  | began => rfl
  | refused => exact congrArg some (flow_record (by simp [dialCall, pushCall])).symm
  | dialled => exact congrArg some (flow_record (by simp [dialCall, pushCall])).symm
  | streamless =>
    refine congrArg some (Eq.symm ?_)
    rw [flow_record (by simp [pushCall]), flow_record (by simp [pushCall])]
    rfl
  | @asked errand call rest next lenient made =>
    have other : call ≠ d.session.config.pushCall := by
      rintro rfl
      cases errand <;> simp [Errand.call?, dialCall, bidCall, pushCall] at made
    exact congrArg some (flow_record other).symm
  | opened next success =>
    rw [next] at stage
    exact congrArg some (flow_opened h stage.resting_of_openStream.receiver).symm
  | started next =>
    rw [next] at stage
    obtain ⟨-, -, -, off, -⟩ := stage.of_registration rfl
    have still : d.session.pushesDue = 0 := Session.pushesDue_of_other (by simp [off])
    refine congrArg some ?_
    rw [flow, still]
    rfl
  | disconnected => cases kept
  | closed => cases kept
  | arrived a =>
    cases a with
    | message m => exact congrArg some (flow_message m).symm
    | failure e => exact congrArg some (flow_failure e).symm
  | finished => rfl
  | behaved b => rfl
  | heldBack => rfl
  | letGo => rfl
  | crashed => cases calm
  | hungUp next | parted next | dismissed next | retired next =>
    exact absurd (staying.next next) (by simp [Errand.departs])
  | receiverCancelled gone | dispatcherCancelled gone =>
    rw [staying.dismissed] at gone
    cases gone
  | moved effect => exact flow_effect h effect
  | reconciled => rfl
  | unsupervised => rfl

/-- A run does to what a dialogue stands for what the interpreter does. -/
theorem flow_run (acts : List Act) {d d' : Dialogue} (h : Sound acts d)
    (run : run? acts d = some d') :
    Flow.run? acts (flow d.session d.coordinator) = some (flow d'.session d'.coordinator) := by
  induction acts generalizing d with
  | nil =>
    cases run
    rfl
  | cons a as ih =>
    obtain ⟨e, he, hr⟩ := Option.bind_eq_some_iff.mp run
    obtain ⟨f, staged⟩ := h.staged
    have step := flow_step h.flowing staged.stage (act_change he) h.staying
      (h.kept a (by simp)) (h.calm a (by simp))
    rw [Flow.run?, step]
    exact ih (h.step he) hr

/-! ## What the interpreter does -/

/-- The messages of a run up to the end of the stream. -/
def heard : List Act → List Wire.StreamResponse
  | [] => []
  | .arrive (.message m) :: as => m :: heard as
  | .arrive (.failure _) :: _ => []
  | .finish :: _ => []
  | _ :: as => heard as

/-- The store after a run that applies these directives: each dispatched directive takes
effect where it is dispatched, each reconciliation where it runs. -/
def replay : List Act → List LinkDirective → LinkStore → LinkStore
  | [], _, store => store
  | .reconcile :: as, directives, store => replay as directives store.reconcile.1
  | .move .dispatchDirective :: as, directive :: directives, store =>
    replay as directives (store.apply directive)
  | _ :: as, directives, store => replay as directives store

def Act.appliesDirective : Act → Bool
  | .move .dispatchDirective => true
  | _ => false

def Act.reconciles : Act → Bool
  | .reconcile => true
  | _ => false

/-- The acts that end the stream. -/
def Act.endsStream : Act → Bool
  | .arrive (.failure _) => true
  | .finish => true
  | _ => false

namespace Flow

variable {f f' : Flow} {a : Act} {as : List Act}

/-- What is still heard in a run. -/
def coming (f : Flow) (acts : List Act) : List Wire.StreamResponse :=
  if f.listening then heard acts else []

/-- All directives that a run will have to apply. -/
def toApply (f : Flow) (acts : List Act) : List LinkDirective :=
  f.directives ++ (f.coming acts).filterMap (·.directive?)

/-- All arbitration updates that a run will have to adopt. -/
def toAdopt (f : Flow) (acts : List Act) : List Wire.ArbitrationUpdate :=
  f.arbitrations ++ (f.coming acts).filterMap (·.arbitration?)

theorem toApply_nil : f.toApply [] = f.directives := by
  unfold toApply coming
  split <;> exact List.append_nil _

theorem toAdopt_nil : f.toAdopt [] = f.arbitrations := by
  unfold toAdopt coming
  split <;> exact List.append_nil _

/-- What an act leaves to do of what there is to do. -/
structure Leaves (f : Flow) (a : Act) (as : List Act) (f' : Flow) : Prop where
  directives : (f.toApply (a :: as)).length =
    (f'.toApply as).length + a.appliesDirective.toNat
  replay : replay (a :: as) (f.toApply (a :: as)) f.store = replay as (f'.toApply as) f'.store
  pushes : f.pushes + (f.toAdopt (a :: as)).countP (·.isPrimary) =
    f'.pushes + (f'.toAdopt as).countP (·.isPrimary)

/-- An act that neither dispatches nor reconciles leaves everything to do. -/
theorem Leaves.of_same (apply : f.toApply (a :: as) = f'.toApply as)
    (adopt : f.toAdopt (a :: as) = f'.toAdopt as) (store : f'.store = f.store)
    (pushes : f'.pushes = f.pushes) (other : a.appliesDirective = false)
    (quiet : a.reconciles = false) : Leaves f a as f' := by
  constructor
  case directives => rw [apply, other]; rfl
  case pushes => rw [adopt, pushes]
  case replay =>
    rw [apply, store]
    cases a with
    | reconcile => cases quiet
    | move m => cases m <;> first | rfl | cases other
    | _ => rfl

theorem hear_leaves (m : Wire.StreamResponse) :
    Leaves f (.arrive (.message m)) as (f.hear m) := by
  cases listening : f.listening with
  | false =>
    have same : f.hear m = f := by rw [hear, if_neg (by simp [listening])]
    have shut (acts : List Act) : f.coming acts = [] := by
      rw [coming, if_neg (by simp [listening])]
    rw [same]
    refine .of_same ?_ ?_ rfl rfl rfl rfl
    · rw [toApply, toApply, shut, shut]
    · rw [toAdopt, toAdopt, shut, shut]
  | true =>
    have before : f.coming (.arrive (.message m) :: as) = [m] ++ heard as := by
      rw [coming, if_pos listening]
      rfl
    have after : (f.hear m).coming as = heard as := by simp [coming, hear, listening]
    refine .of_same ?_ ?_ (by simp [hear, listening]) (by simp [hear, listening]) rfl rfl
    · rw [toApply, toApply, before, after, List.filterMap_append, filterMap_singleton]
      simp [hear, listening]
    · rw [toAdopt, toAdopt, before, after, List.filterMap_append, filterMap_singleton]
      simp [hear, listening]

theorem shut_leaves (stops : ∀ as, heard (a :: as) = []) (other : a.appliesDirective = false)
    (quiet : a.reconciles = false) : Leaves f a as { f with listening := false } := by
  have before : f.coming (a :: as) = [] := by
    unfold coming
    split
    · exact stops as
    · rfl
  refine .of_same ?_ ?_ rfl rfl other quiet
  · rw [toApply, before]
    rfl
  · rw [toAdopt, before]
    rfl

theorem apply_leaves (h : f.applyNext = some f') : Leaves f (.move .dispatchDirective) as f' := by
  unfold applyNext at h
  split at h
  case h_1 => cases h
  case h_2 directive rest next =>
    cases h
    have first : f.toApply (.move .dispatchDirective :: as) =
        directive ::
          toApply { f with directives := rest, store := f.store.apply directive } as := by
      rw [toApply, next]
      rfl
    constructor
    case directives => rw [first]; rfl
    case replay => rw [first]; rfl
    case pushes => rfl

theorem adopt_leaves (h : f.adoptNext = some f') : Leaves f (.move .dispatchArbitration) as f' := by
  unfold adoptNext at h
  split at h
  case h_1 => cases h
  case h_2 u rest next =>
    cases h
    have first : f.toAdopt (.move .dispatchArbitration :: as) = u :: toAdopt
        { f with arbitrations := rest, pushes := f.pushes + u.isPrimary.toNat } as := by
      rw [toAdopt, next]
      rfl
    constructor
    case directives => rfl
    case replay => rfl
    case pushes =>
      rw [first, countP_cons_toNat]
      dsimp only
      omega

theorem step_leaves (as : List Act) (h : f.step? a = some f') : Leaves f a as f' := by
  cases a with
  | arrive a =>
    cases a with
    | message m =>
      cases h
      exact hear_leaves m
    | failure e =>
      cases h
      exact shut_leaves (fun _ => rfl) rfl rfl
  | finish =>
    cases h
    exact shut_leaves (fun _ => rfl) rfl rfl
  | reconcile =>
    cases h
    exact ⟨rfl, rfl, rfl⟩
  | move m =>
    cases m with
    | dispatchDirective => exact apply_leaves h
    | dispatchArbitration => exact adopt_leaves h
    | _ =>
      cases h
      exact .of_same rfl rfl rfl rfl rfl rfl
  | _ =>
    cases h
    exact .of_same rfl rfl rfl rfl rfl rfl

/-- The interpreter applies every directive once and pushes once for every primary
update; what it has not come to is left over. -/
theorem run_leaves (acts : List Act) (h : Flow.run? acts f = some f') :
    (f.toApply acts).length = acts.countP Act.appliesDirective + f'.directives.length ∧
      f'.store = Dialogue.replay acts (f.toApply acts) f.store ∧
      f.pushes + (f.toAdopt acts).countP (·.isPrimary) =
        f'.pushes + f'.arbitrations.countP (·.isPrimary) := by
  induction acts generalizing f with
  | nil =>
    cases h
    rw [toApply_nil, toAdopt_nil]
    exact ⟨(Nat.zero_add _).symm, rfl, rfl⟩
  | cons a as ih =>
    obtain ⟨e, he, hr⟩ := Option.bind_eq_some_iff.mp h
    obtain ⟨directives, store, pushes⟩ := step_leaves as he
    obtain ⟨count, last, pushed⟩ := ih hr
    rw [countP_cons_toNat]
    refine ⟨?_, last.trans store.symm, pushes.trans pushed⟩
    rw [directives, count]
    omega

end Flow

theorem Flow.step_listening {f f' : Flow} {a : Act} (h : f.step? a = some f') :
    f'.listening = (f.listening && !a.endsStream) := by
  cases a with
  | arrive a =>
    cases a with
    | message m =>
      cases h
      rw [hear]
      split <;> simp [Act.endsStream]
    | failure e =>
      cases h
      simp [Act.endsStream]
  | finish =>
    cases h
    simp [Act.endsStream]
  | move m =>
    cases m with
    | dispatchDirective =>
      change f.applyNext = some f' at h
      unfold applyNext at h
      split at h <;> cases h
      simp [Act.endsStream]
    | dispatchArbitration =>
      change f.adoptNext = some f' at h
      unfold adoptNext at h
      split at h <;> cases h
      simp [Act.endsStream]
    | _ =>
      cases h
      simp [Act.endsStream]
  | _ =>
    cases h
    simp [Act.endsStream]

theorem Flow.run_listening (acts : List Act) {f f' : Flow} (h : Flow.run? acts f = some f') :
    f'.listening = (f.listening && !acts.any Act.endsStream) := by
  induction acts generalizing f with
  | nil =>
    cases h
    simp
  | cons a as ih =>
    obtain ⟨e, he, hr⟩ := Option.bind_eq_some_iff.mp h
    rw [ih hr, Flow.step_listening he, List.any_cons, Bool.not_or, Bool.and_assoc]

/-- Without reconciliations the directives are applied one after the other. -/
theorem replay_eq_foldl (acts : List Act) (directives : List LinkDirective) (store : LinkStore)
    (quiet : ∀ a ∈ acts, a.reconciles = false)
    (all : directives.length = acts.countP Act.appliesDirective) :
    replay acts directives store = directives.foldl LinkStore.apply store := by
  induction acts generalizing directives store with
  | nil =>
    rw [List.length_eq_zero_iff.mp all]
    rfl
  | cons a as ih =>
    have rest : ∀ b ∈ as, b.reconciles = false := fun b hb => quiet b (by simp [hb])
    rw [countP_cons_toNat] at all
    cases a with
    | reconcile => exact absurd (quiet .reconcile (by simp)) (by simp [Act.reconciles])
    | move m =>
      cases m with
      | dispatchDirective =>
        cases directives with
        | nil => simp [Act.appliesDirective] at all
        | cons directive directives => exact ih directives _ rest (Nat.succ.inj all)
      | _ => exact ih directives store rest all
    | _ => exact ih directives store rest all

end PeeringAgent.Dialogue
