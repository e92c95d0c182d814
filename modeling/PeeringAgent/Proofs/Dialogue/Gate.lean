import PeeringAgent.Proofs.Dialogue.Flow
import PeeringAgent.Proofs.Dialogue.Lifecycle

/-!
# The right to write

A session pushes its policies once for every update that makes it primary, and for
nothing else, however the pushes end. Its dispatcher makes the role known first and
pushes then; a release that falls between the two takes the role away, and not the push.
-/

set_option autoImplicit false

namespace PeeringAgent.Dialogue

open SessionConfig Coordinator

/-- The act that calls for a push. -/
def Act.startsPush : Act → Bool
  | .move .startPush => true
  | _ => false

/-- The records that go with the primary ones among some updates. -/
def owed (records : List Wire.PolicyRecord) (us : List Wire.ArbitrationUpdate) :
    List (List Wire.PolicyRecord) :=
  (us.filter (·.isPrimary)).map fun _ => records

/-- The role after some roles have been made known, given the one before them. -/
def roleAfter (role : Role) (roles : List Role) : Role := roles.getLast?.getD role

/-- What has been pushed, and what is about to be. -/
def pushesInHand (s : Session) (c : Coordinator) : List (List Wire.PolicyRecord) :=
  c.calls.filterMap Call.records? ++ List.replicate s.pushesDue s.config.records

variable {d d' : Dialogue} {s : Session} {c : Coordinator} {g : List Errand}
  {ended : List StreamEnded} {a : Act}

theorem owed_append (records : List Wire.PolicyRecord) (us more : List Wire.ArbitrationUpdate) :
    owed records (us ++ more) = owed records us ++ owed records more := by
  rw [owed, List.filter_append, List.map_append]
  rfl

theorem roleAfter_append (role : Role) (roles more : List Role) :
    roleAfter role (roles ++ more) = roleAfter (roleAfter role roles) more := by
  rw [roleAfter, roleAfter, List.getLast?_append]
  cases more.getLast? <;> rfl

theorem owed_primary {u : Wire.ArbitrationUpdate} (records : List Wire.PolicyRecord)
    (role : Role.ofStatus u.status = .primary) : owed records [u] = [records] := by
  simp [owed, (isPrimary_iff u).mpr role]

theorem owed_notPrimary {u : Wire.ArbitrationUpdate} (records : List Wire.PolicyRecord)
    (role : Role.ofStatus u.status = .notPrimary) : owed records [u] = [] := by
  have low : u.isPrimary = false := by
    rw [Bool.eq_false_iff, ne_eq, isPrimary_iff, role]
    simp
  simp [owed, low]

theorem pushesInHand_of_same {s s' : Session} {c c' : Coordinator}
    (config : s'.config = s.config) (due : s'.pushesDue = s.pushesDue)
    (calls : c'.calls.filterMap Call.records? = c.calls.filterMap Call.records?) :
    pushesInHand s' c' = pushesInHand s c := by
  rw [pushesInHand, pushesInHand, config, due, calls]

theorem pushesInHand_of_other (h : s.dispatcher ≠ .promoted) :
    pushesInHand s c = c.calls.filterMap Call.records? := by
  rw [pushesInHand, Session.pushesDue_of_other h]
  exact List.append_nil _

theorem pushesInHand_of_promoted (h : s.dispatcher = .promoted) :
    pushesInHand s c = c.calls.filterMap Call.records? ++ [s.config.records] := by
  rw [pushesInHand, Session.pushesDue_of_promoted h]
  rfl

/-! ## One act -/

/-- A dispatcher that was about to push has done so. -/
theorem pushesInHand_of_push (promoted : d.session.dispatcher = .promoted)
    (other : s.dispatcher ≠ .promoted) :
    pushesInHand s (d.coordinator.record d.session.config.pushCall) =
      pushesInHand d.session d.coordinator := by
  rw [pushesInHand_of_other other, pushesInHand_of_promoted promoted]
  exact List.filterMap_append

/-- A move takes on what it owes for the update that it takes. -/
theorem Effect.account {m : Move} (h : d.Effect m s c ended) :
    pushesInHand s c = pushesInHand d.session d.coordinator ++
      owed d.session.config.records (d.takes (.move m)) := by
  have none (same : pushesInHand s c = pushesInHand d.session d.coordinator) :
      pushesInHand s c = pushesInHand d.session d.coordinator ++ [] := by
    rw [same, List.append_nil]
  have idle (waiting : d.session.dispatcher = .waiting) (now : s.dispatcher ≠ .promoted)
      (same : c = d.coordinator) :
      pushesInHand s c = pushesInHand d.session d.coordinator := by
    rw [same, pushesInHand_of_other now, pushesInHand_of_other (by simp [waiting])]
  cases h with
  | demoted waiting watched next role =>
    rw [takes_of_next next, owed_notPrimary _ role]
    exact none (idle waiting (by simp [taken, waiting]) rfl)
  | promoted waiting watched next role =>
    rw [takes_of_next next, owed_primary _ role, pushesInHand_of_other (s := d.session)
      (by simp [waiting])]
    exact pushesInHand_of_promoted rfl
  | pushed promoted => exact none (pushesInHand_of_push promoted (by simp))
  | heldUp promoted => exact none (pushesInHand_of_push promoted (by simp))
  | panicked promoted => exact none (pushesInHand_of_push promoted (by simp [Session.panic]))
  | orphaned | failed | finished =>
    exact none (pushesInHand_of_same rfl rfl (by rw [dropStream_calls]))
  | resumed pushing =>
    apply none
    rw [pushesInHand_of_other (by simp), pushesInHand_of_other (by simp [pushing])]
  | stopped waiting => exact none (idle waiting (by simp) rfl)
  | queuedArbitration | queuedDirective | ignored | applied | arbitrationsClosed
  | directivesClosed => exact none rfl

/-- Every act takes on what it owes and nothing more. -/
theorem Change.account (h : d.Change a s c g ended)
    (attended : Attended d.session d.coordinator d.agenda) :
    pushesInHand s c = pushesInHand d.session d.coordinator ++
      owed d.session.config.records (d.takes a) := by
  have none (same : pushesInHand s c = pushesInHand d.session d.coordinator) :
      pushesInHand s c = pushesInHand d.session d.coordinator ++ [] := by
    rw [same, List.append_nil]
  have off {s : Session} {c : Coordinator} (before : d.session.dispatcher ≠ .promoted)
      (after : s.dispatcher ≠ .promoted) (same : c = d.coordinator) :
      pushesInHand s c = pushesInHand d.session d.coordinator := by
    rw [same, pushesInHand_of_other before, pushesInHand_of_other after]
  cases h with
  | moved effect => exact effect.account
  | refused | dialled | opened => exact none (pushesInHand_of_same rfl rfl (pushes_record rfl))
  | hungUp | parted => exact none (pushesInHand_of_same rfl rfl (pushes_record rfl))
  | streamless =>
    refine none (pushesInHand_of_same rfl rfl ?_)
    rw [record_calls, pushes_record rfl, record_calls, pushes_record rfl]
  | asked next lenient made =>
    exact none (pushesInHand_of_same rfl rfl (pushes_record (records_of_call made)))
  | started next =>
    have absent := (attended.of_start next).1
    exact none (off (by simp [absent]) (by simp [Session.startDispatcher]) rfl)
  | arrived a => exact none (pushesInHand_of_same rfl rfl (by rw [put_calls]))
  | crashed pushing => exact none (off (by simp [pushing]) (by simp [Session.panic]) rfl)
  | receiverCancelled => exact none (pushesInHand_of_same rfl rfl (by rw [dropStream_calls]))
  | dispatcherCancelled gone pauses =>
    refine none (off ?_ (by simp [Session.cancelDispatcher]) rfl)
    intro promoted
    rw [promoted] at pauses
    cases pauses
  | began | disconnected | closed | dismissed | retired | finished | behaved | heldBack | letGo
  | reconciled | unsupervised => exact none rfl

/-- Only a dispatcher that is about to push does so, and then it pushes everything. -/
theorem Change.pushes (h : d.Change a s c g ended) :
    c.calls.filterMap Call.records? =
      d.pushes ++ if a.startsPush then [d.session.config.records] else [] := by
  have none {calls : List Call} (same : calls.filterMap Call.records? = d.pushes) :
      calls.filterMap Call.records? = d.pushes ++ [] := by rw [same, List.append_nil]
  cases h with
  | moved effect =>
    cases effect with
    | pushed => exact List.filterMap_append
    | heldUp => exact List.filterMap_append
    | panicked => exact List.filterMap_append
    | orphaned | failed | finished => exact none (by rw [dropStream_calls]; rfl)
    | queuedArbitration | queuedDirective | ignored | demoted | promoted | applied | resumed
    | arbitrationsClosed | directivesClosed | stopped => exact none rfl
  | refused | dialled | opened => exact none (pushes_record rfl)
  | hungUp | parted => exact none (pushes_record rfl)
  | streamless =>
    apply none
    rw [record_calls, pushes_record rfl, record_calls, pushes_record rfl]
    rfl
  | asked next lenient made => exact none (pushes_record (records_of_call made))
  | arrived a =>
    apply none
    rw [put_calls]
    rfl
  | receiverCancelled =>
    apply none
    rw [dropStream_calls]
    rfl
  | began | started | disconnected | closed | dismissed | retired | finished | behaved | heldBack
  | letGo | crashed | dispatcherCancelled | reconciled | unsupervised => exact none rfl

theorem retires_of_agenda {errand : Errand} {rest : List Errand}
    (next : d.agenda = errand :: rest) (other : errand ≠ .retire) :
    d.retires .carryOn = false := by
  rw [retires, next]
  exact beq_eq_false_iff_ne.mpr fun same => other (Option.some.inj same)

/-- The role is the last one made known. -/
theorem Change.role (h : d.Change a s c g ended) :
    s.role = roleAfter d.session.role (d.settles a) := by
  have keeps {errand : Errand} {rest : List Errand} (next : d.agenda = errand :: rest)
      (other : errand ≠ .retire) : roleAfter d.session.role (d.settles .carryOn) =
        d.session.role := by
    rw [settles, retires_of_agenda next other]
    rfl
  cases h with
  | moved effect =>
    cases effect with
    | demoted waiting watched next role | promoted waiting watched next role =>
      rw [settles, takes_of_next next]
      exact role.symm
    | queuedArbitration | queuedDirective | ignored | orphaned | failed | finished | pushed
    | heldUp | panicked | applied | resumed | arbitrationsClosed | directivesClosed
    | stopped => rfl
  | refused next | dialled next | streamless next | opened next | started next | hungUp next
  | parted next | dismissed next => exact (keeps next (by simp)).symm
  | asked next lenient =>
    refine (keeps next ?_).symm
    rintro rfl
    cases lenient
  | retired next =>
    rw [settles, retires, next]
    rfl
  | began | disconnected | closed | arrived | finished | behaved | heldBack | letGo | crashed
  | receiverCancelled | dispatcherCancelled | reconciled | unsupervised => rfl

/-- A dispatcher that is about to push has just made the role known, or was so before. -/
theorem Change.of_promoted (h : d.Change a s c g ended) (promoted : s.dispatcher = .promoted) :
    c.calls.filterMap Call.records? = d.pushes ∧
      (d.session.dispatcher = .promoted ∧ d.takes a = [] ∨
        a = .move .dispatchArbitration ∧
          ∃ u, d.takes a = [u] ∧ u.status = .primary ∧ s.role = .primary) := by
  have other {now : Dispatcher} (at_now : s.dispatcher = now) (off : now ≠ .promoted) : False :=
    off (at_now.symm.trans promoted)
  -- An act that pushes leaves the dispatcher somewhere else.
  have quiet : a.startsPush = false := by
    cases starts : a.startsPush with
    | false => rfl
    | true =>
      cases h with
      | moved effect =>
        cases effect with
        | pushed => cases promoted
        | heldUp => cases promoted
        | panicked => cases promoted
        | queuedArbitration | queuedDirective | ignored | orphaned | failed | finished | demoted
        | promoted | applied | resumed | arbitrationsClosed | directivesClosed | stopped =>
          cases starts
      | began | refused | dialled | streamless | opened | asked | started | disconnected | closed
      | hungUp | parted | dismissed | retired | arrived | finished | behaved | heldBack | letGo
      | crashed | receiverCancelled | dispatcherCancelled | reconciled | unsupervised =>
        cases starts
  have pushes := h.pushes
  rw [quiet, if_neg Bool.false_ne_true, List.append_nil] at pushes
  refine ⟨pushes, ?_⟩
  have before (same : s.dispatcher = d.session.dispatcher) :
      d.session.dispatcher = .promoted ∧ d.takes a = [] := by
    have here : d.session.dispatcher = .promoted := same.symm.trans promoted
    exact ⟨here, (takes_of_busy h (by simp [here])).1⟩
  cases h with
  | moved effect =>
    cases effect with
    | @promoted u rest waiting watched next role =>
      refine .inr ⟨rfl, u, takes_of_next next, ?_, rfl⟩
      have primary := (isPrimary_iff u).mpr role
      simpa [Wire.ArbitrationUpdate.isPrimary] using primary
    | pushed | heldUp | panicked | resumed | stopped => cases promoted
    | queuedArbitration | queuedDirective | ignored | orphaned | failed | finished | demoted
    | applied | arbitrationsClosed | directivesClosed => exact .inl (before rfl)
  | started | crashed | dispatcherCancelled => cases promoted
  | began | refused | dialled | streamless | opened | asked | disconnected | closed | hungUp
  | parted | dismissed | retired | arrived | finished | behaved | heldBack | letGo
  | receiverCancelled | reconciled | unsupervised => exact .inl (before rfl)

/-! ## Runs -/

theorem account_run (acts : List Act) (attended : Attended d.session d.coordinator d.agenda)
    (run : run? acts d = some d') :
    pushesInHand d'.session d'.coordinator = pushesInHand d.session d.coordinator ++
      owed d.session.config.records (dispatched acts d) := by
  induction acts generalizing d with
  | nil =>
    cases run
    exact (List.append_nil _).symm
  | cons a as ih =>
    obtain ⟨e, he, hr⟩ := Option.bind_eq_some_iff.mp run
    have change := act_change he
    rw [dispatched_cons he, owed_append, ih (attended.step change) hr, change.account attended,
      change.config, List.append_assoc]

theorem role_run (acts : List Act) (run : run? acts d = some d') :
    d'.session.role = roleAfter d.session.role (settled acts d) := by
  induction acts generalizing d with
  | nil =>
    cases run
    rfl
  | cons a as ih =>
    obtain ⟨e, he, hr⟩ := Option.bind_eq_some_iff.mp run
    rw [settled_cons he, roleAfter_append, ← (act_change he).role]
    exact ih hr

/-- Roles are made known by the updates dispatched and by the releases completed. -/
theorem settled_eq (acts : List Act) (run : run? acts d = some d') (kept : retired acts d = false) :
    settled acts d = (dispatched acts d).map fun u => Role.ofStatus u.status := by
  induction acts generalizing d with
  | nil => rfl
  | cons a as ih =>
    obtain ⟨e, he, hr⟩ := Option.bind_eq_some_iff.mp run
    rw [retired_cons he, Bool.or_eq_false_iff] at kept
    rw [settled_cons he, dispatched_cons he, List.map_append, ih hr kept.2, settles, kept.1]
    exact congrArg (· ++ _) (List.append_nil _)

/-- While nothing is dispatched, only a release makes a role known. -/
theorem role_of_undispatched (acts : List Act) (run : run? acts d = some d')
    (none : dispatched acts d = []) :
    d'.session.role = if retired acts d then .notPrimary else d.session.role := by
  induction acts generalizing d with
  | nil =>
    cases run
    rfl
  | cons a as ih =>
    obtain ⟨e, he, hr⟩ := Option.bind_eq_some_iff.mp run
    rw [dispatched_cons he, List.append_eq_nil_iff] at none
    have role := (act_change he).role
    rw [settles, none.1] at role
    rw [ih hr none.2, retired_cons he, role]
    cases d.retires a <;> cases retired as e <;> rfl

/-- A dispatcher that is about to push at the end of a run has been so all the time, or since
the last update that it took. -/
theorem promotion_of_run (acts : List Act) (run : run? acts d = some d')
    (promoted : d'.session.dispatcher = .promoted) :
    d.session.dispatcher = .promoted ∧ dispatched acts d = [] ∧ d'.pushes = d.pushes ∨
      ∃ early late m m' u, acts = early ++ .move .dispatchArbitration :: late ∧
        run? early d = some m ∧ m.act? (.move .dispatchArbitration) = some m' ∧
        m.takes (.move .dispatchArbitration) = [u] ∧ u.status = .primary ∧
        m'.session.role = .primary ∧ run? late m' = some d' ∧ dispatched late m' = [] ∧
        d'.pushes = m.pushes := by
  induction acts generalizing d with
  | nil =>
    cases run
    exact .inl ⟨promoted, rfl, rfl⟩
  | cons a as ih =>
    obtain ⟨e, he, hr⟩ := Option.bind_eq_some_iff.mp run
    -- The last update taken is this one, unless there is a later one.
    rcases ih hr with ⟨here, none, same⟩ | ⟨early, late, m, m', u, rfl, part, rest⟩
    · obtain ⟨made, since | ⟨rfl, u, took, primary, role⟩⟩ := (act_change he).of_promoted here
      · refine .inl ⟨since.1, ?_, same.trans made⟩
        rw [dispatched_cons he, since.2, none]
        rfl
      · exact .inr ⟨[], as, d, e, u, rfl, rfl, he, took, primary, role, hr, none,
          same.trans made⟩
    · refine .inr ⟨a :: early, late, m, m', u, rfl, ?_, rest⟩
      rw [run?, he]
      exact part

/-- Without a dispatcher the session has no say. -/
theorem silent_step (h : d.Change a s c g ended)
    (silent : d.session.dispatcher = .absent → d.session.role = .notPrimary)
    (off : s.dispatcher = .absent) : s.role = .notPrimary := by
  have before : d.session.dispatcher = .absent := by
    cases own : a.isCommand with
    | false => exact (h.frame own).dispatcher.mp off
    | true =>
      cases h with
      | started => cases off
      | began | refused | dialled | streamless | opened | asked | disconnected | closed | hungUp
      | parted | dismissed | retired => exact off
      | arrived | finished | behaved | heldBack | letGo | crashed | receiverCancelled
      | dispatcherCancelled | moved | reconciled | unsupervised => cases own
  have role := h.role
  rw [settles, (takes_of_busy h (by simp [before])).1, silent before] at role
  rw [role]
  cases d.retires a <;> rfl

theorem silent_run (acts : List Act)
    (silent : d.session.dispatcher = .absent → d.session.role = .notPrimary)
    (run : run? acts d = some d') :
    d'.session.dispatcher = .absent → d'.session.role = .notPrimary :=
  run_keeps (fun e => e.session.dispatcher = .absent → e.session.role = .notPrimary)
    (fun _ => True) (fun _ _ _ _ before he => silent_step (act_change he) before) acts d d'
    (fun _ _ => trivial) silent run

/-- A session that has just been connected has no say yet. -/
theorem role_of_connected (attended : Attended d.session d.coordinator d.agenda)
    (silent : d.session.dispatcher = .absent → d.session.role = .notPrimary)
    (last : d.agenda = [.startDispatcher]) (he : d.act? .carryOn = some d') :
    d'.session.role = .notPrimary := by
  have role := (act_change he).role
  rw [settles, retires_of_agenda last (by simp)] at role
  exact role.trans (silent (attended.of_start last).1)

/-- What a run has made of a session's right to write. -/
structure Gated (start : Dialogue) (acts : List Act) (d : Dialogue) : Prop where
  /-- All policies have been pushed once for every primary update dispatched; the push for the
  last one may still be about to begin. -/
  pushes : d.pushes ++ List.replicate d.session.pushesDue (Policy.toRecords
      start.session.config.credentials.asn start.session.config.policies) =
    ((dispatched acts start).filter (·.isPrimary)).map fun _ =>
      Policy.toRecords start.session.config.credentials.asn start.session.config.policies
  /-- Each push carries one record for each policy, in their order. -/
  records : ∀ push ∈ d.pushes,
    Policy.Translates start.session.config.credentials.asn start.session.config.policies push
  /-- No other act pushes, and no answer of the coordinator makes a difference. -/
  made : ∀ before a after e e', acts = before ++ a :: after → run? before start = some e →
    e.act? a = some e' →
    e'.pushes = e.pushes ++ if a.startsPush then [Policy.toRecords
      start.session.config.credentials.asn start.session.config.policies] else []
  /-- A push goes back to one primary update, whose role was made known before. Nothing else
  has been dispatched or pushed since, and only a release has taken the role away. -/
  entered : ∀ before after e, acts = before ++ .move .startPush :: after →
    run? before start = some e →
    ∃ early late m m' u, before = early ++ .move .dispatchArbitration :: late ∧
      run? early start = some m ∧ m.act? (.move .dispatchArbitration) = some m' ∧
      m.takes (.move .dispatchArbitration) = [u] ∧ u.status = .primary ∧
      m'.session.role = .primary ∧ dispatched late m' = [] ∧ e.pushes = m.pushes ∧
      e.session.role = if retired late m' then .notPrimary else .primary
  /-- The role is that of the last update dispatched, unless a release has been completed
  since. -/
  role : d.session.role = roleAfter .notPrimary (settled acts start)
  /-- Only what has happened since the session connected counts for it. -/
  connected : ∀ before after e e', acts = before ++ .carryOn :: after →
    run? before start = some e → e.agenda = [.startDispatcher] → e.act? .carryOn = some e' →
    d.session.role = roleAfter .notPrimary (settled after e') ∧
      (retired after e' = false → d.session.role = roleAfter .notPrimary
        ((dispatched after e').map fun u => Role.ofStatus u.status))
  /-- A released session is not primary until another update is dispatched. -/
  released : ∀ before a after e e', acts = before ++ a :: after → run? before start = some e →
    e.retires a = true → e.act? a = some e' → dispatched after e' = [] →
    d.session.role = .notPrimary
  /-- None is after a release that has waited for the tasks, and nothing is pushed. -/
  awaited : ∀ before after e, acts = before ++ .closeEnded :: after →
    run? before start = some e → e.session.dismissed = false → connects after = 0 →
    d.pushes = e.pushes ∧
      (retired (.closeEnded :: after) e = true → d.session.role = .notPrimary)

/-- Whatever happens to a session, in whatever order and however its calls end, it writes
and has its role by the updates that its dispatcher takes. -/
theorem gated_of_run (config : SessionConfig) (behaviour : Behaviour) (store : LinkStore)
    (acts : List Act) (d : Dialogue)
    (run : run? acts ((new config behaviour).setStore store) = some d) :
    Gated ((new config behaviour).setStore store) acts d := by
  have attended := attended_new config behaviour store
  have quiet : ((new config behaviour).setStore store).session.role = .notPrimary := rfl
  have off : ((new config behaviour).setStore store).session.dispatcher = .absent := rfl
  have none : ((new config behaviour).setStore store).coordinator.calls = [] := rfl
  generalize (new config behaviour).setStore store = start at run attended quiet off none ⊢
  have records (before : List Act) (e : Dialogue) (part : run? before start = some e) :
      e.session.config.records = Policy.toRecords start.session.config.credentials.asn
        start.session.config.policies := by
    rw [run_config before part]
    rfl
  have account := account_run acts attended run
  rw [pushesInHand_of_other (s := start.session) (by simp [off]), none, pushesInHand,
    records acts d run, records [] start rfl] at account
  constructor
  case pushes => exact account
  case records =>
    intro push among
    have due : push ∈ owed (Policy.toRecords start.session.config.credentials.asn
        start.session.config.policies) (dispatched acts start) := by
      have whole : push ∈ d.pushes ++ List.replicate d.session.pushesDue (Policy.toRecords
          start.session.config.credentials.asn start.session.config.policies) :=
        List.mem_append_left _ among
      rwa [show d.pushes ++ _ = _ from account] at whole
    obtain ⟨u, -, rfl⟩ := List.mem_map.mp due
    exact Policy.toRecords_translates _ _
  case made =>
    intro before a after e e' split part he
    rw [← records before e part]
    exact (act_change he).pushes
  case entered =>
    intro before after e split part
    rw [split] at run
    obtain ⟨e', he, -⟩ := Option.bind_eq_some_iff.mp (run_split run part)
    have promoted : e.session.dispatcher = .promoted := (Option.ite_none_right_eq_some.mp he).1
    rcases promotion_of_run before part promoted with ⟨begun, -⟩ | ⟨early, late, m, m', u, rest⟩
    · rw [off] at begun
      cases begun
    · obtain ⟨split, first, he, took, primary, role, late_run, nothing, same⟩ := rest
      refine ⟨early, late, m, m', u, split, first, he, took, primary, role, nothing, same, ?_⟩
      rw [role_of_undispatched late late_run nothing, role]
  case role =>
    rw [← quiet]
    exact role_run acts run
  case connected =>
    intro before after e e' split part last he
    rw [split] at run
    have silent := silent_run before (fun _ => quiet) part
    have low := role_of_connected (attended.run before part) silent last he
    have rest := run_split run part
    rw [run?, he, Option.bind_some] at rest
    have role := role_run after rest
    rw [low] at role
    exact ⟨role, fun kept => by rw [role, settled_eq after rest kept]⟩
  case released =>
    intro before a after e e' split part retires he nothing
    rw [split] at run
    have rest := run_split run part
    rw [run?, he, Option.bind_some] at rest
    have role := (act_change he).role
    rw [settles, retires, if_pos rfl, roleAfter, List.getLast?_concat, Option.getD_some] at role
    rw [role_of_undispatched after rest nothing, role, ite_self]
  case awaited =>
    intro before after e split part held still
    rw [split] at run
    have rest := run_split run part
    obtain ⟨-, pushes, nothing, -⟩ := halt_of_closeEnded held still rest
    refine ⟨pushes, fun complete => ?_⟩
    rw [role_of_undispatched _ rest nothing, complete]
    rfl

/-- Two primary updates, a failed push and an error between them, and a release during the
second push. -/
def exampleTenure : List Act :=
  [.beginConnect, .carryOn, .carryOn, .carryOn, .carryOn, .carryOn,
   .behave { Behaviour.agreeable with policiesError := some .closed },
   .arrive (.message (.arbitration ⟨none, 100, .primary⟩)),
   .arrive (.message (.arbitration ⟨some "vlan1", 100, .error⟩)),
   .arrive (.message (.arbitration ⟨none, 101, .primary⟩)),
   .move .receive, .move .receive, .move .dispatchArbitration, .move .startPush,
   .move .dispatchArbitration, .reconcile, .hold, .move .receive, .move .dispatchArbitration,
   .finish, .disconnect, .carryOn, .move .startPush, .carryOn, .carryOn, .carryOn, .release]

theorem exampleTenure_gated :
    ∃ d, run? exampleTenure ((new exampleConfig .agreeable).setStore .empty) = some d ∧
      Gated ((new exampleConfig .agreeable).setStore .empty) exampleTenure d := by
  have possible :
      (run? exampleTenure ((new exampleConfig .agreeable).setStore .empty)).isSome = true := by
    decide
  obtain ⟨d, run⟩ := Option.isSome_iff_exists.mp possible
  exact ⟨d, run, gated_of_run _ _ _ _ d run⟩

/-- The session is disconnected when its role has just been made known. -/
def exampleHaste : List Act :=
  [.beginConnect, .carryOn, .carryOn, .carryOn, .carryOn, .carryOn,
   .arrive (.message (.arbitration ⟨none, 100, .primary⟩)),
   .arrive (.message (.arbitration ⟨none, 101, .primary⟩)),
   .move .receive, .move .receive, .move .dispatchArbitration,
   .disconnect, .carryOn, .carryOn, .carryOn, .carryOn]

/-- A push begins in a session that is not primary any more, and a session that has been
disconnected becomes primary. -/
theorem exampleHaste_roles : ∃ e e' d,
    run? exampleHaste ((new exampleConfig .agreeable).setStore .empty) = some e ∧
      e.session.phase = .closed ∧ e.session.role = .notPrimary ∧
      e.act? (.move .startPush) = some e' ∧ e'.pushes = e.pushes ++ [exampleConfig.records] ∧
      e'.act? (.move .dispatchArbitration) = some d ∧ d.session.phase = .closed ∧
      d.session.role = .primary := by
  have possible :
      ((run? exampleHaste ((new exampleConfig .agreeable).setStore .empty)).any fun e =>
        e.session.phase == .closed && e.session.role == .notPrimary &&
        (e.act? (.move .startPush)).any fun e' =>
          e'.pushes == e.pushes ++ [exampleConfig.records] &&
          (e'.act? (.move .dispatchArbitration)).any fun d =>
            d.session.phase == .closed && d.session.role == .primary) = true := by decide
  obtain ⟨e, run, holds⟩ := (Option.any_eq_true _ _).mp possible
  simp only [Bool.and_eq_true, beq_iff_eq] at holds
  obtain ⟨⟨closed, low⟩, later⟩ := holds
  obtain ⟨e', pushing, holds⟩ := (Option.any_eq_true _ _).mp later
  simp only [Bool.and_eq_true, beq_iff_eq] at holds
  obtain ⟨pushed, last⟩ := holds
  obtain ⟨d, dispatching, holds⟩ := (Option.any_eq_true _ _).mp last
  simp only [Bool.and_eq_true, beq_iff_eq] at holds
  exact ⟨e, e', d, run, closed, low, pushing, pushed, dispatching, holds.1, holds.2⟩

end PeeringAgent.Dialogue
