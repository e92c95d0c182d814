import Mathlib.Data.List.Basic
import PeeringAgent.Proofs.Dialogue.Attended

/-!
# The life of a session

A session that connects at most once calls its coordinator by a fixed script,
whatever fails and whatever else happens. It is streaming from the end of
connecting to the end of its release, and closed from then on. A release does not
wait for the dispatcher to stop, so pushes of policies may come between its calls
and behind them.
-/

set_option autoImplicit false

namespace PeeringAgent.Dialogue

open SessionConfig

/-- All that a session calls, by the way connecting goes. -/
inductive Script (c : SessionConfig) : Option SessionError → List Call → Prop
  | refused (cause : TransportError) : Script c (some (.connect c.address cause)) [c.dialCall]
  | streamless (cause : TransportError) :
      Script c (some (.openStream cause)) [c.dialCall, .openStream, .close]
  | full (pushes between behind : Nat) :
      Script c none (c.service pushes ++ c.farewell between behind)

section Script

variable {c : SessionConfig} {f : Option SessionError} {calls : List Call}

theorem close_not_mem_service (pushes : Nat) : Call.close ∉ c.service pushes := by
  simp [service, opening, dialCall, bidCall, pushCall]

theorem close_not_mem_replicate (n : Nat) : Call.close ∉ List.replicate n c.pushCall := by
  simp [pushCall]

/-- A full script around its one close. -/
theorem full_eq (pushes between behind : Nat) :
    c.service pushes ++ c.farewell between behind =
      (c.service pushes ++ .closeSend :: List.replicate between c.pushCall) ++
        .close :: List.replicate behind c.pushCall := by
  rw [farewell, List.append_assoc, List.cons_append]

theorem close_not_mem_front (pushes between : Nat) :
    Call.close ∉ c.service pushes ++ .closeSend :: List.replicate between c.pushCall := by
  have first := close_not_mem_service (c := c) pushes
  have second := close_not_mem_replicate (c := c) between
  simp [first, second]

/-- Only pushes come after the connection is closed. -/
theorem Script.pushes_last (h : Script c f calls) {before after : List Call}
    (split : before ++ .close :: after <+: calls) : ∀ call ∈ after, call = c.pushCall := by
  obtain ⟨more, whole⟩ := split
  rw [List.append_assoc, List.cons_append] at whole
  cases h with
  | refused =>
    have member : Call.close ∈ [c.dialCall] := by simp [← whole]
    simp [dialCall] at member
  | streamless =>
    have early : Call.close ∉ [c.dialCall, .openStream] := by simp [dialCall]
    have late : Call.close ∉ ([] : List Call) := List.not_mem_nil
    have same := (List.append_cons_inj_of_notMem early late).mp whole.symm
    have nothing : after = [] := (List.append_eq_nil_iff.mp same.2.2.symm).1
    simp [nothing]
  | full pushes between behind =>
    rw [full_eq] at whole
    have same := (List.append_cons_inj_of_notMem (close_not_mem_front pushes between)
      (close_not_mem_replicate behind)).mp whole.symm
    intro call among
    have pushed : call ∈ List.replicate behind c.pushCall := by
      rw [same.2.2]
      exact List.mem_append_left _ among
    exact List.eq_of_mem_replicate pushed

/-- Policies are pushed once connecting has called everything. -/
theorem Script.opening_before_policies (h : Script c f calls) {before after : List Call}
    {records : List Wire.PolicyRecord} (split : before ++ .setPolicies records :: after <+: calls) :
    c.opening <+: before := by
  cases h with
  | refused =>
    have member := split.subset (a := .setPolicies records) (by simp)
    simp [dialCall] at member
  | streamless =>
    have member := split.subset (a := .setPolicies records) (by simp)
    simp [dialCall] at member
  | full pushes between behind =>
    have absent : .setPolicies records ∉ c.opening := by simp [opening, dialCall, bidCall]
    have begun : before ++ [.setPolicies records] <+:
        c.service pushes ++ c.farewell between behind :=
      List.IsPrefix.trans ⟨after, by simp⟩ split
    have opened : c.opening <+: c.service pushes ++ c.farewell between behind := by
      rw [service, List.append_assoc]
      exact List.prefix_append _ _
    rcases List.prefix_or_prefix_of_prefix opened begun with short | long
    · rcases List.prefix_concat_iff.mp short with same | done
      · exact absurd (by rw [same]; simp) absent
      · exact done
    · exact absurd (long.subset (by simp)) absent

theorem Script.count_close_le (h : Script c f calls) : calls.count .close ≤ 1 := by
  cases h with
  | refused => simp [dialCall]
  | streamless => simp [dialCall]
  | full pushes between behind =>
    have first := List.count_eq_zero_of_not_mem (close_not_mem_front (c := c) pushes between)
    have last := List.count_eq_zero_of_not_mem (close_not_mem_replicate (c := c) behind)
    rw [full_eq, List.count_append, List.count_cons_self]
    omega

end Script

section Stage

variable {s : Session} {c : Coordinator} {g : List Errand} {f : Option SessionError}

/-- At every stage the calls so far are the beginning of a script. -/
theorem Stage.script (h : Stage s c g f) :
    ∃ calls, Script s.config f calls ∧ c.calls <+: calls := by
  cases h with
  | unconnected unconnected =>
    refine ⟨_, .full 0 0 0, ?_⟩
    rw [unconnected.calls]
    exact List.nil_prefix
  | dialling _ _ _ calls =>
    refine ⟨_, .full 0 0 0, ?_⟩
    rw [calls]
    exact List.nil_prefix
  | dialled _ _ _ calls =>
    refine ⟨_, .full 0 0 0, ?_⟩
    rw [calls]
    exact ⟨_, rfl⟩
  | registering before agenda rest _ _ _ _ calls =>
    refine ⟨_, .full 0 0 0, ?_⟩
    rw [calls, service, opening_eq agenda]
    simp only [List.append_assoc]
    exact List.prefix_append_right_inj _ |>.mpr (List.prefix_append _ _)
  | serving pushes _ _ _ _ _ calls =>
    refine ⟨_, .full pushes 0 0, ?_⟩
    rw [calls]
    exact List.prefix_append _ _
  | hungUp pushes between _ _ _ _ _ calls =>
    refine ⟨_, .full pushes between 0, ?_⟩
    rw [calls, full_eq]
    exact List.prefix_append _ _
  | refused cause _ _ _ calls =>
    rw [calls]
    exact ⟨_, .refused cause, List.prefix_rfl⟩
  | streamless cause _ _ _ calls =>
    rw [calls]
    exact ⟨_, .streamless cause, List.prefix_rfl⟩
  | released pushes between behind _ _ _ _ _ calls =>
    rw [calls]
    exact ⟨_, .full pushes between behind, List.prefix_rfl⟩

/-- An established connection has been closed once when the session is closed. -/
theorem Stage.close_count (h : Stage s c g f) (dialled : s.config.dialCall ∈ c.calls)
    (established : ∀ address cause, f ≠ some (.connect address cause))
    (closed : s.phase = .closed) : c.calls.count .close = 1 := by
  have other {p : Prop} (phase : s.phase ≠ .closed) : p := absurd closed phase
  cases h with
  | unconnected unconnected => simp [unconnected.calls] at dialled
  | dialling _ _ phase | dialled _ _ phase => exact other (by simp [phase])
  | registering _ _ _ _ _ _ phase => exact other (by simp [phase])
  | serving _ _ _ _ _ phase => exact other (by simp [phase])
  | hungUp _ _ _ _ _ _ phase => exact other (by simp [phase])
  | refused cause => exact absurd rfl (established _ _)
  | streamless cause _ _ _ calls => simp [calls, dialCall]
  | released pushes between behind _ _ _ _ _ calls =>
    rw [calls, full_eq, List.count_append, List.count_cons_self,
      List.count_eq_zero_of_not_mem (close_not_mem_front pushes between),
      List.count_eq_zero_of_not_mem (close_not_mem_replicate behind)]

end Stage

/-- Nothing is connected, and nobody is connecting. Tasks may not have stopped yet. -/
structure Apart (d : Dialogue) : Prop where
  agenda : Parting d.agenda
  connected : d.session.connected = false

/-- Released, or never connected. -/
structure Over (d : Dialogue) : Prop extends Apart d where
  phase : d.session.phase = .closed

/-- Connected, and no release has begun. -/
structure Live (d : Dialogue) : Prop where
  agenda : d.agenda = []
  phase : d.session.phase = .streaming

variable {d d' : Dialogue} {s : Session} {c : Coordinator} {g : List Errand}
  {ended : List StreamEnded} {a : Act}

/-! ## After a release -/

theorem Stage.over_of_closed {f : Option SessionError}
    (h : Stage d.session d.coordinator d.agenda f) (closed : d.session.phase = .closed) :
    Over d := by
  have other {p : Prop} (phase : d.session.phase ≠ .closed) : p := absurd closed phase
  cases h with
  | unconnected unconnected =>
    exact ⟨⟨unconnected.agenda, unconnected.resting.connected⟩, closed⟩
  | dialling _ _ phase | dialled _ _ phase => exact other (by simp [phase])
  | registering _ _ _ _ _ _ phase => exact other (by simp [phase])
  | serving _ _ _ _ _ phase => exact other (by simp [phase])
  | hungUp _ _ _ _ _ _ phase => exact other (by simp [phase])
  | refused _ agenda resting => exact ⟨⟨agenda, resting.connected⟩, closed⟩
  | streamless _ agenda resting => exact ⟨⟨agenda, resting.connected⟩, closed⟩
  | released _ _ _ agenda connected => exact ⟨⟨agenda, connected⟩, closed⟩

/-- Where nothing is connected, only a dispatcher may call for another push. -/
theorem Apart.step (h : Apart d) (other : a.isConnect = false) (he : d.act? a = some d') :
    Apart d' ∧ (d'.session.phase = d.session.phase ∨ d'.session.phase = .closed) ∧
      (∃ n, d'.coordinator.calls =
        d.coordinator.calls ++ List.replicate n d.session.config.pushCall ∧
          (d.session.dispatcher.isOver = true → n = 0)) ∧
      (d.session.dispatcher.isOver = true → d'.session.dispatcher.isOver = true) := by
  have change := act_change he
  generalize hs : d'.session = s, hc : d'.coordinator = c, hg : d'.agenda = g,
    d'.ended = ended at change ⊢
  cases own : a.isCommand with
  | false =>
    have frame := change.frame own
    refine ⟨⟨hg ▸ frame.agenda ▸ h.agenda, by rw [hs, frame.connected, h.connected]⟩,
      .inl frame.phase, ?_, fun spent => by rw [frame.spent spent]; exact spent⟩
    by_cases spent : d.session.dispatcher.isOver = true
    · exact ⟨0, (frame.calls_of_over spent).trans (List.append_nil _).symm, fun _ => rfl⟩
    · obtain ⟨n, more⟩ := frame.exists_calls
      exact ⟨n, more, fun gone => absurd gone spent⟩
  | true =>
    have quiet : ∃ n, d.coordinator.calls =
        d.coordinator.calls ++ List.replicate n d.session.config.pushCall ∧
          (d.session.dispatcher.isOver = true → n = 0) :=
      ⟨0, (List.append_nil _).symm, fun _ => rfl⟩
    have parts := parting_of_unconnected h.connected
    cases a with
    | beginConnect => cases other
    | carryOn =>
      obtain ⟨agenda, rfl, connected, -, dispatcher, phase, -⟩ := change.parts h.agenda
      exact ⟨⟨hg ▸ agenda, by rw [hs, connected, h.connected]⟩, phase, quiet,
        fun spent => dispatcher ▸ spent⟩
    | disconnect =>
      cases change
      exact ⟨⟨hg ▸ parts, by rw [hs, h.connected]⟩, .inl rfl, quiet, id⟩
    | closeEnded =>
      cases change
      exact ⟨⟨hg ▸ parts, by rw [hs, h.connected]⟩, .inl rfl, quiet, id⟩
    | _ => cases own

/-- Until it connects again, such a session calls nothing but pushes, and none of them once
its dispatcher is over. If it is closed, it stays so. -/
theorem Apart.run (acts : List Act) (h : Apart d) (none : connects acts = 0)
    (run : run? acts d = some d') :
    Apart d' ∧ (d.session.phase = .closed → d'.session.phase = .closed) ∧
      ∃ n, d'.coordinator.calls =
        d.coordinator.calls ++ List.replicate n d.session.config.pushCall ∧
          (d.session.dispatcher.isOver = true → n = 0) := by
  induction acts generalizing d with
  | nil =>
    cases run
    exact ⟨h, id, 0, (List.append_nil _).symm, fun _ => rfl⟩
  | cons a as ih =>
    obtain ⟨e, he, hr⟩ := Option.bind_eq_some_iff.mp run
    obtain ⟨other, none⟩ := other_of_connects none
    obtain ⟨next, phase, ⟨n, first, quiet⟩, stays⟩ := h.step other he
    obtain ⟨last, closed, m, rest, silent⟩ := ih next none hr
    refine ⟨last, fun before => closed ?_, n + m, ?_, fun spent => ?_⟩
    · exact phase.elim (·.trans before) id
    · rw [rest, first, (act_change he).config, List.append_assoc, replicate_append]
    · rw [quiet spent, silent (stays spent)]

/-! ## Phases -/

/-- Only the completion of a release changes the phase of a session that is not connecting. -/
theorem Stage.phase_step {f : Option SessionError}
    (h : Stage d.session d.coordinator d.agenda f) (change : d.Change a s c g ended)
    (other : a.isConnect = false) (settled : d.session.phase ≠ .connecting) :
    s.phase = if d.retires a then .closed else d.session.phase := by
  cases own : a.isCommand with
  | false =>
    have keeps : d.retires a = false := by
      cases a <;> first | rfl | cases own
    rw [keeps]
    exact (change.frame own).phase
  | true =>
    cases change with
    | began => cases other
    | disconnected | closed => rfl
    | refused next | dialled next | streamless next | opened next =>
      rw [next] at h
      first
        | exact absurd h.of_dial.2.2.2.1 settled
        | exact absurd h.of_openStream.2.2.2.1 settled
    | @asked errand _ _ next lenient =>
      have keeps : d.retires .carryOn = false := by
        rw [retires, next]
        cases errand <;> first | rfl | cases lenient
      rw [keeps]
      rfl
    | started next | hungUp next | parted next | dismissed next | retired next =>
      rw [retires, next]
      rfl
    | arrived | finished | behaved | heldBack | letGo | crashed | receiverCancelled
    | dispatcherCancelled | moved | reconciled | unsupervised => cases own

theorem Staged.phase_run (acts : List Act) {f : Option SessionError} (h : Staged acts d f)
    (none : connects acts = 0) (settled : d.session.phase ≠ .connecting)
    (run : run? acts d = some d') :
    d'.session.phase = if retired acts d then .closed else d.session.phase := by
  induction acts generalizing d f with
  | nil =>
    cases run
    rfl
  | cons a as ih =>
    obtain ⟨e, he, hr⟩ := Option.bind_eq_some_iff.mp run
    obtain ⟨other, none⟩ := other_of_connects none
    have phase := h.stage.phase_step (act_change he) other settled
    have still : e.session.phase ≠ .connecting := by
      rw [phase]
      split
      · simp
      · exact settled
    rw [ih (h.step he) none still hr, phase, retired_cons he]
    cases d.retires a <;> simp

/-- The last errand of connecting leaves a session that streams. -/
theorem live_of_last {f : Option SessionError}
    (h : Stage d.session d.coordinator d.agenda f) (last : d.agenda = [.startDispatcher])
    (he : d.act? .carryOn = some d') : Live d' := by
  have change := act_change he
  have streaming : d.session.phase = .streaming := by
    rw [last] at h
    exact h.streaming_of_registration rfl
  generalize hs : d'.session = s, d'.coordinator = c, hg : d'.agenda = g, d'.ended = ended at change
  cases change with
  | started next =>
    rw [last, List.cons.injEq] at next
    exact ⟨hg.trans next.2.symm, by rw [hs]; exact streaming⟩
  | asked next lenient =>
    rw [last, List.cons.injEq] at next
    rw [← next.1] at lenient
    cases lenient
  | refused next | dialled next | streamless next | opened next | hungUp next | parted next
  | dismissed next | retired next =>
    rw [last] at next
    cases next

/-- What a run has made of a session that began unconnected. -/
structure Lifecycle (start : Dialogue) (acts : List Act) (d : Dialogue) : Prop where
  /-- The calls follow the script. -/
  script : ∃ calls, Script start.session.config (failure? acts start) calls ∧
    d.coordinator.calls <+: calls
  policies_after_opening : ∀ before records after,
    d.coordinator.calls = before ++ .setPolicies records :: after →
    start.session.config.opening <+: before
  /-- Behind the close of the connection there is nothing but pushes. -/
  pushes_last : ∀ before after, d.coordinator.calls = before ++ .close :: after →
    ∀ call ∈ after, call = start.session.config.pushCall
  /-- An established connection is closed once, by the time the session is closed. -/
  closed_once : start.session.config.dialCall ∈ d.coordinator.calls →
    (∀ address cause, failure? acts start ≠ some (.connect address cause)) →
    d.coordinator.calls.count .close ≤ 1 ∧
      (d.session.phase = .closed → d.coordinator.calls.count .close = 1)
  /-- A closed session calls nothing more, apart from pushes that its dispatcher still makes. -/
  silent : ∀ before after e, acts = before ++ after → run? before start = some e →
    e.session.phase = .closed → connects after = 0 →
    ∃ n, d.coordinator.calls =
        e.coordinator.calls ++ List.replicate n start.session.config.pushCall ∧
      (e.session.dispatcher.isOver = true → n = 0)
  /-- A dispatcher that is over pushes nothing more. -/
  halted : ∀ before after e, acts = before ++ after → run? before start = some e →
    e.session.dispatcher.isOver = true → e.session.dispatcher ≠ .absent → d.pushes = e.pushes
  /-- So there is no push in a release that has waited for the tasks, nor behind it. -/
  awaited : ∀ before after e, acts = before ++ .closeEnded :: after →
    run? before start = some e → e.session.dismissed = false → connects after = 0 →
    d.pushes = e.pushes
  /-- A connected session is streaming until a release of it is complete, and then closed. -/
  phase : ∀ before after e e', acts = before ++ .carryOn :: after →
    run? before start = some e → e.agenda = [.startDispatcher] → e.act? .carryOn = some e' →
    d.session.phase = if retired after e' then .closed else .streaming

/-- Whatever happens to a session that connects at most once, in whatever order, it
calls by the script and has the phases of the script. -/
theorem lifecycle_of_run (config : SessionConfig) (behaviour : Behaviour) (store : LinkStore)
    (acts : List Act) (d : Dialogue) (once : connects acts ≤ 1)
    (run : run? acts ((new config behaviour).setStore store) = some d) :
    Lifecycle ((new config behaviour).setStore store) acts d := by
  have fresh := unconnected_new config behaviour store
  have attended := attended_new config behaviour store
  generalize (new config behaviour).setStore store = start at run fresh attended ⊢
  have staged (acts : List Act) (few : connects acts ≤ 1) : Staged acts start none :=
    ⟨.unconnected fresh, few, fun _ => fresh⟩
  -- A run that is staged as a whole is so from each of its points.
  have reach (before after : List Act) (e : Dialogue) (few : connects (before ++ after) ≤ 1)
      (part : run? before start = some e) : Staged after e (failure? before start) := by
    refine ⟨Staged.run before (staged before ?_) part, ?_, fun one => ?_⟩
    · rw [connects_append] at few
      omega
    · rw [connects_append] at few
      omega
    · rw [connects_append] at few
      exact fresh.run before (by omega) part
  have stage := (staged acts once).run acts run
  have same := run_config acts run
  obtain ⟨calls, script, begun⟩ := stage.script
  rw [same] at script
  have halted (before after : List Act) (e : Dialogue) (split : acts = before ++ after)
      (part : run? before start = some e) (spent : e.session.dispatcher.isOver = true)
      (present : e.session.dispatcher ≠ .absent) : d.pushes = e.pushes := by
    rw [split] at run
    exact ((attended.run before part).halt_run after spent present (run_split run part)).2.1
  constructor
  case script => exact ⟨calls, script, begun⟩
  case policies_after_opening =>
    intro before records after split
    rw [split] at begun
    exact script.opening_before_policies begun
  case pushes_last =>
    intro before after split
    rw [split] at begun
    exact script.pushes_last begun
  case closed_once =>
    intro dialled established
    rw [← same] at dialled
    exact ⟨Nat.le_trans (begun.sublist.count_le _) script.count_close_le,
      stage.close_count dialled established⟩
  case silent =>
    intro before after e split part closed none
    rw [split] at once run
    have gone : Over e := (reach before after e once part).stage.over_of_closed closed
    rw [← run_config before part]
    exact (gone.toApart.run after none (run_split run part)).2.2
  case halted => exact halted
  case awaited =>
    intro before after e split part held none
    rw [split] at run
    exact (halt_of_closeEnded held none (run_split run part)).2.1
  case phase =>
    intro before after e e' split part last he
    rw [split] at once run
    have from_ := reach before (.carryOn :: after) e once part
    have live := live_of_last from_.stage last he
    have rest := run_split run part
    rw [run?, he, Option.bind_some] at rest
    -- Connecting has begun before its last errand, so nobody connects behind it.
    have begun : connects before ≠ 0 := by
      intro none
      have idle := (fresh.run before none part).agenda
      exact idle.absurd_next last (by simp) (by simp)
    have none : connects after = 0 := by
      rw [connects_append, connects_cons] at once
      omega
    rw [← live.phase]
    exact (from_.step he).phase_run after none (by simp [live.phase]) rest

/-- A port range is refused, the session becomes primary and is disconnected twice; its
dispatcher pushes between the two, and then stops. -/
def exampleVisit : List Act :=
  [.arrive (.message (.arbitration ⟨none, 100, .primary⟩)), .beginConnect, .carryOn, .carryOn,
   .move .receive, .carryOn, .reconcile,
   .behave { Behaviour.agreeable with portRangeErrors := [("vlan1", .closed)] }, .carryOn,
   .carryOn, .hold, .move .dispatchArbitration, .finish, .disconnect, .carryOn, .carryOn, .carryOn,
   .carryOn, .move .startPush, .disconnect, .cancelDispatcher, .carryOn, .release, .cancelReceiver,
   .carryOn]

theorem exampleVisit_lifecycle : connects exampleVisit ≤ 1 ∧
    ∃ d, run? exampleVisit ((new exampleConfig .agreeable).setStore .empty) = some d ∧
      Lifecycle ((new exampleConfig .agreeable).setStore .empty) exampleVisit d := by
  have once : connects exampleVisit ≤ 1 := by decide
  have possible :
      (run? exampleVisit ((new exampleConfig .agreeable).setStore .empty)).isSome = true := by
    decide
  obtain ⟨d, run⟩ := Option.isSome_iff_exists.mp possible
  exact ⟨once, d, run, lifecycle_of_run _ _ _ _ d once run⟩

/-- The session becomes primary twice while it is disconnected. -/
def exampleParting : List Act :=
  [.beginConnect, .carryOn, .carryOn, .carryOn, .carryOn, .carryOn,
   .arrive (.message (.arbitration ⟨none, 100, .primary⟩)),
   .arrive (.message (.arbitration ⟨none, 101, .primary⟩)), .move .receive, .move .receive,
   .move .dispatchArbitration, .disconnect, .carryOn, .move .startPush, .carryOn,
   .move .dispatchArbitration, .carryOn, .carryOn, .move .startPush]

/-- One push falls between the calls of a release, another one behind them. So a release may
interrupt the pushes, and its close need not be the last call. -/
theorem exampleParting_calls : connects exampleParting ≤ 1 ∧
    ∃ d, run? exampleParting ((new exampleConfig .agreeable).setStore .empty) = some d ∧
      d.coordinator.calls = exampleConfig.opening ++
        [.closeSend, exampleConfig.pushCall, .close, exampleConfig.pushCall] ∧
      (∀ pushes, ¬d.coordinator.calls <+: exampleConfig.service pushes ++ [.closeSend, .close]) ∧
      ¬d.coordinator.calls <+: [exampleConfig.dialCall] ∧
      ¬d.coordinator.calls <+: [exampleConfig.dialCall, .openStream, .close] := by
  have made : (run? exampleParting ((new exampleConfig .agreeable).setStore .empty)).map
      (·.coordinator.calls) = some (exampleConfig.opening ++
        [.closeSend, exampleConfig.pushCall, .close, exampleConfig.pushCall]) := by decide
  obtain ⟨d, run, calls⟩ := Option.map_eq_some_iff.mp made
  refine ⟨by decide, d, run, calls, fun pushes begun => ?_, ?_, ?_⟩
  · rw [calls, service, List.append_assoc, List.prefix_append_right_inj] at begun
    cases pushes with
    | zero => simp [pushCall] at begun
    | succ n => simp [List.replicate_succ, pushCall] at begun
  · rw [calls]
    decide
  · rw [calls]
    decide

end PeeringAgent.Dialogue
