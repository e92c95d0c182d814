import PeeringAgent.Proofs.Dialogue.Errands
import PeeringAgent.Proofs.Dialogue.Lifecycle
import PeeringAgent.Proofs.Dialogue.Notice
import PeeringAgent.Proofs.Dialogue.Preface
import PeeringAgent.Supervisor.Run

/-!
# The place of a session

The supervisor connects its sessions one after the other, releases them one at a time
and leaves them in order. So its mode says of a session whether it is still to be
dialled, is up, or has been released. Tasks and coordinators leave it there.
-/

set_option autoImplicit false

namespace PeeringAgent.Supervisor

open Dialogue SessionConfig

variable {d d' : Dialogue}

/-- What holds of a session between two events. -/
structure Sane (d : Dialogue) : Prop where
  stage : ∃ f, Stage d.session d.coordinator d.agenda f
  supervised : d.supervised = true
  shut : Shut d.session
  /-- What it has logged and told has been taken from it. -/
  taken : d.clear = d

/-- Up, and never told to stop. -/
structure Open (d : Dialogue) : Prop extends Live d where
  kept : d.session.dismissed = false

/-- Connected once, and released since. Its tasks have been told to stop. -/
structure Retired (d : Dialogue) : Prop where
  agenda : d.agenda = []
  phase : d.session.phase = .closed
  present : d.session.dispatcher ≠ .absent
  dismissed : d.session.dismissed = true

/-- Connected once, and perhaps about to be released. -/
structure Served (d : Dialogue) : Prop where
  agenda : d.agenda <:+ [.closeSend, .close, .dismiss, .retire]
  present : d.session.dispatcher ≠ .absent
  dismissed : d.session.phase = .closed ∨ d.agenda = [.retire] → d.session.dismissed = true

/-- Released since its tasks were over. -/
structure Through (d : Dialogue) : Prop extends Retired d where
  spent : d.session.tasksOver = true

/-- A session that could not connect has closed what it had opened. -/
structure Unserved (e : SessionError) (d : Dialogue) : Prop where
  agenda : d.agenda = []
  stage : Stage d.session d.coordinator d.agenda (some e)

/-- The sessions that are disconnected when the agent leaves. -/
def Cause.Covers : Cause → Nat → Prop
  | .refused n _, i => i < n
  | .told, _ => True

/-- The others: one could not connect, and those behind it have not been dialled. -/
def Cause.Spares : Cause → Nat → Dialogue → Prop
  | .refused n e, i, d => (i = n → Unserved e d) ∧
    (n < i → Unconnected d.session d.coordinator d.agenda)
  | .told, _, _ => True

/-- Where a session stands in each mode of its supervisor. -/
def Placed : Mode → Nat → Dialogue → Prop
  | .starting k, i, d => d.session.dismissed = false ∧ (i < k → Live d) ∧
    (k ≤ i → ∀ errand ∈ d.agenda, errand.departs = false) ∧
    (k < i ∨ i = k ∧ d.agenda = [] → Unconnected d.session d.coordinator d.agenda)
  | .watching, _, d => Open d ∨ Through d
  | .releasing k, i, d => (i ≠ k → Open d ∨ Through d) ∧
    (i = k → Open d ∨ Served d ∧ d.agenda ≠ [] ∧ d.session.tasksOver = true)
  | .leaving k cause, i, d => cause.Spares i d ∧ (cause.Covers i →
    (i < k → Retired d) ∧ (i = k → Served d) ∧
    (k < i ∨ i = k ∧ d.agenda = [] → Live d ∨ cause = .told ∧ Retired d))
  | .stopped cause, i, d => cause.Spares i d ∧ (cause.Covers i → Retired d)

/-! ## Sessions -/

theorem Sane.told (h : Sane d) : d.ended = [] := (congrArg Dialogue.ended h.taken).symm

theorem present_of_live (sane : Sane d) (live : Live d) : d.session.dispatcher ≠ .absent := by
  obtain ⟨f, stage⟩ := sane.stage
  obtain ⟨-, -, present, -⟩ := stage.serving_of_streaming live.phase live.agenda
  exact present

theorem served_of_live (sane : Sane d) (live : Live d) : Served d := by
  refine ⟨live.agenda ▸ List.nil_suffix, present_of_live sane live, ?_⟩
  rintro (closed | last)
  · rw [live.phase] at closed
    cases closed
  · rw [live.agenda] at last
    cases last

theorem Retired.served (h : Retired d) : Served d :=
  ⟨h.agenda ▸ List.nil_suffix, h.present, fun _ => h.dismissed⟩

/-- The calls of a session that has been released, with one close among them. -/
theorem Retired.calls (h : Retired d) (sane : Sane d) : d.session.connected = false ∧
    ∃ pushes between behind, d.coordinator.calls =
      d.session.config.service pushes ++ d.session.config.farewell between behind := by
  obtain ⟨f, stage⟩ := sane.stage
  have absent {p : Prop} (resting : Resting d.session) : p := absurd resting.dispatcher h.present
  have other {p : Prop} (phase : d.session.phase ≠ .closed) : p := absurd h.phase phase
  cases stage with
  | unconnected unconnected => exact absent unconnected.resting
  | dialling _ resting | dialled _ resting => exact absent resting
  | registering _ _ _ _ _ _ phase | serving _ _ _ _ _ phase => exact other (by simp [phase])
  | hungUp _ _ _ _ _ _ phase => exact other (by simp [phase])
  | refused _ _ resting | streamless _ _ resting => exact absent resting
  | released pushes between behind _ connected _ _ _ calls =>
    exact ⟨connected, pushes, between, behind, calls⟩

/-- A release begins with what is left to do. -/
theorem served_of_departure (h : Served d) (lines : List Log.Line) :
    Served (d.say lines).beginRelease := by
  refine ⟨?_, h.present, ?_⟩
  · show d.session.departure <:+ _
    cases connected : d.session.connected with
    | true => exact ⟨[], d.session.departure_of_connected connected⟩
    | false =>
      rw [d.session.departure_of_unconnected connected]
      exact ⟨[.closeSend, .close], rfl⟩
  · rintro (closed | last)
    · exact h.dismissed (.inl closed)
    · have single : d.session.departure = [.retire] := last
      cases connected : d.session.connected with
      | true => simp [d.session.departure_of_connected connected] at single
      | false => simp [d.session.departure_of_unconnected connected] at single

theorem departure_ne_nil (s : Session) : s.departure ≠ [] :=
  List.append_ne_nil_of_right_ne_nil _ (List.cons_ne_nil _ _)

/-- An errand of a release leaves the next one to do, or has completed the release. -/
theorem served_of_carryOn {result : Except SessionError Unit} (h : Served d)
    (went : d.carryOn? = some (d', result)) :
    result = .ok () ∧ Served d' ∧ (d'.agenda = [] → Retired d') ∧
      d'.session.tasksOver = d.session.tasksOver := by
  obtain ⟨agenda, present, dismissed⟩ := h
  simp only [List.suffix_cons_iff, List.suffix_nil] at agenda
  unfold Dialogue.carryOn? at went
  rcases agenda with next | next | next | next | next <;> rw [next] at went dismissed
  · cases went
    exact ⟨rfl, ⟨⟨[.closeSend], rfl⟩, present, fun now => dismissed (now.imp_right nofun)⟩,
      nofun, rfl⟩
  · cases went
    exact ⟨rfl, ⟨⟨[.closeSend, .close], rfl⟩, present,
      fun now => dismissed (now.imp_right nofun)⟩, nofun, rfl⟩
  · cases went
    exact ⟨rfl, ⟨⟨[.closeSend, .close, .dismiss], rfl⟩, present, fun _ => rfl⟩, nofun, rfl⟩
  · have stops := dismissed (.inr rfl)
    simp only [perform, retire] at went
    split at went <;> cases went <;>
      exact ⟨rfl, ⟨List.nil_suffix, present, fun _ => stops⟩,
        fun _ => ⟨rfl, rfl, present, stops⟩, rfl⟩
  · cases went

/-! ## What tasks and coordinators do -/

/-- What a task or a coordinator does is no command. -/
structure Foreign (a : Dialogue.Act) : Prop where
  own : a.isCommand = false
  other : a.isConnect = false
  listening : a ≠ .unsupervise
  stores : a ≠ .reconcile

theorem foreign_of_cancel {a : Dialogue.Act} (h : a.isCancel = true) : isForeign a = true := by
  cases a <;> first | rfl | cases h

theorem foreign_of_isForeign {a : Dialogue.Act} (h : isForeign a = true) : Foreign a := by
  cases a <;> first | (cases h; done) | exact ⟨rfl, rfl, nofun, nofun⟩

/-- Once the tasks of a session are over, nothing happens to it any more. -/
theorem still_of_over {a : Dialogue.Act} {session : Session} {c : Coordinator}
    {g : List Errand} {ended : List StreamEnded} (foreign : Foreign a)
    (spent : d.session.tasksOver = true) (change : d.Change a session c g ended) :
    session = d.session ∧ c.calls = d.coordinator.calls := by
  have calls := (change.frame foreign.own).calls_of_over
  rw [Session.tasksOver, Bool.and_eq_true, bne_iff_ne] at spent
  obtain ⟨deaf, idle⟩ := spent
  refine ⟨?_, calls idle⟩
  have waits {now : Dispatcher} (here : d.session.dispatcher = now) (busy : now.isOver = false)
      {p : Prop} : p := by
    rw [here, busy] at idle
    cases idle
  cases change with
  | moved effect =>
    cases effect with
    | queuedArbitration reading | queuedDirective reading | ignored reading | orphaned reading
    | failed reading | finished reading => exact absurd reading deaf
    | demoted waiting | promoted waiting | applied waiting | arbitrationsClosed waiting
    | directivesClosed waiting | stopped waiting => exact waits waiting rfl
    | pushed promoted | heldUp promoted | panicked promoted => exact waits promoted rfl
    | resumed pushing => exact waits pushing rfl
  | crashed pushing => exact waits pushing rfl
  | receiverCancelled _ reading => exact absurd reading deaf
  | dispatcherCancelled _ pauses =>
    rw [Dispatcher.isOver_of_pauses pauses] at idle
    cases idle
  | arrived | finished | behaved | heldBack | letGo => rfl
  | reconciled => exact absurd rfl foreign.stores
  | unsupervised => exact absurd rfl foreign.listening
  | began => cases foreign.other
  | refused | dialled | streamless | opened | asked | started | disconnected | closed | hungUp
  | parted | dismissed | retired => cases foreign.own

/-- A session that has told its owner everything stands where it stood. -/
theorem frame_clear (d : Dialogue) :
    Frame d d.clear.session d.clear.coordinator d.clear.agenda :=
  ⟨rfl, rfl, rfl, rfl, Iff.rfl, Iff.rfl, fun _ => rfl, rfl, .inl rfl⟩

section Frame

variable (frame : Frame d d'.session d'.coordinator d'.agenda)

include frame

theorem live_of_frame (h : Live d) : Live d' :=
  ⟨frame.agenda.trans h.agenda, frame.phase.trans h.phase⟩

theorem open_of_frame (h : Open d) : Open d' :=
  ⟨live_of_frame frame h.toLive, frame.dismissed.trans h.kept⟩

theorem present_of_frame (h : d.session.dispatcher ≠ .absent) :
    d'.session.dispatcher ≠ .absent :=
  fun absent => h (frame.dispatcher.mp absent)

theorem retired_of_frame (h : Retired d) : Retired d' :=
  ⟨frame.agenda.trans h.agenda, frame.phase.trans h.phase, present_of_frame frame h.present,
    frame.dismissed.trans h.dismissed⟩

theorem served_of_frame (h : Served d) : Served d' := by
  refine ⟨frame.agenda ▸ h.agenda, present_of_frame frame h.present, ?_⟩
  rw [frame.phase, frame.agenda, frame.dismissed]
  exact h.dismissed

theorem unserved_of_frame {e : SessionError} (h : Unserved e d) : Unserved e d' :=
  ⟨frame.agenda.trans h.agenda, h.stage.of_frame frame⟩

theorem spares_of_frame {cause : Cause} {i : Nat} (h : cause.Spares i d) : cause.Spares i d' := by
  cases cause with
  | told => trivial
  | refused n e =>
    exact ⟨fun here => unserved_of_frame frame (h.1 here),
      fun behind => frame.unconnected (h.2 behind)⟩

/-- Tasks and coordinators leave a session where it stands. -/
theorem placed_of_frame {mode : Mode} {i : Nat} (h : Placed mode i d)
    (spent : d.session.tasksOver = true → d'.session.tasksOver = true) : Placed mode i d' := by
  have either (up : Open d ∨ Through d) : Open d' ∨ Through d' :=
    up.imp (open_of_frame frame) fun through =>
      ⟨retired_of_frame frame through.toRetired, spent through.spent⟩
  cases mode with
  | starting k =>
    obtain ⟨kept, before, here, after⟩ := h
    refine ⟨frame.dismissed.trans kept, fun less => live_of_frame frame (before less), ?_,
      fun later => ?_⟩
    · rw [frame.agenda]
      exact here
    · rw [frame.agenda] at later
      exact frame.unconnected (after later)
  | watching => exact either h
  | releasing k =>
    refine ⟨fun other => either (h.1 other), fun here => (h.2 here).imp (open_of_frame frame) ?_⟩
    rintro ⟨served, busy, gone⟩
    exact ⟨served_of_frame frame served, frame.agenda ▸ busy, spent gone⟩
  | leaving k cause =>
    refine ⟨spares_of_frame frame h.1, fun covered => ?_⟩
    obtain ⟨before, here, after⟩ := h.2 covered
    refine ⟨fun less => retired_of_frame frame (before less),
      fun now => served_of_frame frame (here now), fun later => ?_⟩
    rw [frame.agenda] at later
    exact (after later).imp (live_of_frame frame) (And.imp_right (retired_of_frame frame))
  | stopped cause =>
    exact ⟨spares_of_frame frame h.1, fun covered => retired_of_frame frame (h.2 covered)⟩

end Frame

theorem placed_of_foreign {a : Dialogue.Act} {mode : Mode} {i : Nat} (h : Placed mode i d)
    (foreign : Foreign a) (acted : d.act? a = some d') : Placed mode i d' := by
  have change := act_change acted
  refine placed_of_frame (change.frame foreign.own) h fun spent => ?_
  rw [(still_of_over foreign spent change).1, spent]

/-- A session under way is neither up nor still to be connected. -/
theorem placed_under_way (k : Nat) (kept : d.session.dismissed = false) (busy : d.agenda ≠ [])
    (connecting : ∀ errand ∈ d.agenda, errand.departs = false) : Placed (.starting k) k d := by
  refine ⟨kept, fun less => absurd less (Nat.lt_irrefl k), fun _ => connecting, ?_⟩
  rintro (less | ⟨-, idle⟩)
  · exact absurd less (Nat.lt_irrefl k)
  · exact absurd idle busy

theorem sane_of_act {a : Dialogue.Act} (sane : Sane d) (h : d.act? a = some d')
    (listening : a ≠ .unsupervise)
    (first : a.isConnect = true → Unconnected d.session d.coordinator d.agenda) :
    Sane d'.clear := by
  have change := act_change h
  obtain ⟨f, stage⟩ := sane.stage
  exact ⟨⟨_, stage.step change first⟩, (act_supervised h listening).trans sane.supervised,
    change.shut sane.shut, rfl⟩

theorem act_of_carryOn {result : Except SessionError Unit}
    (went : d.carryOn? = some (d', result)) : d.act? .carryOn = some d' := by
  rw [Dialogue.act?, went, Option.map_some]

theorem sane_of_carryOn {result : Except SessionError Unit} (sane : Sane d)
    (went : d.carryOn? = some (d', result)) : Sane d'.clear :=
  sane_of_act sane (act_of_carryOn went) nofun nofun

/-- A release may begin behind a few lines. -/
theorem sane_of_departure (sane : Sane d) (idle : d.agenda = []) (lines : List Log.Line) :
    Sane (d.say lines).beginRelease.clear := by
  have begun : d.act? .disconnect = some d.beginRelease := by rw [Dialogue.act?, if_pos idle]
  have silent : Sane d.beginRelease.clear :=
    sane_of_act sane begun (by simp) (by simp [Act.isConnect])
  exact silent

/-! ## Connecting one session -/

theorem exists_of_carryOn {result : Except SessionError Unit}
    (went : d.carryOn? = some (d', result)) : ∃ errand rest, d.agenda = errand :: rest ∧
      ({ d with agenda := rest } : Dialogue).perform errand = (d', result) := by
  unfold Dialogue.carryOn? at went
  split at went
  case h_1 => cases went
  case h_2 errand rest next => exact ⟨errand, rest, next, Option.some.inj went⟩

/-- Connecting does not tell the tasks to stop. -/
theorem kept_of_connecting {result : Except SessionError Unit}
    (kept : d.session.dismissed = false)
    (connecting : ∀ errand ∈ d.agenda, errand.departs = false)
    (went : d.carryOn? = some (d', result)) : d'.session.dismissed = false ∧
      (result = .ok () → ∀ errand ∈ d'.agenda, errand.departs = false) := by
  obtain ⟨errand, rest, next, performed⟩ := exists_of_carryOn went
  rw [next] at connecting
  constructor
  · have change := act_change (act_of_carryOn went)
    generalize d'.session = session, d'.coordinator = c, d'.agenda = g, d'.ended = ended at change ⊢
    have stays {errand' : Errand} {rest' : List Errand} (here : d.agenda = errand' :: rest') :
        errand'.departs = false := by
      rw [next, List.cons.injEq] at here
      rw [← here.1]
      exact connecting errand List.mem_cons_self
    cases change with
    | refused | dialled | streamless | asked | started => exact kept
    | opened => rfl
    | hungUp here | parted here | dismissed here | retired here => cases stays here
  · rintro rfl
    rw [perform_agenda errand performed]
    exact fun later among => connecting later (List.mem_cons_of_mem _ among)

/-- Connecting ends with a session that is up. -/
theorem live_of_done (sane : Sane d)
    (connecting : ∀ errand ∈ d.agenda, errand.departs = false)
    (went : d.carryOn? = some (d', .ok ())) (last : d'.agenda = []) : Live d' := by
  obtain ⟨errand, rest, next, performed⟩ := exists_of_carryOn went
  have none : rest = [] := (perform_agenda errand performed).symm.trans last
  subst none
  obtain ⟨f, stage⟩ := sane.stage
  have only : errand = .startDispatcher := by
    have stays := connecting errand (by simp [next])
    have here := stage
    rw [next] at here
    cases errand with
    | startDispatcher => rfl
    | dial => cases here.of_dial.2.1
    | openStream => cases here.of_openStream.2.1
    | bid | portRange =>
      obtain ⟨-, -, -, -, -, before, agenda, -⟩ := here.of_registration rfl
      exact registration_end agenda
    | closeSend | close | dismiss | retire => cases stays
  exact live_of_last stage (by rw [next, only]) (act_of_carryOn went)

/-- A session that fails to connect closes what it has opened. -/
theorem unserved_of_failure {e : SessionError} (sane : Sane d)
    (failed : d.carryOn? = some (d', .error e)) : Unserved e d' := by
  obtain ⟨f, stage⟩ := sane.stage
  obtain ⟨errand, rest, next, performed⟩ := exists_of_carryOn failed
  have told : d.failureAt? .carryOn = some e := by simp only [Dialogue.failureAt?, failed]
  have later := stage.carryOn (act_change (act_of_carryOn failed))
  have unfailed : f = none := by
    rw [next] at stage
    cases errand with
    | dial => exact stage.of_dial.1
    | openStream => exact stage.of_openStream.1
    | bid | portRange | startDispatcher => exact (stage.of_registration rfl).1
    | closeSend => exact stage.of_closeSend.1
    | close => exact stage.of_close.1
    | dismiss | retire => cases performed
  rw [unfailed, told, Option.none_or] at later
  exact ⟨perform_failed performed, later⟩

end PeeringAgent.Supervisor
