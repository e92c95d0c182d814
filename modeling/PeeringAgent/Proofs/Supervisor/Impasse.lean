import PeeringAgent.Proofs.Supervisor.Reaction
import PeeringAgent.Proofs.Supervisor.Release

/-!
# Pushes that are not answered

A release waits for the dispatcher of its session, and the dispatcher for the answer to a
push. Until it comes the supervisor does nothing at all, and no session is disconnected.
A release that no push holds up goes on to its end.
-/

set_option autoImplicit false

namespace PeeringAgent.Supervisor

open Dialogue

variable {d d' : Dialogue} {s s' : Supervisor} {i : Nat} {session : Session} {c : Coordinator}
  {g : List Errand} {ended : List StreamEnded} {a : Dialogue.Act}

/-! ## Whether pushes are held up -/

theorem dropStream_held (c : Coordinator) : c.dropStream.held = c.held := by
  unfold Coordinator.dropStream
  split <;> rfl

theorem put_held (c : Coordinator) (a : Arrival) : (c.put a).1.held = c.held := by
  unfold Coordinator.put
  split <;> rfl

/-- No task holds up the pushes of its session. -/
theorem held_of_effect {m : Move} (effect : d.Effect m session c ended) :
    c.held = d.coordinator.held := by
  cases effect with
  | orphaned | failed | finished => exact dropStream_held _
  | queuedArbitration | queuedDirective | ignored | demoted | promoted | pushed | heldUp
  | panicked | applied | resumed | arbitrationsClosed | directivesClosed | stopped => rfl

theorem held_of_moves (moves : List Move) (run : Dialogue.run? (moves.map .move) d = some d') :
    d'.coordinator.held = d.coordinator.held := by
  induction moves generalizing d with
  | nil =>
    cases run
    rfl
  | cons m moves ih =>
    obtain ⟨e, moved, rest⟩ := Option.bind_eq_some_iff.mp run
    exact (ih rest).trans (held_of_effect (move_moved moved).effect)

/-! ## Waiting for an answer -/

/-- A session that is up, with a push that is not answered. -/
structure Unanswered (d : Dialogue) : Prop extends Open d where
  pushing : d.session.dispatcher = .pushing
  held : d.coordinator.held = true

theorem Unanswered.pushing_of_change (h : Unanswered d) (foreign : Foreign a)
    (stands : a ≠ .crash) (change : d.Change a session c g ended) :
    session.dispatcher = .pushing := by
  have busy {now : Dispatcher} (other : d.session.dispatcher = now) (elsewhere : now ≠ .pushing)
      {p : Prop} : p := absurd (other.symm.trans h.pushing) elsewhere
  cases change with
  | moved effect =>
    cases effect with
    | queuedArbitration | queuedDirective | ignored | orphaned | failed | finished =>
      exact h.pushing
    | demoted waiting | promoted waiting | applied waiting | arbitrationsClosed waiting
    | directivesClosed waiting | stopped waiting => exact busy waiting nofun
    | pushed promoted | heldUp promoted | panicked promoted => exact busy promoted nofun
    | resumed _ free =>
      rw [h.held] at free
      cases free
  | crashed => exact absurd rfl stands
  | dispatcherCancelled told =>
    rw [h.kept] at told
    cases told
  | arrived | finished | behaved | heldBack | letGo | receiverCancelled | reconciled
  | unsupervised => exact h.pushing
  | began => cases foreign.other
  | refused | dialled | streamless | opened | asked | started | disconnected | closed | hungUp
  | parted | dismissed | retired => cases foreign.own

theorem Unanswered.held_of_change (h : Unanswered d) (foreign : Foreign a) (silent : a ≠ .release)
    (change : d.Change a session c g ended) : c.held = true := by
  cases change with
  | moved effect => exact (held_of_effect effect).trans h.held
  | arrived => exact (put_held _ _).trans h.held
  | receiverCancelled => exact (dropStream_held _).trans h.held
  | heldBack => rfl
  | letGo => exact absurd rfl silent
  | finished | behaved | crashed | dispatcherCancelled | reconciled | unsupervised => exact h.held
  | began => cases foreign.other
  | refused | dialled | streamless | opened | asked | started | disconnected | closed | hungUp
  | parted | dismissed | retired => cases foreign.own

/-- Nothing but the answer ends the wait, or the end of the dispatcher. -/
theorem Unanswered.step (h : Unanswered d) (foreign : Foreign a) (silent : a ≠ .release)
    (stands : a ≠ .crash) (acted : d.act? a = some d') : Unanswered d' := by
  have change := act_change acted
  exact ⟨open_of_frame (change.frame foreign.own) h.toOpen,
    h.pushing_of_change foreign stands change, h.held_of_change foreign silent change⟩

/-- What is left of a session that nobody releases: its tasks may have pushed meanwhile. -/
structure LeftAlone (d d' : Dialogue) : Prop where
  phase : d'.session.phase = d.session.phase
  connected : d'.session.connected = d.session.connected
  config : d'.session.config = d.session.config
  calls : ∃ pushes, d'.coordinator.calls =
    d.coordinator.calls ++ List.replicate pushes d.session.config.pushCall

theorem LeftAlone.refl (d : Dialogue) : LeftAlone d d := ⟨rfl, rfl, rfl, 0, by simp⟩

theorem LeftAlone.step {e : Dialogue} (h : LeftAlone e d) (foreign : Foreign a)
    (acted : d.act? a = some d') : LeftAlone e d' := by
  have frame := (act_change acted).frame foreign.own
  obtain ⟨pushes, calls⟩ := h.calls
  refine ⟨frame.phase.trans h.phase, frame.connected.trans h.connected,
    frame.config.trans h.config, ?_⟩
  rcases frame.calls with same | ⟨-, pushed⟩
  · exact ⟨pushes, same.trans calls⟩
  · refine ⟨pushes + 1, ?_⟩
    rw [pushed, calls, h.config, List.replicate_succ', List.append_assoc]

/-! ## The supervisor meanwhile -/

/-- The coordinator answers the push of a session, or the push brings its dispatcher down. -/
def Act.answers (index : Nat) : Act → Bool
  | .session i .release => i == index
  | .session i .crash => i == index
  | _ => false

/-- The supervisor waits in a release for the answer to a push. -/
structure Waits (s : Supervisor) (i : Nat) : Prop where
  mode : s.mode = .releasing i
  unanswered : ∃ d, s.dialogues[i]? = some d ∧ Unanswered d

/-- Only tasks and coordinators can do something while the supervisor waits. -/
theorem Waits.still (h : Waits s i) {a : Act} (own : ∀ j b, a ≠ .session j b) :
    s.act? a = none := by
  obtain ⟨mode, d, found, up, pushing, -⟩ := h
  cases a with
  | carryOn =>
    have stuck : d.awaitTasks? = none := by
      simp [awaitTasks?, up.kept, Session.tasksOver, pushing, Dispatcher.isOver]
    simp only [act?, Supervisor.carryOn?, mode, releaseNext?, found, Option.bind_some, up.agenda,
      if_true, stuck, Option.map_none]
  | session j b => exact absurd rfl (own j b)
  | hear => simp only [act?, hear?, mode]
  | tick | interrupt | signalLost => simp [act?, mode]

theorem Waits.step (h : Waits s i) {a : Act} (silent : a.answers i = false)
    (step : s.act? a = some s') : Waits s' i ∧ ∀ (j : Nat) (d e : Dialogue),
      s.dialogues[j]? = some d → LeftAlone e d → ∃ d', s'.dialogues[j]? = some d' ∧
        LeftAlone e d' := by
  cases a with
  | session k a =>
    obtain ⟨foreign, d₀, d', found, acted, rfl⟩ := session_cases step
    obtain ⟨mode, d, at_i, unanswered⟩ := h
    refine ⟨⟨mode, ?_⟩, fun j d e at_j alone => ?_⟩
    · by_cases here : i = k
      -- Of the session that is waited for, an act could end the wait; those that do are left out.
      · subst here
        obtain rfl : d = d₀ := Option.some.inj (at_i.symm.trans found)
        have next := unanswered.step foreign (by rintro rfl; simp [Act.answers] at silent)
          (by rintro rfl; simp [Act.answers] at silent) acted
        exact ⟨_, update_same found, open_of_frame (frame_clear d') next.toOpen, next.pushing,
          next.held⟩
      · exact ⟨d, (update_other here).trans at_i, unanswered⟩
    · by_cases here : j = k
      · subst here
        obtain rfl : d = d₀ := Option.some.inj (at_j.symm.trans found)
        obtain ⟨phase, connected, config, calls⟩ := alone.step foreign acted
        exact ⟨_, update_same found, phase, connected, config, calls⟩
      · exact ⟨d, (update_other here).trans at_j, alone⟩
  | carryOn | hear | tick | interrupt | signalLost =>
    rw [h.still (by simp)] at step
    cases step

/-- What becomes of the agent while a push is not answered. -/
structure Impasse (s s' : Supervisor) (i : Nat) : Prop where
  mode : s'.mode = .releasing i
  /-- It hears no event, does not reconcile and is deaf to signals. -/
  still : ∀ a, (∀ j b, a ≠ .session j b) → s'.act? a = none
  /-- No session is disconnected. -/
  alone : ∀ (j : Nat) (d : Dialogue), s.dialogues[j]? = some d →
    ∃ d', s'.dialogues[j]? = some d' ∧ LeftAlone d d'

/-- The supervisor waits as long as there is no answer. -/
theorem Waits.run (acts : List Act) (h : Waits s i) (silent : ∀ a ∈ acts, a.answers i = false)
    (run : run? acts s = some s') : Impasse s s' i := by
  have kept := run_keeps (fun e => Waits e i ∧ ∀ (j : Nat) (d : Dialogue),
      s.dialogues[j]? = some d → ∃ d', e.dialogues[j]? = some d' ∧ LeftAlone d d')
    (fun a => a.answers i = false) (fun e a e' silent ⟨waits, alone⟩ step => ?_) acts s s' silent
    ⟨h, fun j d at_j => ⟨d, at_j, .refl d⟩⟩ run
  · obtain ⟨waits, alone⟩ := kept
    exact ⟨waits.mode, fun _ => waits.still, alone⟩
  · obtain ⟨waits', next⟩ := waits.step silent step
    refine ⟨waits', fun j d at_j => ?_⟩
    obtain ⟨d', found, left⟩ := alone j d at_j
    exact next j d' d found left

/-- A session with a push under way is not on the way out. -/
theorem waits_of_standing (h : Standing s) (mode : s.mode = .releasing i)
    (found : s.dialogues[i]? = some d) (pushing : d.session.dispatcher = .pushing)
    (held : d.coordinator.held = true) : Waits s i := by
  have placed := h.placed i d found
  rw [mode] at placed
  have up := (placed.2 rfl).resolve_right fun ⟨_, _, spent⟩ => by
    simp [Session.tasksOver, pushing, Dispatcher.isOver] at spent
  exact ⟨mode, d, found, up, pushing, held⟩

/-! ## Releases that end -/

theorem idle_clear (h : d.Idle) : d.clear.Idle := by
  intro m
  have stuck := h m
  rw [← preface_clear d, move_preface] at stuck
  exact Option.map_eq_none_iff.mp stuck

/-- What its tasks do until they are idle happens to a session of the supervisor. -/
theorem exists_run_moves (mode : s.mode = .releasing i) (found : s.dialogues[i]? = some d)
    (taken : d.clear = d) (free : d.coordinator.held = false) :
    ∃ (moves : List Move) (s' : Supervisor) (d' : Dialogue),
      run? (moves.map fun m => .session i (.move m)) s = some s' ∧ s'.mode = .releasing i ∧
      s'.dialogues[i]? = some d' ∧ d'.Idle ∧ d'.coordinator.held = false := by
  obtain ⟨moves, settled⟩ := settle_run d
  have run := run_sessions (moves.map .move) found taken (by simp [isForeign]) settled
  rw [List.map_map] at run
  exact ⟨moves, _, _, run, mode, update_same found, idle_clear (settle_idle d),
    (held_of_moves moves settled).trans free⟩

/-- A release that no push holds up comes to its end. -/
theorem exists_run_watching_again (h : Orderly s) (mode : s.mode = .releasing i)
    (found : s.dialogues[i]? = some d) (free : d.coordinator.held = false) :
    ∃ (moves : List Move) (n : Nat) (s' : Supervisor),
      run? (moves.map (fun m => .session i (.move m)) ++ List.replicate n .carryOn) s = some s' ∧
      s'.mode = .watching := by
  obtain ⟨moves, m, d', run, waiting, found', idle, free'⟩ :=
    exists_run_moves mode found (h.standing.sane i d found).taken free
  have orderly := orderly_of_run _ h run
  -- Its tasks are idle and no push is held up, so they are over.
  have gone := ((faithful_of_orderly orderly).waits i d' waiting found' idle).resolve_right
    fun ⟨_, held⟩ => by
      rw [free'] at held
      cases held
  obtain ⟨n, s', rest, watching, -⟩ := exists_run_released orderly.standing waiting found' gone
  refine ⟨moves, n, s', ?_, watching⟩
  rw [run_append, run]
  exact rest

end PeeringAgent.Supervisor
