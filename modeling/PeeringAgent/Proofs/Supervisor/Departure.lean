import PeeringAgent.Proofs.Supervisor.Pursuit

/-!
# Departures

An agent that leaves disconnects its sessions one after the other: those before the one
that could not connect, or all that are still open. Tasks may go on all the while. Here
is how far that has come at any moment, and what it leaves behind.
-/

set_option autoImplicit false

namespace PeeringAgent.Supervisor

open Dialogue SessionConfig

variable {d d' : Dialogue} {s s' : Supervisor} {k : Nat}

/-- Disconnected once: its calls end with one close of each kind, but for the pushes of a
dispatcher that has not stopped yet, and its tasks have been told to stop. -/
structure Disconnected (d : Dialogue) : Prop extends Retired d where
  connected : d.session.connected = false
  calls : ∃ pushes between behind, d.coordinator.calls =
    d.session.config.service pushes ++ d.session.config.farewell between behind

theorem Retired.disconnected (h : Retired d) (sane : Sane d) : Disconnected d := by
  obtain ⟨connected, calls⟩ := h.calls sane
  exact ⟨h, connected, calls⟩

/-- A session that could not connect has closed what it had opened. -/
structure Refused (e : SessionError) (d : Dialogue) : Prop where
  agenda : d.agenda = []
  phase : d.session.phase = .closed
  connected : d.session.connected = false
  calls : Script d.session.config (some e) d.coordinator.calls

theorem Unserved.refused {e : SessionError} (h : Unserved e d) : Refused e d := by
  obtain ⟨agenda, stage⟩ := h
  generalize reason : some e = f at stage
  cases stage with
  | refused cause _ resting phase calls =>
    cases reason
    exact ⟨agenda, phase, resting.connected, calls ▸ .refused cause⟩
  | streamless cause _ resting phase calls =>
    cases reason
    exact ⟨agenda, phase, resting.connected, calls ▸ .streamless cause⟩
  | unconnected | dialling | dialled | registering | serving | hungUp | released => cases reason

/-- Nothing is connected, and all calls are made that connecting and a release make. -/
structure Parted (d : Dialogue) : Prop where
  connected : d.session.connected = false
  calls : d.coordinator.calls = [] ∨ ∃ f, Script d.session.config f d.coordinator.calls

theorem Disconnected.parted (h : Disconnected d) : Parted d := by
  obtain ⟨pushes, between, behind, calls⟩ := h.calls
  exact ⟨h.connected, .inr ⟨none, calls ▸ .full pushes between behind⟩⟩

theorem Refused.parted {e : SessionError} (h : Refused e d) : Parted d :=
  ⟨h.connected, .inr ⟨some e, h.calls⟩⟩

theorem parted_of_unconnected (h : Unconnected d.session d.coordinator d.agenda) : Parted d :=
  ⟨h.resting.connected, .inl h.calls⟩

/-! ## Configurations -/

/-- The configurations of all sessions. -/
def configs (s : Supervisor) : List SessionConfig := s.dialogues.map fun d => d.session.config

theorem configs_update {a : Dialogue.Act} (found : s.dialogues[k]? = some d)
    (acted : d.act? a = some d') : (s.update k d').configs = s.configs :=
  update_map (fun d => d.session.config) found (act_change acted).config

theorem configs_of_carryOn (step : s.carryOn? = some s') : s'.configs = s.configs := by
  cases carryOn_continues step with
  | ready | skipped | stopped => rfl
  | began _ found idle => exact configs_update found (act_of_began idle)
  | went _ found result => exact configs_update found (act_of_carryOn result)
  | done _ found result => exact configs_update found (act_of_carryOn result)
  | failed _ found result => exact configs_update found (act_of_carryOn result)
  | waited _ found => exact update_map (fun d => d.session.config) found rfl
  | parted _ _ found => exact update_map (fun d => d.session.config) found rfl
  | pursued _ found went => exact configs_update found (act_of_carryOn went)
  | retired _ found went => exact configs_update found (act_of_carryOn went)

theorem configs_of_act {a : Act} (step : s.act? a = some s') : s'.configs = s.configs := by
  cases a with
  | carryOn => exact configs_of_carryOn step
  | session index a =>
    obtain ⟨-, d, d', found, acted, rfl⟩ := session_cases step
    exact configs_update found acted
  | hear =>
    obtain ⟨-, -, same, -⟩ := hear_cases step
    rw [configs, configs, same]
  | tick =>
    obtain ⟨-, rfl⟩ := watching_of_tick step
    rw [configs, configs, tick_dialogues, List.map_map]
    rfl
  | interrupt =>
    obtain ⟨-, rfl⟩ := watching_of_leave step
    rfl
  | signalLost cause =>
    obtain ⟨-, rfl⟩ := watching_of_leave step
    rfl

theorem configs_of_run (acts : List Act) (run : run? acts s = some s') :
    s'.configs = s.configs :=
  run_keeps (fun e => e.configs = s.configs) (fun _ => True)
    (fun _ _ _ _ same step => (configs_of_act step).trans same) acts s s' (fun _ _ => trivial)
    rfl run

theorem length_of_run (acts : List Act) (run : run? acts s = some s') :
    s'.dialogues.length = s.dialogues.length := by
  have same := congrArg List.length (configs_of_run acts run)
  rwa [configs, configs, List.length_map, List.length_map] at same

/-! ## To the end -/

/-- The session whose turn it is comes to the end of it. -/
theorem exists_run_next {cause : Cause} (h : Standing s) (mode : s.mode = .leaving k cause)
    (more : k < cause.reach s.dialogues.length) (found : s.dialogues[k]? = some d) :
    ∃ n s', run? (List.replicate n .carryOn) s = some s' ∧
      s'.mode = .leaving (k + 1) cause := by
  have placed := h.placed k d found
  rw [mode] at placed
  have served := (placed.2 (covers_of_turn more)).2.1 rfl
  by_cases idle : d.agenda = []
  · cases part : cause.part? d with
    | none =>
      refine ⟨1, { s with mode := .leaving (k + 1) cause }, ?_, rfl⟩
      rw [List.replicate_one, run?, turn_of_part_none mode more found idle part]
      rfl
    | some e =>
      obtain ⟨-, lines, rfl⟩ := part_cases part
      obtain ⟨n, s', run, next, -⟩ := exists_run_served
        (s := s.update k (d.say lines).beginRelease) (Pursues.update (.leaving mode more))
        (update_same found) (served_of_frame (frame_clear _) (served_of_departure served lines))
        (departure_ne_nil _)
      refine ⟨n + 1, s', ?_, next⟩
      rw [List.replicate_succ, run?, turn_of_part mode more found idle part]
      exact run
  · obtain ⟨n, s', run, next, -⟩ := exists_run_served (.leaving mode more) found served idle
    exact ⟨n, s', run, next⟩

/-- So does every session behind it; the induction is on how many are left. -/
theorem exists_run_last {cause : Cause} (n : Nat) (h : Standing s)
    (mode : s.mode = .leaving k cause)
    (reach : cause.reach s.dialogues.length ≤ s.dialogues.length)
    (left : cause.reach s.dialogues.length - k = n) :
    ∃ n s', run? (List.replicate n .carryOn) s = some s' ∧ s'.mode = .stopped cause := by
  induction n generalizing s k with
  | zero =>
    refine ⟨1, { s.say cause.lastLines with mode := .stopped cause }, ?_, rfl⟩
    rw [List.replicate_one, run?, act?, Supervisor.carryOn?, mode]
    simp only [leaveNext?, if_neg (show ¬k < cause.reach s.dialogues.length by omega)]
    rfl
  | succ n ih =>
    have more : k < cause.reach s.dialogues.length := by omega
    obtain ⟨m, e, run, next⟩ := exists_run_next h mode more
      (List.getElem?_eq_getElem (Nat.lt_of_lt_of_le more reach))
    have length := length_of_run _ run
    obtain ⟨m', s', rest, stopped⟩ := ih (standing_of_run _ h run) next
      (by rw [length]; exact reach) (by rw [length]; omega)
    refine ⟨m + m', s', ?_, stopped⟩
    rw [List.replicate_add, run_append, run]
    exact rest

/-- An agent that leaves gets to its end: no step of it has to wait. -/
theorem exists_run_stopped {cause : Cause} (h : Standing s)
    (leaves : s.mode.cause? = some cause)
    (reach : cause.reach s.dialogues.length ≤ s.dialogues.length) :
    ∃ n s', run? (List.replicate n .carryOn) s = some s' ∧ s'.mode = .stopped cause := by
  cases mode : s.mode with
  | starting | watching | releasing =>
    rw [mode] at leaves
    cases leaves
  | stopped c =>
    rw [mode] at leaves
    obtain rfl := Option.some.inj leaves
    exact ⟨0, s, rfl, mode⟩
  | leaving j c =>
    rw [mode] at leaves
    obtain rfl := Option.some.inj leaves
    exact exists_run_last _ h mode reach rfl

/-- An agent that leaves does nothing else until its end. -/
theorem cause_of_run {cause : Cause} (acts : List Act) (leaves : s.mode.cause? = some cause)
    (run : run? acts s = some s') :
    s'.mode.cause? = some cause ∧ ∀ a ∈ acts, a.isStartup = true := by
  induction acts generalizing s with
  | nil =>
    cases run
    exact ⟨leaves, by simp⟩
  | cons a as ih =>
    obtain ⟨m, step, rest⟩ := Option.bind_eq_some_iff.mp run
    obtain ⟨later, startup⟩ := cause_of_act leaves step
    obtain ⟨last, startups⟩ := ih later rest
    exact ⟨last, List.forall_mem_cons.mpr ⟨startup, startups⟩⟩

/-! ## A session that cannot connect -/

/-- Connecting the session at an index has failed, and nothing is left open. -/
structure Failed (sessions : List SessionConfig) (k : Nat) (e : SessionError)
    (dialogues : List Dialogue) : Prop where
  configs : dialogues.map (fun d => d.session.config) = sessions
  /-- The sessions before it were connected, and have been disconnected once. -/
  before : ∀ j d, j < k → dialogues[j]? = some d → Disconnected d
  /-- The session itself has closed what it had opened. -/
  failing : ∃ d, dialogues[k]? = some d ∧ Refused e d
  /-- The sessions after it have not been dialled. -/
  after : ∀ j d, k < j → dialogues[j]? = some d →
    Unconnected d.session d.coordinator d.agenda

/-- What holds from the failure on, with the tasks of other sessions still going on. -/
structure Failing (sessions : List SessionConfig) (k : Nat) (e : SessionError)
    (s : Supervisor) : Prop where
  /-- The agent leaves because of the failure, and it does nothing else. -/
  cause : s.mode.cause? = some (.refused k e)
  failing : ∃ d, s.dialogues[k]? = some d ∧ Refused e d
  after : ∀ j d, k < j → s.dialogues[j]? = some d →
    Unconnected d.session d.coordinator d.agenda
  /-- The sessions before it go in their order. -/
  order : ∀ j, s.mode = .leaving j (.refused k e) → ∀ i d, i < k → s.dialogues[i]? = some d →
    (i < j → Disconnected d) ∧ (j < i ∨ i = j ∧ d.agenda = [] → Live d)
  ended : s.mode = .stopped (.refused k e) → Failed sessions k e s.dialogues
  /-- Nothing has to be waited for before the end. -/
  ends : ∃ n s', run? (List.replicate n .carryOn) s = some s' ∧ s'.mode = .stopped (.refused k e)

/-- The session that could not connect, and those behind it, where the agent leaves. -/
theorem spares_of_standing {cause : Cause} {i : Nat} (h : Standing s)
    (leaves : s.mode.cause? = some cause) (found : s.dialogues[i]? = some d) :
    cause.Spares i d := by
  have placed := h.placed i d found
  cases mode : s.mode with
  | leaving j c =>
    rw [mode] at leaves placed
    obtain rfl := Option.some.inj leaves
    exact placed.1
  | stopped c =>
    rw [mode] at leaves placed
    obtain rfl := Option.some.inj leaves
    exact placed.1
  | starting | watching | releasing =>
    rw [mode] at leaves
    cases leaves

theorem failing_of_standing {e : SessionError} (h : Standing s)
    (leaves : s.mode.cause? = some (.refused k e)) (bound : k < s.dialogues.length) :
    Failing s.configs k e s := by
  have found := List.getElem?_eq_getElem bound
  have failing : Refused e s.dialogues[k] :=
    ((spares_of_standing h leaves found).1 rfl).refused
  have after (j : Nat) (d : Dialogue) (less : k < j) (at_j : s.dialogues[j]? = some d) :=
    (spares_of_standing h leaves at_j).2 less
  refine ⟨leaves, ⟨_, found, failing⟩, after, ?_, ?_,
    exists_run_stopped h leaves (Nat.le_of_lt bound)⟩
  · intro j mode i d less at_i
    have placed := h.placed i d at_i
    rw [mode] at placed
    obtain ⟨gone, -, waits⟩ := placed.2 less
    exact ⟨fun before => (gone before).disconnected (h.sane i d at_i),
      fun later => (waits later).resolve_right nofun⟩
  · intro mode
    refine ⟨rfl, fun j d less at_j => ?_, ⟨_, found, failing⟩, after⟩
    have placed := h.placed j d at_j
    rw [mode] at placed
    exact (placed.2 less).disconnected (h.sane j d at_j)

/-- An act that finds a session unable to connect makes the agent leave. -/
theorem failureAt_cases {a : Act} {e : SessionError} (step : s.act? a = some s')
    (failure : s.failureAt? a = some (k, e)) : a = .carryOn ∧ s.mode = .starting k ∧
      k < s.dialogues.length ∧ s'.mode.cause? = some (.refused k e) := by
  cases a with
  | carryOn =>
    simp only [Supervisor.failureAt?] at failure
    split at failure
    case h_2 => cases failure
    case h_1 j mode =>
      obtain ⟨e', told, same⟩ := Option.map_eq_some_iff.mp failure
      cases same
      obtain ⟨d, found, told⟩ := Option.bind_eq_some_iff.mp told
      refine ⟨rfl, mode, (List.getElem?_eq_some_iff.mp found).1, ?_⟩
      simp only [Dialogue.failureAt?] at told
      split at told
      case h_2 => cases told
      case h_1 d' e' went =>
        obtain rfl := Option.some.inj told
        have busy : d.agenda ≠ [] := by
          obtain ⟨errand, rest, next, -⟩ := exists_of_carryOn went
          rw [next]
          exact List.cons_ne_nil _ _
        simp only [act?, Supervisor.carryOn?, mode, connectNext?, found, if_neg busy, went] at step
        obtain rfl := Option.some.inj step
        rfl
  | session | hear | tick | interrupt | signalLost => cases failure

/-- An agent that is starting has come from its start. -/
theorem starting_of_act {a : Act} (step : s.act? a = some s') (mode : s'.mode = .starting k) :
    (∃ j, s.mode = .starting j) ∧ a.isStartup = true := by
  cases a with
  | carryOn =>
    refine ⟨?_, rfl⟩
    cases carryOn_continues step with
    | ready | failed | skipped | stopped => cases mode
    | began starting | went starting | done starting => exact ⟨_, starting⟩
    | waited | parted => exact ⟨k, mode⟩
    | pursued => exact ⟨k, mode⟩
    | retired pursues => cases pursues <;> cases mode
  | session index a =>
    obtain ⟨-, d, d', -, -, rfl⟩ := session_cases step
    exact ⟨⟨k, mode⟩, rfl⟩
  | hear =>
    obtain ⟨-, -, -, watching | ⟨i, d, releasing, -⟩⟩ := hear_cases step
    · rw [watching] at mode
      cases mode
    · rw [releasing] at mode
      cases mode
  | tick =>
    obtain ⟨watching, rfl⟩ := watching_of_tick step
    rw [show s.tick.1.mode = .watching from watching] at mode
    cases mode
  | interrupt =>
    obtain ⟨-, rfl⟩ := watching_of_leave step
    cases mode
  | signalLost cause =>
    obtain ⟨-, rfl⟩ := watching_of_leave step
    cases mode

/-- Where a session cannot connect, nothing but connecting has come before, and the agent
does nothing but leave afterwards. -/
theorem cause_of_failure {e : SessionError} (acts : List Act) (run : run? acts s = some s')
    (failure : failure? acts s = some (k, e)) : (∃ j, s.mode = .starting j) ∧
      k < s.dialogues.length ∧ s'.mode.cause? = some (.refused k e) ∧
      ∀ a ∈ acts, a.isStartup = true := by
  induction acts generalizing s with
  | nil => cases failure
  | cons a as ih =>
    obtain ⟨m, step, rest⟩ := Option.bind_eq_some_iff.mp run
    rw [failure?, step, Option.bind_some] at failure
    rcases Option.or_eq_some_iff.mp failure with now | ⟨-, later⟩
    · obtain ⟨rfl, mode, bound, leaves⟩ := failureAt_cases step now
      obtain ⟨cause, startups⟩ := cause_of_run as leaves rest
      exact ⟨⟨k, mode⟩, bound, cause, List.forall_mem_cons.mpr ⟨rfl, startups⟩⟩
    · obtain ⟨⟨j, mode⟩, bound, cause, startups⟩ := ih rest later
      obtain ⟨starting, startup⟩ := starting_of_act step mode
      have same : m.dialogues.length = s.dialogues.length := by
        refine length_of_run [a] ?_
        rw [run?, step]
        rfl
      exact ⟨starting, same ▸ bound, cause, List.forall_mem_cons.mpr ⟨startup, startups⟩⟩

/-! ## In one go -/

/-- The line of a session that has been disconnected. -/
def disconnected (client : String) : Log.Line := Log.info (Log.tagged client "Disconnected")

theorem cancelTasks_log (d : Dialogue) : d.cancelTasks.log = d.log := by
  unfold cancelTasks cancelReceiver? cancelDispatcher?
  dsimp only
  split <;> split <;> rfl

theorem disconnect_log_of_live (sane : Sane d) (live : Live d) :
    d.disconnect.log = [disconnected d.name] := by
  obtain ⟨f, stage⟩ := sane.stage
  obtain ⟨connected, -⟩ := stage.serving_of_streaming live.phase live.agenda
  have silent : d.log = [] := (congrArg Dialogue.log sane.taken).symm
  rw [Dialogue.disconnect, cancelTasks_log, d.session.departure_of_connected connected]
  show (if d.session.phase = .streaming then _ else _ : Dialogue).log = _
  rw [if_pos live.phase]
  show d.log ++ _ = _
  rw [silent]
  rfl

theorem forEach_log (f : Dialogue → Dialogue) (log : List Log.Line) (ds : List Dialogue) :
    (forEach f log ds).1 = log ++ ds.flatMap fun d => (f d).log := by
  induction ds generalizing log with
  | nil => exact (List.append_nil log).symm
  | cons d ds ih =>
    show (forEach f (log ++ (f d).log) ds).1 = _
    rw [ih, List.append_assoc, List.flatMap_cons]

/-- Sessions that are left because of a failure are told of in their order. -/
theorem left_log {e : SessionError} (h : Standing s) (mode : s.mode = .leaving 0 (.refused k e))
    (tidy : ∀ d ∈ s.dialogues, Tidy d) : (s.left (.refused k e)).log =
    s.log ++ (s.configs.take k).map fun c => disconnected c.name := by
  have told (d : Dialogue) (among : d ∈ s.dialogues.take k) :
      d.disconnect.log = [disconnected d.name] := by
    obtain ⟨i, less, rfl⟩ := List.mem_take_iff_getElem.mp among
    have found := List.getElem?_eq_getElem (Nat.lt_of_lt_of_le less (Nat.min_le_right _ _))
    have placed := h.placed i _ found
    rw [mode] at placed
    obtain ⟨-, -, waits⟩ := placed.2 (Nat.lt_of_lt_of_le less (Nat.min_le_left _ _))
    have idle := (tidy _ (List.mem_of_getElem? found)).agenda
    have live := (waits (i.eq_zero_or_pos.symm.imp_right (⟨·, idle⟩))).resolve_right nofun
    exact disconnect_log_of_live (h.sane i _ found) live
  show (forEach Dialogue.disconnect s.log (s.dialogues.take k)).1 ++ [] = _
  rw [List.append_nil, forEach_log, List.flatMap_congr told, ← List.map_eq_flatMap, configs,
    ← List.map_take, List.map_map]
  rfl

/-! ## Being told to leave -/

/-- What holds from the moment on at which the agent has been told to leave. -/
structure Leaves (s s' : Supervisor) : Prop where
  cause : s'.mode.cause? = some .told
  /-- Sessions that were open, and called nothing of a release, are disconnected once. -/
  closes : ∀ (i : Nat) (d : Dialogue), s.dialogues[i]? = some d → d.session.phase ≠ .closed →
    (∃ pushes, d.coordinator.calls = d.session.config.service pushes) ∧
      ∃ d', s'.dialogues[i]? = some d' ∧ (s'.mode = .stopped .told → Disconnected d')
  /-- Nothing happens any more to those that had been released. -/
  spares : ∀ (i : Nat) (d : Dialogue), s.dialogues[i]? = some d → d.session.phase = .closed →
    Disconnected d ∧ ∃ d', s'.dialogues[i]? = some d' ∧ d'.session = d.session ∧
      d'.coordinator.calls = d.coordinator.calls
  /-- Nothing has to be waited for before the end. -/
  ends : ∃ n s'', run? (List.replicate n .carryOn) s' = some s'' ∧ s''.mode = .stopped .told

/-- A session that has been released, and what has become of it. -/
structure Left (d d' : Dialogue) : Prop where
  session : d'.session = d.session
  calls : d'.coordinator.calls = d.coordinator.calls
  agenda : d'.agenda = []

theorem left_of_update {i : Nat} {d₀ : Dialogue} (other : i ≠ k)
    (left : ∃ e, s.dialogues[i]? = some e ∧ Left d₀ e) :
    ∃ e, (s.update k d).dialogues[i]? = some e ∧ Left d₀ e := by
  obtain ⟨e, found, left⟩ := left
  exact ⟨e, (update_other other).trans found, left⟩

/-- Leaving passes over a session that has been released. -/
theorem left_of_act {a : Act} {i : Nat} {d₀ : Dialogue} (leaves : s.mode.cause? = some .told)
    (closed : d₀.session.phase = .closed) (spent : d₀.session.tasksOver = true)
    (left : ∃ e, s.dialogues[i]? = some e ∧ Left d₀ e) (step : s.act? a = some s') :
    ∃ e, s'.dialogues[i]? = some e ∧ Left d₀ e := by
  have idle {k : Nat} {d : Dialogue} (found : s.dialogues[k]? = some d) (here : i = k) :
      d.agenda = [] ∧ d.session.phase = .closed := by
    obtain ⟨e, at_i, left⟩ := left
    subst here
    cases found.symm.trans at_i
    exact ⟨left.agenda, left.session ▸ closed⟩
  have busy {k : Nat} {d d' : Dialogue} {result : Except SessionError Unit}
      (found : s.dialogues[k]? = some d) (went : d.carryOn? = some (d', result)) : i ≠ k := by
    intro here
    obtain ⟨errand, rest, next, -⟩ := exists_of_carryOn went
    rw [(idle found here).1] at next
    cases next
  have startup := (cause_of_act leaves step).2
  cases a with
  | session index a =>
    obtain ⟨foreign, d, d', found, acted, rfl⟩ := session_cases step
    by_cases here : i = index
    · subst here
      obtain ⟨e, at_i, left⟩ := left
      obtain rfl : d = e := Option.some.inj (found.symm.trans at_i)
      have change := act_change acted
      obtain ⟨same, calls⟩ := still_of_over foreign (by rw [left.session]; exact spent) change
      exact ⟨_, update_same found, same.trans left.session, calls.trans left.calls,
        (change.frame foreign.own).agenda.trans left.agenda⟩
    · exact left_of_update here left
  | carryOn =>
    have other {now : Mode} (mode : s.mode = now) (stays : now.cause? = none) {p : Prop} : p := by
      rw [mode, stays] at leaves
      cases leaves
    cases carryOn_continues step with
    | ready mode | began mode | went mode | done mode | failed mode | waited mode =>
      exact other mode rfl
    | @parted k cause d lines mode more found idle' still =>
      rw [mode] at leaves
      obtain rfl := Option.some.inj leaves
      exact left_of_update (fun here => still rfl (idle found here).2) left
    | skipped | stopped => exact left
    | pursued _ found went => exact left_of_update (busy found went) left
    | retired _ found went => exact left_of_update (busy found went) left
  | hear | tick | interrupt | signalLost => cases startup

/-- An agent that has been told to leave while it watches disconnects what is open, whatever
the tasks do meanwhile, and nothing else. -/
theorem leaves_of_run (acts : List Act) {reason : Log.Line} (h : Standing s)
    (watching : s.mode = .watching) (run : run? acts (s.leave reason) = some s') :
    Leaves s s' := by
  have begun := standing_of_leave h watching reason
  have standing := standing_of_run acts begun run
  have cause : s'.mode.cause? = some .told := (cause_of_run acts rfl run).1
  have up (i : Nat) (d : Dialogue) (at_i : s.dialogues[i]? = some d) : Open d ∨ Through d := by
    have placed := h.placed i d at_i
    rwa [watching] at placed
  have length : s'.dialogues.length = (s.leave reason).dialogues.length := length_of_run acts run
  change s'.dialogues.length = s.dialogues.length at length
  refine ⟨cause, fun i d at_i still => ?_, fun i d at_i closed => ?_,
    exists_run_stopped standing cause (Nat.le_refl _)⟩
  · have open_ := (up i d at_i).resolve_right fun through => still through.phase
    obtain ⟨f, stage⟩ := (h.sane i d at_i).stage
    obtain ⟨-, -, -, calls⟩ := stage.serving_of_streaming open_.phase open_.agenda
    have bound : i < s'.dialogues.length := by
      rw [length]
      exact (List.getElem?_eq_some_iff.mp at_i).1
    have found := List.getElem?_eq_getElem bound
    refine ⟨calls, _, found, fun stopped => ?_⟩
    have placed := standing.placed i _ found
    rw [stopped] at placed
    exact (placed.2 trivial).disconnected (standing.sane i _ found)
  · have through : Through d := (up i d at_i).resolve_left fun open_ => by
      cases open_.phase.symm.trans closed
    have kept := run_keeps (fun e => e.mode.cause? = some .told ∧
        ∃ d', e.dialogues[i]? = some d' ∧ Left d d') (fun _ => True)
      (fun _ _ _ _ now step => ⟨(cause_of_act now.1 step).1,
        left_of_act now.1 closed through.spent now.2 step⟩) acts (s.leave reason) s'
      (fun _ _ => trivial) ⟨rfl, d, at_i, rfl, rfl, through.agenda⟩ run
    obtain ⟨-, d', found, left⟩ := kept
    exact ⟨through.toRetired.disconnected (h.sane i d at_i), d', found, left.session, left.calls⟩

end PeeringAgent.Supervisor
