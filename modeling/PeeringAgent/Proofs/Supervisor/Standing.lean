import PeeringAgent.Proofs.Supervisor.Steps

/-!
# Where sessions stand

Each session of a supervisor is in the place that the mode gives it. Every act keeps
this, whatever the tasks do meanwhile, and names play no part in it.
-/

set_option autoImplicit false

namespace PeeringAgent.Supervisor

open Dialogue SessionConfig

variable {d d' : Dialogue} {s s' : Supervisor} {k : Nat}

/-- Each session is sane, and where the mode says. -/
structure Standing (s : Supervisor) : Prop where
  sane : ∀ (i : Nat) (d : Dialogue), s.dialogues[i]? = some d → Sane d
  placed : ∀ (i : Nat) (d : Dialogue), s.dialogues[i]? = some d → Placed s.mode i d

theorem Standing.update (h : Standing s) (mode : Mode) (found : s.dialogues[k]? = some d)
    (sane : Sane d'.clear) (placed : Placed mode k d')
    (others : ∀ i e, i ≠ k → s.dialogues[i]? = some e → Placed s.mode i e → Placed mode i e) :
    Standing { s.update k d' with mode } := by
  constructor
  case sane =>
    intro i e at_i
    rcases update_cases found at_i with ⟨-, rfl⟩ | ⟨-, at_i⟩
    · exact sane
    · exact h.sane i e at_i
  case placed =>
    intro i e at_i
    rcases update_cases found at_i with ⟨rfl, rfl⟩ | ⟨other, at_i⟩
    · exact placed_of_frame (frame_clear d') placed id
    · exact others i e other at_i (h.placed i e at_i)

/-! ## Steps of the owner -/

theorem act_of_began (idle : d.agenda = []) : d.act? .beginConnect = some d.beginConnect := by
  rw [Dialogue.act?, if_pos idle]

theorem departs_of_errands (c : SessionConfig) :
    ∀ errand ∈ c.errands, errand.departs = false := by
  intro errand among
  rw [errands_eq, List.mem_cons, List.mem_cons] at among
  rcases among with rfl | rfl | registers
  · rfl
  · rfl
  · obtain ⟨before, rest, split⟩ := List.append_of_mem registers
    exact Errand.departs_of_registers (registers_of_registration split)

/-- A session whose turn it is to be disconnected is among those to be disconnected. -/
theorem covers_of_turn {cause : Cause} (more : k < cause.reach s.dialogues.length) :
    cause.Covers k := by
  cases cause with
  | refused n e => exact more
  | told => trivial

theorem turn_of_covers {cause : Cause} {i : Nat} (covers : cause.Covers i)
    (found : s.dialogues[i]? = some d) : i < cause.reach s.dialogues.length := by
  cases cause with
  | refused n e => exact covers
  | told => exact (List.getElem?_eq_some_iff.mp found).1

/-- A session that is being disconnected. -/
theorem placed_at_turn {cause : Cause} (served : Served d) (busy : d.agenda ≠ []) :
    (k < k → Retired d) ∧ (k = k → Served d) ∧
      (k < k ∨ k = k ∧ d.agenda = [] → Live d ∨ cause = .told ∧ Retired d) := by
  refine ⟨fun less => absurd less (Nat.lt_irrefl k), fun _ => served, ?_⟩
  rintro (less | ⟨-, idle⟩)
  · exact absurd less (Nat.lt_irrefl k)
  · exact absurd idle busy

/-- What leaving has come to moves on by one session. -/
theorem placed_of_turn {cause : Cause} (h : Standing s) (mode : s.mode = .leaving k cause)
    {i : Nat} {e : Dialogue} (other : i ≠ k) (at_i : s.dialogues[i]? = some e)
    (placed : Placed s.mode i e) : Placed (.leaving (k + 1) cause) i e := by
  rw [mode] at placed
  refine ⟨placed.1, fun covered => ?_⟩
  obtain ⟨before, -, after⟩ := placed.2 covered
  refine ⟨fun less => before (by omega), fun here => ?_, fun later => after (.inl (by omega))⟩
  rcases after (.inl (by omega)) with live | ⟨-, retired⟩
  · exact served_of_live (h.sane i e at_i) live
  · exact retired.served

theorem standing_of_pursuit {next : Mode} {result : Except SessionError Unit} (h : Standing s)
    (pursues : Pursues s k next) (found : s.dialogues[k]? = some d)
    (went : d.carryOn? = some (d', result)) :
    (d'.agenda ≠ [] → Standing (s.update k d')) ∧
      (d'.agenda = [] → Standing { s.update k d' with mode := next }) := by
  have sane := sane_of_carryOn (h.sane k d found) went
  have busy : d.agenda ≠ [] := by
    obtain ⟨errand, rest, next, -⟩ := exists_of_carryOn went
    rw [next]
    exact List.cons_ne_nil _ _
  have placed := h.placed k d found
  cases pursues with
  | releasing mode =>
    rw [mode] at placed
    obtain ⟨served, -, gone⟩ := (placed.2 rfl).resolve_left fun up => busy up.agenda
    obtain ⟨-, served', retired, spent⟩ := served_of_carryOn served went
    rw [gone] at spent
    constructor
    · intro more
      refine h.update s.mode found sane ?_ fun _ _ _ _ placed => placed
      rw [mode]
      exact ⟨fun other => absurd rfl other, fun _ => .inr ⟨served', more, spent⟩⟩
    · intro last
      refine h.update _ found sane (.inr ⟨retired last, spent⟩) fun i e other _ placed => ?_
      rw [mode] at placed
      exact placed.1 other
  | @leaving cause mode more =>
    rw [mode] at placed
    have covered := covers_of_turn more
    obtain ⟨-, served', retired, -⟩ := served_of_carryOn ((placed.2 covered).2.1 rfl) went
    have spares : cause.Spares k d' := by
      cases cause with
      | told => trivial
      | refused n e =>
        have less : k < n := more
        exact ⟨fun here => by omega, fun behind => by omega⟩
    constructor
    · intro more
      refine h.update s.mode found sane ?_ fun _ _ _ _ placed => placed
      rw [mode]
      exact ⟨spares, fun _ => placed_at_turn served' more⟩
    · intro last
      refine h.update _ found sane ⟨spares, fun _ => ⟨fun _ => retired last, fun here => ?_,
        fun later => ?_⟩⟩ fun i e other at_i placed => placed_of_turn h mode other at_i placed
      · omega
      · omega

theorem standing_of_carryOn (h : Standing s) (step : s.carryOn? = some s') : Standing s' := by
  cases carryOn_continues step with
  | @ready k mode nothing =>
    refine ⟨h.sane, fun i d at_i => ?_⟩
    have all : s.dialogues.length ≤ k := List.getElem?_eq_none_iff.mp nothing
    have bound : i < s.dialogues.length := (List.getElem?_eq_some_iff.mp at_i).1
    have placed := h.placed i d at_i
    rw [mode] at placed
    exact .inl ⟨placed.2.1 (by omega), placed.1⟩
  | @began k d mode found idle =>
    have placed := h.placed k d found
    rw [mode] at placed
    have sane := sane_of_act (h.sane k d found) (act_of_began idle) nofun
      fun _ => placed.2.2.2 (.inr ⟨rfl, idle⟩)
    refine h.update s.mode found sane ?_ fun _ _ _ _ placed => placed
    rw [mode]
    exact placed_under_way k placed.1 (List.cons_ne_nil _ _) (departs_of_errands _)
  | @went k d d' mode found result more =>
    have placed := h.placed k d found
    rw [mode] at placed
    obtain ⟨kept, connecting⟩ := kept_of_connecting placed.1 (placed.2.2.1 (Nat.le_refl k)) result
    refine h.update s.mode found (sane_of_carryOn (h.sane k d found) result) ?_
      fun _ _ _ _ placed => placed
    rw [mode]
    exact placed_under_way k kept more (connecting rfl)
  | @done k d d' mode found result last =>
    have placed := h.placed k d found
    rw [mode] at placed
    obtain ⟨kept, -⟩ := kept_of_connecting placed.1 (placed.2.2.1 (Nat.le_refl k)) result
    have live := live_of_done (h.sane k d found) (placed.2.2.1 (Nat.le_refl k)) result last
    have standing : Standing { s.update k d' with mode := .starting (k + 1) } := by
      refine h.update _ found (sane_of_carryOn (h.sane k d found) result)
        ⟨kept, fun _ => live, fun here => ?_, fun later => ?_⟩ fun i e other at_i placed => ?_
      · omega
      · omega
      · rw [mode] at placed
        obtain ⟨kept, before, idle, after⟩ := placed
        exact ⟨kept, fun less => before (by omega), fun le => idle (by omega),
          fun later => after (by omega)⟩
    exact ⟨standing.sane, standing.placed⟩
  | @failed k d d' e mode found result =>
    have standing : Standing { s.update k d' with mode := .leaving 0 (.refused k e) } := by
      refine h.update _ found (sane_of_carryOn (h.sane k d found) result) ?_
        fun i e' other at_i placed => ?_
      · exact ⟨⟨fun _ => unserved_of_failure (h.sane k d found) result,
          fun less => absurd less (Nat.lt_irrefl k)⟩, fun less => absurd less (Nat.lt_irrefl k)⟩
      · rw [mode] at placed
        obtain ⟨-, before, -, after⟩ := placed
        refine ⟨⟨fun here => absurd here other, fun less => after (.inl less)⟩, fun less => ?_⟩
        have live := before less
        exact ⟨fun none => absurd none (Nat.not_lt_zero i),
          fun _ => served_of_live (h.sane i e' at_i) live, fun _ => .inl live⟩
    exact ⟨standing.sane, standing.placed⟩
  | @waited k d lines mode found idle spent =>
    have placed := h.placed k d found
    rw [mode] at placed
    have up : Open d := (placed.2 rfl).resolve_right fun busy => busy.2.1 idle
    have gone : d.session.tasksOver = true := spent.resolve_left (by simp [up.kept])
    refine h.update s.mode found (sane_of_departure (h.sane k d found) idle lines) ?_
      fun _ _ _ _ placed => placed
    rw [mode]
    have served := served_of_departure (served_of_live (h.sane k d found) up.toLive) lines
    exact ⟨fun other => absurd rfl other, fun _ => .inr ⟨served, departure_ne_nil _, gone⟩⟩
  | @parted k cause d lines mode more found idle still =>
    have placed := h.placed k d found
    rw [mode] at placed
    have served := served_of_departure ((placed.2 (covers_of_turn more)).2.1 rfl) lines
    refine h.update s.mode found (sane_of_departure (h.sane k d found) idle lines) ?_
      fun _ _ _ _ placed => placed
    rw [mode]
    refine ⟨?_, fun _ => placed_at_turn served (departure_ne_nil _)⟩
    cases cause with
    | told => trivial
    | refused n e =>
      have less : k < n := more
      exact ⟨fun here => by omega, fun behind => by omega⟩
  | @skipped k d mode found idle closed =>
    refine ⟨h.sane, fun i e at_i => ?_⟩
    have placed := h.placed i e at_i
    by_cases other : i = k
    · subst other
      obtain rfl : d = e := Option.some.inj (found.symm.trans at_i)
      rw [mode] at placed
      have served := (placed.2 trivial).2.1 rfl
      have retired : Retired d := ⟨idle, closed, served.present, served.dismissed (.inl closed)⟩
      exact ⟨trivial, fun _ => ⟨fun _ => retired, fun here => by omega, fun later => by omega⟩⟩
    · exact placed_of_turn h mode other at_i placed
  | pursued pursues found went more => exact (standing_of_pursuit h pursues found went).1 more
  | retired pursues found went last => exact (standing_of_pursuit h pursues found went).2 last
  | @stopped k cause mode all =>
    refine ⟨h.sane, fun i e at_i => ?_⟩
    have placed := h.placed i e at_i
    rw [mode] at placed
    refine ⟨placed.1, fun covered => (placed.2 covered).1 ?_⟩
    exact Nat.lt_of_lt_of_le (turn_of_covers (s := s) covered at_i) all

/-- Once the agent leaves, it goes on to its end. -/
theorem cause_of_carryOn {cause : Cause} (leaves : s.mode.cause? = some cause)
    (step : s.carryOn? = some s') : s'.mode.cause? = some cause := by
  have other {now : Mode} (mode : s.mode = now) (stays : now.cause? = none) {p : Prop} : p := by
    rw [mode, stays] at leaves
    cases leaves
  cases carryOn_continues step with
  | ready mode | began mode | went mode | done mode | failed mode | waited mode =>
    exact other mode rfl
  | parted | pursued => exact leaves
  | skipped mode | stopped mode =>
    rw [mode] at leaves
    exact leaves
  | retired pursues =>
    cases pursues with
    | releasing mode => exact other mode rfl
    | leaving mode =>
      rw [mode] at leaves
      exact leaves

/-! ## Other acts -/

theorem standing_of_session {index : Nat} {a : Dialogue.Act} (h : Standing s)
    (step : s.session? index a = some s') : Standing s' := by
  obtain ⟨foreign, d, d', found, acted, rfl⟩ := session_cases step
  have sane := sane_of_act (h.sane index d found) acted foreign.listening (by simp [foreign.other])
  exact h.update s.mode found sane
    (placed_of_foreign (h.placed index d found) foreign acted) fun _ _ _ _ placed => placed

theorem standing_of_hear (h : Standing s) (step : s.hear? = some s') : Standing s' := by
  obtain ⟨mode, -, same, next⟩ := hear_cases step
  refine ⟨?_, ?_⟩
  · rw [same]
    exact h.sane
  · intro i d at_i
    rw [same] at at_i
    have placed := h.placed i d at_i
    rw [mode] at placed
    rcases next with watching | ⟨j, d₀, releasing, found, streaming⟩
    · rw [watching]
      exact placed
    · rw [releasing]
      refine ⟨fun _ => placed, ?_⟩
      rintro rfl
      obtain rfl : d = d₀ := Option.some.inj (at_i.symm.trans found)
      refine .inl (placed.resolve_right fun through => ?_)
      rw [through.phase] at streaming
      cases streaming

theorem standing_of_tick (h : Standing s) : Standing s.tick.1 := by
  have origin (i : Nat) (e : Dialogue) (at_i : s.tick.1.dialogues[i]? = some e) :
      ∃ d, s.dialogues[i]? = some d ∧ d.setStore d.session.store.reconcile.1 = e := by
    rw [tick_dialogues, List.getElem?_map] at at_i
    exact Option.map_eq_some_iff.mp at_i
  have frame (d : Dialogue) : Frame d (d.setStore d.session.store.reconcile.1).session
      d.coordinator d.agenda :=
    ⟨rfl, rfl, rfl, rfl, Iff.rfl, Iff.rfl, fun _ => rfl, rfl, .inl rfl⟩
  constructor
  case sane =>
    intro i e at_i
    obtain ⟨d, found, rfl⟩ := origin i e at_i
    obtain ⟨⟨f, stage⟩, supervised, shut, taken⟩ := h.sane i d found
    refine ⟨⟨f, stage.of_frame (frame d)⟩, supervised, shut, ?_⟩
    rw [← taken]
    rfl
  case placed =>
    intro i e at_i
    obtain ⟨d, found, rfl⟩ := origin i e at_i
    exact placed_of_frame (frame d) (h.placed i d found) id

/-! ## Runs -/

theorem watching_of_tick (h : s.act? .tick = some s') : s.mode = .watching ∧ s' = s.tick.1 :=
  (Option.ite_none_right_eq_some.mp h).imp_right fun this => (Option.some.inj this).symm

/-- The agent is told to leave only while the supervisor watches. -/
theorem watching_of_leave {reason : Log.Line}
    (h : (if s.mode = .watching then some (s.leave reason) else none) = some s') :
    s.mode = .watching ∧ s' = s.leave reason :=
  (Option.ite_none_right_eq_some.mp h).imp_right fun this => (Option.some.inj this).symm

theorem standing_of_leave (h : Standing s) (mode : s.mode = .watching) (reason : Log.Line) :
    Standing (s.leave reason) := by
  refine ⟨h.sane, fun i d at_i => ⟨trivial, fun _ => ?_⟩⟩
  have placed := h.placed i d at_i
  rw [mode] at placed
  refine ⟨fun less => absurd less (Nat.not_lt_zero i), fun _ => ?_, fun _ => ?_⟩
  · exact placed.elim (fun up => served_of_live (h.sane i d at_i) up.toLive)
      fun through => through.toRetired.served
  · exact placed.imp Open.toLive fun through => ⟨rfl, through.toRetired⟩

/-- The steps of the owner, and what happens to sessions meanwhile. -/
def Act.isStartup : Act → Bool
  | .carryOn => true
  | .session _ _ => true
  | _ => false

/-- An agent that leaves does nothing else any more. -/
theorem cause_of_act {a : Act} {cause : Cause} (leaves : s.mode.cause? = some cause)
    (step : s.act? a = some s') : s'.mode.cause? = some cause ∧ a.isStartup = true := by
  have busy : s.mode ≠ .watching := by
    intro watching
    rw [watching] at leaves
    cases leaves
  cases a with
  | carryOn => exact ⟨cause_of_carryOn leaves step, rfl⟩
  | session index a =>
    obtain ⟨-, d, d', -, -, rfl⟩ := session_cases step
    exact ⟨leaves, rfl⟩
  | hear => exact absurd (hear_cases step).1 busy
  | tick => exact absurd (watching_of_tick step).1 busy
  | interrupt => exact absurd (watching_of_leave step).1 busy
  | signalLost cause => exact absurd (watching_of_leave step).1 busy

theorem standing_of_act {a : Act} (h : Standing s) (step : s.act? a = some s') :
    Standing s' := by
  cases a with
  | carryOn => exact standing_of_carryOn h step
  | session index a => exact standing_of_session h step
  | hear => exact standing_of_hear h step
  | tick =>
    obtain ⟨-, rfl⟩ := watching_of_tick step
    exact standing_of_tick h
  | interrupt =>
    obtain ⟨watching, rfl⟩ := watching_of_leave step
    exact standing_of_leave h watching _
  | signalLost cause =>
    obtain ⟨watching, rfl⟩ := watching_of_leave step
    exact standing_of_leave h watching _

theorem standing_of_run (acts : List Act) (h : Standing s) (run : run? acts s = some s') :
    Standing s' :=
  run_keeps Standing (fun _ => True) (fun _ _ _ _ h step => standing_of_act h step) acts s s'
    (fun _ _ => trivial) h run

/-- The supervisor of sessions that are still to be connected, whatever their
coordinators will answer. -/
def ready (sessions : List SessionConfig) (behaviour : SessionConfig → Behaviour)
    (log : List Log.Line) : Supervisor :=
  { dialogues := sessions.map fun c => .new c (behaviour c), notices := [], mode := .starting 0
    log }

theorem exists_of_ready {sessions : List SessionConfig} {behaviour : SessionConfig → Behaviour}
    {log : List Log.Line} {i : Nat} (at_i : (ready sessions behaviour log).dialogues[i]? = some d) :
    ∃ c, sessions[i]? = some c ∧ .new c (behaviour c) = d := by
  rw [ready, List.getElem?_map] at at_i
  exact Option.map_eq_some_iff.mp at_i

theorem standing_ready (sessions : List SessionConfig) (behaviour : SessionConfig → Behaviour)
    (log : List Log.Line) : Standing (ready sessions behaviour log) := by
  constructor
  case sane =>
    intro i d at_i
    obtain ⟨c, -, rfl⟩ := exists_of_ready at_i
    exact ⟨⟨none, .unconnected (unconnected_new c (behaviour c) .empty)⟩, rfl, nofun, rfl⟩
  case placed =>
    intro i d at_i
    obtain ⟨c, -, rfl⟩ := exists_of_ready at_i
    exact ⟨rfl, fun less => absurd less (Nat.not_lt_zero i), fun _ => nofun,
      fun _ => unconnected_new c (behaviour c) .empty⟩

end PeeringAgent.Supervisor
