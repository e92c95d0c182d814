import PeeringAgent.Proofs.Supervisor.Order
import PeeringAgent.Proofs.Supervisor.Pursuit

/-!
# Releases

An end event names a client, and the supervisor looks for a streaming session of
that name. While names are distinct this finds the session that the event comes
from, whose receiver has ended.
-/

set_option autoImplicit false

namespace PeeringAgent.Supervisor

open Dialogue

variable {d d' : Dialogue} {s s' : Supervisor}

/-! ## Steps -/

theorem running_of_act {a : Act} (running : s'.mode.cause? = none)
    (step : s.act? a = some s') : s.mode.cause? = none := by
  cases cause : s.mode.cause? with
  | none => rfl
  | some cause' =>
    rw [(cause_of_act cause step).1] at running
    cases running

theorem coherent_of_carryOn (h : Orderly s) (running : s'.mode.cause? = none)
    (step : s.carryOn? = some s') : Coherent s' := by
  have before : s.mode.cause? = none := running_of_act (a := .carryOn) running step
  have coherent := h.coherent before
  have standing := standing_of_carryOn h.standing step
  -- While sessions are connected, the place of the one under way says that it is up.
  have starts {k : Nat} {d d' : Dialogue} (found : s.dialogues[k]? = some d)
      (at_k : s'.dialogues[k]? = some d'.clear) (mode : ∃ j, s'.mode = .starting j)
      (on : d'.session.receiver = .ended) : d'.session.phase = .streaming := by
    obtain ⟨j, mode⟩ := mode
    have placed := standing.placed k _ at_k
    rw [mode] at placed
    exact streaming_of_starting (d := d'.clear) (standing.sane k _ at_k) placed
      (fun absent => by cases on.symm.trans absent)
  have releases {k : Nat} {d d' : Dialogue} {result : Except SessionError Unit}
      (mode : s.mode = .releasing k) (found : s.dialogues[k]? = some d)
      (went : d.carryOn? = some (d', result)) : Coherent (s.update k d') := by
    have sane := h.standing.sane k d found
    exact coherent.advance found sane (advanced_of_act sane (act_of_carryOn went))
      fun other => absurd mode other
  cases carryOn_continues step with
  | ready => exact coherent.setMode nofun
  | @began k d mode found idle =>
    have sane := h.standing.sane k d found
    exact coherent.advance found sane (advanced_of_act sane (act_of_began idle))
      fun _ on _ => starts found (update_same found) ⟨k, mode⟩ on
  | @went k d d' mode found result =>
    have sane := h.standing.sane k d found
    exact coherent.advance found sane (advanced_of_act sane (act_of_carryOn result))
      fun _ on _ => starts found (update_same found) ⟨k, mode⟩ on
  | @done k d d' mode found result =>
    have sane := h.standing.sane k d found
    have advanced := coherent.advance found sane (advanced_of_act sane (act_of_carryOn result))
      fun _ on _ => starts found (update_same found) ⟨k + 1, rfl⟩ on
    exact (advanced.say _).setMode nofun
  | failed => cases running
  | @waited k d lines mode found =>
    have sane := h.standing.sane k d found
    exact coherent.advance found sane ⟨rfl, .inl ⟨rfl, id⟩⟩ fun other => absurd mode other
  | parted mode =>
    rw [mode] at before
    cases before
  | skipped => cases running
  | @pursued k next d d' result pursues found went =>
    cases pursues with
    | releasing mode => exact releases mode found went
    | leaving mode =>
      rw [mode] at before
      cases before
  | @retired k next d d' result pursues found went =>
    cases pursues with
    | releasing mode => exact (releases mode found went).setMode nofun
    | leaving => cases running
  | stopped => cases running

theorem coherent_of_session {index : Nat} {a : Dialogue.Act} (h : Orderly s)
    (running : s.mode.cause? = none) (step : s.session? index a = some s') : Coherent s' := by
  obtain ⟨foreign, d, d', found, acted, rfl⟩ := session_cases step
  have sane := h.standing.sane index d found
  have phase := ((act_change acted).frame foreign.own).phase
  refine (h.coherent running).advance found sane (advanced_of_act sane acted) fun _ _ up => ?_
  rw [phase]
  exact up.elim (streaming_of_reading h.standing running found) id

/-- The session found by its name is the one that an event comes from. -/
theorem sourceIndex_of_distinct {i : Nat} {e : StreamEnded} (h : Coherent s)
    (found : s.dialogues[i]? = some d) (named : e.session = d.name)
    (streaming : d.session.phase = .streaming) : s.sourceIndex? e = some i := by
  obtain ⟨bound, rfl⟩ := List.getElem?_eq_some_iff.mp found
  refine List.findIdx?_eq_some_iff_getElem.mpr ⟨bound, ?_, fun j less => ?_⟩
  · rw [named, streaming]
    simp
  · have different := List.pairwise_iff_getElem.mp h.distinct j i (by simp; omega) (by simpa) less
    rw [List.getElem_map, List.getElem_map] at different
    simp [named, different]

theorem hear_of_source {source k : Nat} {e : StreamEnded} {rest : List (Nat × StreamEnded)}
    (mode : s.mode = .watching) (next : s.notices = (source, e) :: rest)
    (index : s.sourceIndex? e = some k) :
    s.hear? = some { ({ s with notices := rest } : Supervisor).say [endedLine e] with
      mode := .releasing k } := by
  have index' : (({ s with notices := rest } : Supervisor).say [endedLine e]).sourceIndex? e =
      some k := index
  simp only [hear?, mode, next] at index' ⊢
  rw [index']

/-- An event that is heard begins the release of the session it comes from. -/
theorem hear_eq (h : Orderly s) {source : Nat} {e : StreamEnded}
    {rest : List (Nat × StreamEnded)} (mode : s.mode = .watching)
    (next : s.notices = (source, e) :: rest) :
    s.hear? = some { ({ s with notices := rest } : Supervisor).say [endedLine e] with
      mode := .releasing source } := by
  have among : (source, e) ∈ s.notices := by rw [next]; exact List.mem_cons_self
  have coherent := h.coherent (by rw [mode]; rfl)
  obtain ⟨d, found, -, streaming, named⟩ := coherent.noticed source e among
  exact hear_of_source mode next (sourceIndex_of_distinct coherent found named streaming)

theorem coherent_of_hear (h : Orderly s) (step : s.hear? = some s') : Coherent s' := by
  obtain ⟨mode, ⟨source, e, rest, next⟩, -⟩ := hear_cases step
  rw [hear_eq h mode next] at step
  obtain rfl := Option.some.inj step
  obtain ⟨distinct, noticed, once, -⟩ := h.coherent (by rw [mode]; rfl)
  rw [next] at noticed once
  rw [List.map_cons, List.nodup_cons] at once
  have later (i : Nat) (e : StreamEnded) (among : (i, e) ∈ rest) :=
    noticed i e (List.mem_cons_of_mem _ among)
  refine ⟨distinct, later, once.2, ?_⟩
  intro i releasing
  obtain rfl := Mode.releasing.inj releasing
  obtain ⟨d, found, gone, -⟩ := noticed source e List.mem_cons_self
  exact ⟨once.1, d, found, gone⟩

theorem coherent_of_tick (h : Coherent s) : Coherent s.tick.1 := by
  have image (i : Nat) (d : Dialogue) (at_i : s.dialogues[i]? = some d) :
      s.tick.1.dialogues[i]? = some (d.setStore d.session.store.reconcile.1) := by
    rw [tick_dialogues, List.getElem?_map, at_i, Option.map_some]
  obtain ⟨distinct, noticed, once, releasing⟩ := h
  refine ⟨?_, ?_, once, ?_⟩
  · rw [tick_dialogues, List.map_map]
    exact distinct
  · intro i e among
    obtain ⟨d, found, gone, streaming, named⟩ := noticed i e among
    exact ⟨_, image i d found, gone, streaming, named⟩
  · intro i mode
    obtain ⟨heard, d, found, gone⟩ := releasing i mode
    exact ⟨heard, _, image i d found, gone⟩

/-! ## Runs -/

theorem coherent_of_act {a : Act} (h : Orderly s) (running : s'.mode.cause? = none)
    (step : s.act? a = some s') : Coherent s' := by
  have before := running_of_act running step
  cases a with
  | carryOn => exact coherent_of_carryOn h running step
  | session index a => exact coherent_of_session h before step
  | hear => exact coherent_of_hear h step
  | tick =>
    obtain ⟨-, rfl⟩ := watching_of_tick step
    exact coherent_of_tick (h.coherent before)
  | interrupt =>
    obtain ⟨-, rfl⟩ := watching_of_leave step
    cases running
  | signalLost cause =>
    obtain ⟨-, rfl⟩ := watching_of_leave step
    cases running

theorem orderly_of_run (acts : List Act) (h : Orderly s) (run : run? acts s = some s') :
    Orderly s' :=
  run_keeps Orderly (fun _ => True)
    (fun _ _ _ _ h step =>
      ⟨standing_of_act h.standing step, fun running => coherent_of_act h running step⟩)
    acts s s' (fun _ _ => trivial) h run

theorem orderly_ready (sessions : List SessionConfig) (behaviour : SessionConfig → Behaviour)
    (log : List Log.Line) (distinct : (sessions.map SessionConfig.name).Nodup) :
    Orderly (ready sessions behaviour log) := by
  refine ⟨standing_ready sessions behaviour log, fun _ => ⟨?_, nofun, List.nodup_nil, nofun⟩⟩
  rw [ready, List.map_map]
  exact distinct

theorem orderly_begin (sessions : List SessionConfig)
    (distinct : (sessions.map SessionConfig.name).Nodup) : Orderly (begin sessions) :=
  orderly_ready sessions (fun _ => .agreeable) [] distinct

/-- The supervisor handles each event for the session that it comes from. -/
structure Faithful (s : Supervisor) : Prop where
  /-- The next event begins the release of the session it comes from. -/
  heard : ∀ source e rest, s.mode = .watching → s.notices = (source, e) :: rest →
    ∃ s', s.hear? = some s' ∧ s'.mode = .releasing source ∧ s'.dialogues = s.dialogues
  /-- A release only waits for a session whose stream is over. -/
  gone : ∀ i, s.mode = .releasing i →
    ∃ d, s.dialogues[i]? = some d ∧ d.session.receiver = .ended
  /-- A release waits for nothing but moves of its session, and pushes that are held up. -/
  waits : ∀ i d, s.mode = .releasing i → s.dialogues[i]? = some d → d.Idle →
    d.session.tasksOver = true ∨ d.session.dispatcher = .pushing ∧ d.coordinator.held = true
  /-- Each step of a release leaves the other sessions alone, and the session is closed when
  the supervisor goes on to something else. -/
  steps : ∀ i s', s.mode = .releasing i → s.act? .carryOn = some s' →
    (∀ j, j ≠ i → s'.dialogues[j]? = s.dialogues[j]?) ∧ (s'.mode = .releasing i ∨
      s'.mode = .watching ∧ ∃ d', s'.dialogues[i]? = some d' ∧ d'.session.phase = .closed)
  /-- Once the tasks are over, these steps are possible up to the end of the release. -/
  released : ∀ i d, s.mode = .releasing i → s.dialogues[i]? = some d →
    d.session.tasksOver = true → ∃ n s', run? (List.replicate n .carryOn) s = some s' ∧
      s'.mode = .watching ∧ (∃ d', s'.dialogues[i]? = some d' ∧ d'.session.phase = .closed) ∧
      ∀ j, j ≠ i → s'.dialogues[j]? = s.dialogues[j]?

/-- A release goes on to the end once the tasks are over, whichever session it is. -/
theorem exists_run_released {i : Nat} (h : Standing s) (mode : s.mode = .releasing i)
    (found : s.dialogues[i]? = some d) (gone : d.session.tasksOver = true) :
    ∃ n s', run? (List.replicate n .carryOn) s = some s' ∧ s'.mode = .watching ∧
      (∃ d', s'.dialogues[i]? = some d' ∧ Retired d') ∧
      ∀ j, j ≠ i → s'.dialogues[j]? = s.dialogues[j]? := by
  have placed := h.placed i d found
  rw [mode] at placed
  rcases placed.2 rfl with up | ⟨served, busy, -⟩
  · obtain ⟨lines, waited⟩ : ∃ lines, d.awaitTasks? = some (d.say lines) := by
      obtain ⟨e, waited⟩ : ∃ e, d.awaitTasks? = some e := by
        rw [awaitTasks?, if_neg (by simp [up.kept]), if_pos gone]
        exact ⟨_, rfl⟩
      obtain ⟨-, lines, rfl⟩ := exists_of_awaitTasks waited
      exact ⟨lines, waited⟩
    have begun : s.act? .carryOn = some (s.update i (d.say lines).beginRelease) := by
      simp only [act?, Supervisor.carryOn?, mode, releaseNext?, found, Option.bind_some,
        up.agenda, if_true, waited, Option.map_some]
    have served := served_of_departure (served_of_live (h.sane i d found) up.toLive) lines
    obtain ⟨n, s', run, watching, retired, others⟩ := exists_run_served
      (s := s.update i (d.say lines).beginRelease) (.releasing mode) (update_same found)
      (served_of_frame (frame_clear _) served) (departure_ne_nil _)
    refine ⟨n + 1, s', ?_, watching, retired,
      fun j other => (others j other).trans (update_other other)⟩
    rw [List.replicate_succ, run?, begun]
    exact run
  · exact exists_run_served (.releasing mode) found served busy

/-- A step of a release concerns its session alone. -/
theorem steps_of_releasing {i : Nat} (h : Standing s) (mode : s.mode = .releasing i)
    (step : s.carryOn? = some s') : (∀ j, j ≠ i → s'.dialogues[j]? = s.dialogues[j]?) ∧
      (s'.mode = .releasing i ∨
        s'.mode = .watching ∧ ∃ d', s'.dialogues[i]? = some d' ∧ Retired d') := by
  have other {now : Mode} (mode' : s.mode = now) (different : now ≠ .releasing i) {p : Prop} : p :=
    absurd (mode'.symm.trans mode) different
  cases carryOn_continues step with
  | ready mode' | began mode' | went mode' | done mode' | failed mode' | parted mode'
  | skipped mode' | stopped mode' => exact other mode' nofun
  | waited mode' =>
    obtain rfl := Mode.releasing.inj (mode.symm.trans mode')
    exact ⟨fun j other => update_other other, .inl mode⟩
  | pursued pursues =>
    cases pursues with
    | leaving mode' => exact other mode' nofun
    | releasing mode' =>
      obtain rfl := Mode.releasing.inj (mode.symm.trans mode')
      exact ⟨fun j other => update_other other, .inl mode⟩
  | @retired k next d d' result pursues found went last =>
    cases pursues with
    | leaving mode' => exact other mode' nofun
    | releasing mode' =>
      obtain rfl := Mode.releasing.inj (mode.symm.trans mode')
      have placed := h.placed i d found
      rw [mode] at placed
      have busy : d.agenda ≠ [] := by
        obtain ⟨errand, rest, next, -⟩ := exists_of_carryOn went
        rw [next]
        exact List.cons_ne_nil _ _
      have served := (placed.2 rfl).resolve_left fun up => busy up.agenda
      have retired := (served_of_carryOn served.1 went).2.2.1 last
      exact ⟨fun j other => update_other other, .inr ⟨rfl, _, update_same found,
        retired_of_frame (frame_clear d') retired⟩⟩

theorem faithful_of_orderly (h : Orderly s) : Faithful s := by
  have coherent {i : Nat} (mode : s.mode = .releasing i) : Coherent s :=
    h.coherent (by rw [mode]; rfl)
  constructor
  case heard =>
    intro source e rest mode next
    exact ⟨_, hear_eq h mode next, rfl, rfl⟩
  case gone =>
    intro i mode
    exact ((coherent mode).releasing i mode).2
  case waits =>
    intro i d mode found idle
    obtain ⟨-, d₀, found₀, gone⟩ := (coherent mode).releasing i mode
    obtain rfl : d = d₀ := Option.some.inj (found.symm.trans found₀)
    obtain ⟨arbitrations, directives⟩ := (h.standing.sane i d found).shut gone
    exact over_of_idle idle gone arbitrations directives
  case steps =>
    intro i s' mode step
    obtain ⟨others, next⟩ := steps_of_releasing h.standing mode step
    exact ⟨others, next.imp_right fun ⟨watching, d', found, retired⟩ =>
      ⟨watching, d', found, retired.phase⟩⟩
  case released =>
    intro i d mode found gone
    obtain ⟨n, s', run, watching, ⟨d', found', retired⟩, others⟩ :=
      exists_run_released h.standing mode found gone
    exact ⟨n, s', run, watching, ⟨d', found', retired.phase⟩, others⟩

end PeeringAgent.Supervisor
