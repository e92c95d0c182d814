import PeeringAgent.Proofs.Supervisor.Place

/-!
# Steps of the supervisor

What a step can do, said once: which session it is about, what becomes of that session
and of the mode. All that is kept by the steps is derived from this.
-/

set_option autoImplicit false

namespace PeeringAgent.Supervisor

open Dialogue SessionConfig

variable {d d' : Dialogue} {s s' : Supervisor} {k : Nat}

/-! ## Updates -/

theorem update_same {k : Nat} (found : s.dialogues[k]? = some d) :
    (s.update k d').dialogues[k]? = some d'.clear := by
  obtain ⟨bound, -⟩ := List.getElem?_eq_some_iff.mp found
  exact List.getElem?_set_self bound

theorem update_other {i k : Nat} (other : i ≠ k) :
    (s.update k d').dialogues[i]? = s.dialogues[i]? :=
  List.getElem?_set_ne (Ne.symm other)

/-- A session after an update is the updated one or one of the others. -/
theorem update_cases {i k : Nat} {e : Dialogue} (found : s.dialogues[k]? = some d)
    (at_i : (s.update k d').dialogues[i]? = some e) :
    i = k ∧ e = d'.clear ∨ i ≠ k ∧ s.dialogues[i]? = some e := by
  by_cases this : i = k
  · subst this
    exact .inl ⟨rfl, Option.some.inj (at_i.symm.trans (update_same found))⟩
  · exact .inr ⟨this, (update_other this).symm.trans at_i⟩

/-- Two updates of a session are one with the lines and events of both. -/
theorem update_update (k : Nat) (d d' : Dialogue) :
    (s.update k d).update k d' = s.update k (d'.preface d.log d.ended) := by
  simp [update, preface, List.append_assoc]

/-- What an update keeps of its session is kept of all. -/
theorem update_map {α : Type} (f : Dialogue → α) {k : Nat} (found : s.dialogues[k]? = some d)
    (same : f d'.clear = f d) : (s.update k d').dialogues.map f = s.dialogues.map f := by
  obtain ⟨bound, rfl⟩ := List.getElem?_eq_some_iff.mp found
  show (s.dialogues.set k _).map f = _
  rw [List.map_set]
  refine List.ext_getElem (List.length_set) fun i hi hi' => ?_
  rw [List.getElem_set]
  split
  case isTrue at_k =>
    subst at_k
    rw [List.getElem_map]
    exact same
  case isFalse => rfl

/-! ## Steps of the owner -/

/-- While a release is under way, what comes after it. -/
inductive Pursues (s : Supervisor) (k : Nat) : Mode → Prop
  | releasing (mode : s.mode = .releasing k) : Pursues s k .watching
  | leaving {cause : Cause} (mode : s.mode = .leaving k cause)
      (more : k < cause.reach s.dialogues.length) : Pursues s k (.leaving (k + 1) cause)

/-- All that a step of connecting, of a release or of leaving can be. -/
inductive Continues (s : Supervisor) : Supervisor → Prop
  | ready {k : Nat} (mode : s.mode = .starting k) (nothing : s.dialogues[k]? = none) :
      Continues s { s with mode := .watching }
  | began {k : Nat} {d : Dialogue} (mode : s.mode = .starting k)
      (found : s.dialogues[k]? = some d) (idle : d.agenda = []) :
      Continues s (s.update k d.beginConnect)
  | went {k : Nat} {d d' : Dialogue} (mode : s.mode = .starting k)
      (found : s.dialogues[k]? = some d) (result : d.carryOn? = some (d', .ok ()))
      (more : d'.agenda ≠ []) : Continues s (s.update k d')
  | done {k : Nat} {d d' : Dialogue} (mode : s.mode = .starting k)
      (found : s.dialogues[k]? = some d) (result : d.carryOn? = some (d', .ok ()))
      (last : d'.agenda = []) : Continues s ((s.update k d').proceed k d')
  | failed {k : Nat} {d d' : Dialogue} {e : SessionError} (mode : s.mode = .starting k)
      (found : s.dialogues[k]? = some d) (result : d.carryOn? = some (d', .error e)) :
      Continues s ((s.update k d').giveUp k d' e)
  | waited {k : Nat} {d : Dialogue} {lines : List Log.Line} (mode : s.mode = .releasing k)
      (found : s.dialogues[k]? = some d) (idle : d.agenda = [])
      (spent : d.session.dismissed = true ∨ d.session.tasksOver = true) :
      Continues s (s.update k (d.say lines).beginRelease)
  | parted {k : Nat} {cause : Cause} {d : Dialogue} {lines : List Log.Line}
      (mode : s.mode = .leaving k cause) (more : k < cause.reach s.dialogues.length)
      (found : s.dialogues[k]? = some d) (idle : d.agenda = [])
      (still : cause = .told → d.session.phase ≠ .closed) :
      Continues s (s.update k (d.say lines).beginRelease)
  | skipped {k : Nat} {d : Dialogue} (mode : s.mode = .leaving k .told)
      (found : s.dialogues[k]? = some d) (idle : d.agenda = [])
      (closed : d.session.phase = .closed) :
      Continues s { s with mode := .leaving (k + 1) .told }
  | pursued {k : Nat} {next : Mode} {d d' : Dialogue} {result : Except SessionError Unit}
      (pursues : Pursues s k next) (found : s.dialogues[k]? = some d)
      (went : d.carryOn? = some (d', result)) (more : d'.agenda ≠ []) :
      Continues s (s.update k d')
  | retired {k : Nat} {next : Mode} {d d' : Dialogue} {result : Except SessionError Unit}
      (pursues : Pursues s k next) (found : s.dialogues[k]? = some d)
      (went : d.carryOn? = some (d', result)) (last : d'.agenda = []) :
      Continues s { s.update k d' with mode := next }
  | stopped {k : Nat} {cause : Cause} (mode : s.mode = .leaving k cause)
      (all : cause.reach s.dialogues.length ≤ k) :
      Continues s { s.say cause.lastLines with mode := .stopped cause }

theorem connectNext_continues (mode : s.mode = .starting k) (h : s.connectNext? k = some s') :
    Continues s s' := by
  unfold connectNext? at h
  split at h
  case h_1 nothing =>
    cases h
    exact .ready mode nothing
  case h_2 d found =>
    split at h
    case isTrue idle =>
      cases h
      exact .began mode found idle
    case isFalse busy =>
      split at h
      case h_1 => cases h
      case h_2 d' e result =>
        cases h
        exact .failed mode found result
      case h_3 d' result =>
        cases h
        by_cases last : d'.agenda = []
        · rw [if_pos last]
          exact .done mode found result last
        · rw [if_neg last]
          exact .went mode found result last

theorem pursue_continues {next : Mode} (pursues : Pursues s k next)
    (found : s.dialogues[k]? = some d) (h : s.pursue? k d next = some s') : Continues s s' := by
  obtain ⟨⟨d', result⟩, went, rfl⟩ := Option.map_eq_some_iff.mp h
  by_cases last : d'.agenda = []
  · rw [if_pos last]
    exact .retired pursues found went last
  · rw [if_neg last]
    exact .pursued pursues found went last

theorem releaseNext_continues (mode : s.mode = .releasing k) (h : s.releaseNext? k = some s') :
    Continues s s' := by
  obtain ⟨d, found, h⟩ := Option.bind_eq_some_iff.mp h
  split at h
  case isTrue idle =>
    obtain ⟨d', waited, rfl⟩ := Option.map_eq_some_iff.mp h
    obtain ⟨spent, before, rfl⟩ := exists_of_awaitTasks waited
    exact .waited mode found idle spent
  case isFalse => exact pursue_continues (.releasing mode) found h

theorem part_cases {cause : Cause} (h : cause.part? d = some d') :
    (cause = .told → d.session.phase ≠ .closed) ∧
      ∃ lines, d' = (d.say lines).beginRelease := by
  cases cause with
  | refused n e =>
    cases h
    exact ⟨nofun, [], by simp [Dialogue.say]⟩
  | told =>
    obtain ⟨still, h⟩ := Option.ite_none_left_eq_some.mp h
    cases h
    exact ⟨fun _ => still, _, rfl⟩

theorem part_none {cause : Cause} (h : cause.part? d = none) :
    cause = .told ∧ d.session.phase = .closed := by
  cases cause with
  | refused n e => cases h
  | told =>
    simp only [Cause.part?] at h
    split at h
    case isTrue closed => exact ⟨rfl, closed⟩
    case isFalse => cases h

theorem leaveNext_continues {cause : Cause} (mode : s.mode = .leaving k cause)
    (h : s.leaveNext? k cause = some s') : Continues s s' := by
  unfold leaveNext? at h
  split at h
  case isFalse all =>
    cases h
    exact .stopped mode (Nat.le_of_not_lt all)
  case isTrue more =>
    obtain ⟨d, found, h⟩ := Option.bind_eq_some_iff.mp h
    split at h
    case isFalse => exact pursue_continues (.leaving mode more) found h
    case isTrue idle =>
      cases h
      split
      case h_1 d' parts =>
        obtain ⟨still, lines, rfl⟩ := part_cases parts
        exact .parted mode more found idle still
      case h_2 skips =>
        obtain ⟨rfl, closed⟩ := part_none skips
        exact .skipped mode found idle closed

theorem carryOn_continues (h : s.carryOn? = some s') : Continues s s' := by
  unfold carryOn? at h
  split at h
  case h_1 k mode => exact connectNext_continues mode h
  case h_2 => cases h
  case h_3 k mode => exact releaseNext_continues mode h
  case h_4 k cause mode => exact leaveNext_continues mode h
  case h_5 => cases h

/-! ## Other acts -/

theorem session_cases {index : Nat} {a : Dialogue.Act} (h : s.session? index a = some s') :
    Foreign a ∧ ∃ d d', s.dialogues[index]? = some d ∧ d.act? a = some d' ∧
      s' = s.update index d' := by
  obtain ⟨foreign, step⟩ := Option.ite_none_right_eq_some.mp h
  obtain ⟨d', acted, rfl⟩ := Option.map_eq_some_iff.mp step
  obtain ⟨d, found, acted⟩ := Option.bind_eq_some_iff.mp acted
  exact ⟨foreign_of_isForeign foreign, d, d', found, acted, rfl⟩

/-- The session that an event is taken to come from is streaming. -/
theorem streaming_of_source {i : Nat} {e : StreamEnded} (h : s.sourceIndex? e = some i) :
    ∃ d, s.dialogues[i]? = some d ∧ d.session.phase = .streaming := by
  obtain ⟨bound, taken, -⟩ := List.findIdx?_eq_some_iff_getElem.mp h
  refine ⟨s.dialogues[i], List.getElem?_eq_getElem bound, ?_⟩
  rw [Bool.and_eq_true, beq_iff_eq, beq_iff_eq] at taken
  exact taken.2

/-- Hearing an event begins a release at most. -/
theorem hear_cases (h : s.hear? = some s') :
    s.mode = .watching ∧ (∃ source e rest, s.notices = (source, e) :: rest) ∧
      s'.dialogues = s.dialogues ∧ (s'.mode = .watching ∨ ∃ i d, s'.mode = .releasing i ∧
        s.dialogues[i]? = some d ∧ d.session.phase = .streaming) := by
  unfold hear? at h
  split at h
  case h_2 => cases h
  case h_1 source e rest mode next =>
    refine ⟨mode, ⟨source, e, rest, next⟩, ?_⟩
    simp only at h
    split at h
    case h_1 i source =>
      cases h
      obtain ⟨d, found, streaming⟩ := streaming_of_source source
      exact ⟨rfl, .inr ⟨i, d, rfl, found, streaming⟩⟩
    case h_2 =>
      cases h
      exact ⟨rfl, .inl mode⟩

theorem tick_dialogues (s : Supervisor) : s.tick.1.dialogues =
    s.dialogues.map fun d => d.setStore d.session.store.reconcile.1 :=
  Dialogue.tickAll_dialogues s.dialogues

end PeeringAgent.Supervisor
