import PeeringAgent.Proofs.Supervisor.Standing

/-!
# Releases in one go

A release that nothing interrupts is a run of the supervisor, one errand after the
other, and so is leaving: session by session. The tasks of a session stop when its
errands are done.
-/

set_option autoImplicit false

namespace PeeringAgent.Supervisor

open Dialogue

variable {d d' : Dialogue} {s s' : Supervisor} {k : Nat}

/-- Nothing is under way, and nothing is left to be taken. -/
structure Tidy (d : Dialogue) : Prop where
  agenda : d.agenda = []
  taken : d.clear = d

theorem Tidy.told (h : Tidy d) : d.ended = [] := (congrArg Dialogue.ended h.taken).symm

theorem update_self (found : s.dialogues[k]? = some d) (taken : d.clear = d) :
    s.update k d = s := by
  obtain ⟨bound, rfl⟩ := List.getElem?_eq_some_iff.mp found
  have silent : s.dialogues[k].log = [] := (congrArg Dialogue.log taken).symm
  have told : s.dialogues[k].ended = [] := (congrArg Dialogue.ended taken).symm
  rw [update, ← clear, taken, silent, told, List.set_getElem_self bound]
  simp

/-- What happens to a session one after the other happens to its supervisor. -/
theorem run_sessions (acts : List Dialogue.Act) (found : s.dialogues[k]? = some d)
    (taken : d.clear = d) (foreign : ∀ a ∈ acts, isForeign a = true)
    (run : Dialogue.run? acts d = some d') :
    run? (acts.map (.session k)) s = some (s.update k d') := by
  induction acts generalizing s d d' with
  | nil =>
    cases run
    rw [update_self found taken]
    rfl
  | cons a as ih =>
    obtain ⟨e, he, hr⟩ := Option.bind_eq_some_iff.mp run
    have step : s.act? (.session k a) = some (s.update k e) := by
      rw [act?, session?, if_pos (foreign a List.mem_cons_self), found, Option.bind_some, he]
      rfl
    obtain ⟨e', run', rfl⟩ := run_clear as hr
    rw [List.map_cons, run?, step, Option.bind_some, ih (s := s.update k e) (update_same found)
      rfl (fun b among => foreign b (List.mem_cons_of_mem _ among)) run', update_update]

/-! ## One session -/

theorem Pursues.update {next : Mode} (h : Pursues s k next) : Pursues (s.update k d) k next := by
  cases h with
  | releasing mode => exact .releasing mode
  | leaving mode more =>
    refine .leaving mode ?_
    show k < Cause.reach (s.dialogues.set k _).length _
    rw [List.length_set]
    exact more

/-- While its release is under way, a session has its errands done. -/
theorem act_of_pursues {next : Mode} (pursues : Pursues s k next)
    (found : s.dialogues[k]? = some d) (busy : d.agenda ≠ []) :
    s.act? .carryOn = s.pursue? k d next := by
  cases pursues with
  | releasing mode =>
    simp only [act?, Supervisor.carryOn?, mode, releaseNext?, found, Option.bind_some,
      if_neg busy]
  | leaving mode more =>
    simp only [act?, Supervisor.carryOn?, mode, leaveNext?, if_pos more, found, Option.bind_some,
      if_neg busy]

theorem run_pursuit {next : Mode} (errands : List Errand) (pursues : Pursues s k next)
    (found : s.dialogues[k]? = some d) (agenda : d.agenda = errands)
    (departing : Departing errands) (busy : errands ≠ []) :
    ∃ n, run? (List.replicate n .carryOn) s =
      some { s.update k (attempt errands d).1 with mode := next } := by
  induction errands generalizing s d with
  | nil => exact absurd rfl busy
  | cons errand rest ih =>
    obtain ⟨departs, later⟩ := departing.next rfl
    have done := perform_departing departs { d with agenda := rest }
    generalize (({ d with agenda := rest } : Dialogue).perform errand).1 = e at done
    have left : e.agenda = rest := perform_agenda errand done
    have step : s.act? .carryOn =
        some { s.update k e with mode := if e.agenda = [] then next else s.mode } := by
      rw [act_of_pursues pursues found (by rw [agenda]; exact busy), pursue?, Dialogue.carryOn?,
        agenda]
      simp only [done, Option.map_some]
    rw [attempt, done]
    by_cases last : rest = []
    · subst last
      refine ⟨1, ?_⟩
      rw [List.replicate_one, run?, step, if_pos left]
      rfl
    · rw [if_neg (by rw [left]; exact last)] at step
      obtain ⟨n, run⟩ := ih (s := s.update k e) pursues.update (update_same found) left later last
      -- The supervisor has taken what the session said, on which the other errands do not depend.
      have whole := attempt_preface e.log e.ended rest e.clear
      rw [preface_clear e] at whole
      refine ⟨n + 1, ?_⟩
      rw [List.replicate_succ, run?, step, Option.bind_some]
      show run? _ (s.update k e) = _
      rw [run, update_update]
      show _ = some { s.update k (attempt rest e).1 with mode := next }
      rw [whole]

theorem Served.departing (h : Served d) : Departing d.agenda := by
  intro errand among
  have member := h.agenda.subset among
  simp only [List.mem_cons, List.not_mem_nil, or_false] at member
  rcases member with rfl | rfl | rfl | rfl <;> rfl

theorem Served.retired (errands : List Errand) (h : Served d) (agenda : d.agenda = errands)
    (busy : errands ≠ []) : Retired (attempt errands d).1 := by
  induction errands generalizing d with
  | nil => exact absurd rfl busy
  | cons errand rest ih =>
    have departs := (h.departing.next agenda).1
    have done := perform_departing departs { d with agenda := rest }
    generalize (({ d with agenda := rest } : Dialogue).perform errand).1 = e at done
    have went : d.carryOn? = some (e, .ok ()) := by
      rw [Dialogue.carryOn?, agenda]
      exact congrArg some done
    have left : e.agenda = rest := perform_agenda errand done
    obtain ⟨-, served, retired, -⟩ := served_of_carryOn h went
    rw [attempt, done]
    by_cases last : rest = []
    · subst last
      exact retired left
    · exact ih served left last

/-- What is left of a release can be done, whatever its session looks like. -/
theorem exists_run_served {next : Mode} (pursues : Pursues s k next)
    (found : s.dialogues[k]? = some d) (served : Served d) (busy : d.agenda ≠ []) :
    ∃ n s', run? (List.replicate n .carryOn) s = some s' ∧ s'.mode = next ∧
      (∃ d', s'.dialogues[k]? = some d' ∧ Retired d') ∧
      ∀ j, j ≠ k → s'.dialogues[j]? = s.dialogues[j]? := by
  obtain ⟨n, run⟩ := run_pursuit d.agenda pursues found rfl served.departing busy
  have retired := served.retired d.agenda rfl busy
  exact ⟨n, _, run, rfl, ⟨_, update_same found, retired_of_frame (frame_clear _) retired⟩,
    fun j other => update_other other⟩

/-- A release goes on to its end as soon as it has begun, and then the tasks stop. -/
theorem exists_run_release {next : Mode} {e : Dialogue} (pursues : Pursues s k next)
    (found : s.dialogues[k]? = some d)
    (begun : s.act? .carryOn = some (s.update k e.beginRelease)) :
    ∃ acts, run? acts s = some { s.update k e.disconnect with mode := next } := by
  obtain ⟨n, run⟩ := run_pursuit e.session.departure (s := s.update k e.beginRelease)
    pursues.update (update_same found) rfl (departing_departure e.session) (departure_ne_nil _)
  have whole := congrArg Prod.fst (attempt_preface e.beginRelease.log e.beginRelease.ended
    e.session.departure e.beginRelease.clear)
  rw [preface_clear] at whole
  dsimp only at whole
  rw [update_update, ← whole] at run
  obtain ⟨acts, stops, cancels⟩ :=
    run_cancelTasks (attempt e.session.departure e.beginRelease).1
  obtain ⟨e', stopped, last⟩ := run_clear acts stops
  have stop := run_sessions acts
    (s := { s.update k (attempt e.session.departure e.beginRelease).1 with mode := next })
    (update_same found) rfl (fun a among => foreign_of_cancel (cancels a among)) stopped
  refine ⟨.carryOn :: (List.replicate n .carryOn ++ acts.map (.session k)), ?_⟩
  rw [run?, begun, Option.bind_some, run_append, run, Option.bind_some, stop]
  refine congrArg some ?_
  show { (s.update k _).update k e' with mode := next } = _
  rw [update_update, last]
  rfl

/-- Once its tasks are over, the session that the supervisor waits for is released. -/
theorem exists_run_finishRelease (tidy : ∀ d ∈ s.dialogues, Tidy d)
    (finish : s.finishRelease? = some s') : ∃ acts, run? acts s = some s' := by
  unfold finishRelease? at finish
  split at finish
  case h_2 => cases finish
  case h_1 i mode =>
    obtain ⟨d, found, finish⟩ := Option.bind_eq_some_iff.mp finish
    obtain ⟨d', closed, finish⟩ := Option.bind_eq_some_iff.mp finish
    obtain ⟨e, waited, rfl⟩ := Option.map_eq_some_iff.mp closed
    cases finish
    have idle := (tidy d (List.mem_of_getElem? found)).agenda
    refine exists_run_release (.releasing mode) found ?_
    simp only [act?, Supervisor.carryOn?, mode, releaseNext?, found, Option.bind_some, idle,
      if_true, waited, Option.map_some]

/-! ## Session by session -/

/-- What leaving does to one session, all at once. -/
def Cause.release : Cause → Dialogue → Dialogue
  | .refused _ _ => Dialogue.disconnect
  | .told => Supervisor.release

theorem Cause.release_ended (cause : Cause) (d : Dialogue) :
    (cause.release d).ended = d.ended := by
  cases cause with
  | refused n e => exact disconnect_ended d
  | told =>
    simp only [Cause.release, Supervisor.release]
    split
    · rfl
    · exact disconnect_ended _

/-- The turn of a session that is to be disconnected. -/
theorem turn_of_part {cause : Cause} (mode : s.mode = .leaving k cause)
    (more : k < cause.reach s.dialogues.length) (found : s.dialogues[k]? = some d)
    (idle : d.agenda = []) (part : cause.part? d = some d') :
    s.act? .carryOn = some (s.update k d') := by
  simp only [act?, Supervisor.carryOn?, mode, leaveNext?, if_pos more, found, Option.bind_some,
    idle, if_true, part]

/-- The turn of a session that is left as it is. -/
theorem turn_of_part_none {cause : Cause} (mode : s.mode = .leaving k cause)
    (more : k < cause.reach s.dialogues.length) (found : s.dialogues[k]? = some d)
    (idle : d.agenda = []) (part : cause.part? d = none) :
    s.act? .carryOn = some { s with mode := .leaving (k + 1) cause } := by
  simp only [act?, Supervisor.carryOn?, mode, leaveNext?, if_pos more, found, Option.bind_some,
    idle, if_true, part]

/-- The turn of a session to be disconnected, or to be left as it is. -/
theorem exists_run_turn {cause : Cause} (mode : s.mode = .leaving k cause)
    (more : k < cause.reach s.dialogues.length) (found : s.dialogues[k]? = some d)
    (tidy : Tidy d) : ∃ acts, run? acts s =
      some { s.update k (cause.release d) with mode := .leaving (k + 1) cause } := by
  cases cause with
  | refused n e =>
    exact exists_run_release (.leaving mode more) found
      (turn_of_part mode more found tidy.agenda rfl)
  | told =>
    by_cases closed : d.session.phase = .closed
    · have turn := turn_of_part_none mode more found tidy.agenda (if_pos closed)
      refine ⟨[.carryOn], ?_⟩
      rw [run?, turn, show Cause.told.release d = d from release_of_closed d closed,
        update_self found tidy.taken]
      rfl
    · have turn := turn_of_part mode more found tidy.agenda (if_neg closed)
      have left : Cause.told.release d = (d.say [partingLine d]).disconnect := if_neg closed
      rw [left]
      exact exists_run_release (.leaving mode more) found turn

/-- Leaving goes from session to session. -/
theorem exists_run_leaving (cause : Cause) (notices : List (Nat × StreamEnded))
    (ds gone rest : List Dialogue) (log : List Log.Line)
    (reach : cause.reach (gone ++ ds ++ rest).length = gone.length + ds.length)
    (tidy : ∀ d ∈ ds, Tidy d) : ∃ acts,
      run? acts { dialogues := gone ++ ds ++ rest, notices, mode := .leaving gone.length cause
                  log } =
        some { dialogues := gone ++ (forEach cause.release log ds).2 ++ rest, notices
               mode := .leaving (gone.length + ds.length) cause
               log := (forEach cause.release log ds).1 } := by
  induction ds generalizing gone log with
  | nil => exact ⟨[], rfl⟩
  | cons d ds ih =>
    have found : (gone ++ d :: ds ++ rest)[gone.length]? = some d := by simp
    have more : gone.length < cause.reach (gone ++ d :: ds ++ rest).length := by
      rw [reach, List.length_cons]
      omega
    have tidy_d := tidy d List.mem_cons_self
    obtain ⟨acts, run⟩ := exists_run_turn
      (s := { dialogues := gone ++ d :: ds ++ rest, notices, mode := .leaving gone.length cause
              log }) rfl more found tidy_d
    have silent : (cause.release d).ended = [] := (cause.release_ended d).trans tidy_d.told
    -- After its turn the session is one of those that are gone, without what it said.
    obtain ⟨e, left⟩ : ∃ e, e = ({ cause.release d with log := [] } : Dialogue) := ⟨_, rfl⟩
    have placed : (gone ++ d :: ds ++ rest).set gone.length (cause.release d).clear =
        (gone ++ [e]) ++ ds ++ rest := by
      rw [left, clear, ← silent, List.append_assoc, List.set_append_right _ _ (Nat.le_refl _),
        Nat.sub_self]
      simp
    have length : (gone ++ [e] ++ ds ++ rest).length = (gone ++ d :: ds ++ rest).length := by
      simp
    obtain ⟨others, last⟩ := ih (gone ++ [e]) (log ++ (cause.release d).log)
      (by rw [length, reach]; simp; omega) fun e among => tidy e (List.mem_cons_of_mem _ among)
    rw [List.length_append, List.length_singleton] at last
    refine ⟨acts ++ others, ?_⟩
    rw [run_append, run, Option.bind_some, update, ← clear, placed, silent, List.map_nil,
      List.append_nil, last]
    simp [forEach, absorb, left, Nat.add_assoc, Nat.add_comm 1]

/-- What has become of an agent that has left in one go. -/
def left (s : Supervisor) (cause : Cause) : Supervisor :=
  let there := s.dialogues.take (cause.reach s.dialogues.length)
  { s with
    dialogues := (forEach cause.release s.log there).2 ++
      s.dialogues.drop (cause.reach s.dialogues.length)
    mode := .stopped cause
    log := (forEach cause.release s.log there).1 ++ cause.lastLines }

theorem exists_run_left {cause : Cause} (mode : s.mode = .leaving 0 cause)
    (reach : cause.reach s.dialogues.length ≤ s.dialogues.length)
    (tidy : ∀ d ∈ s.dialogues, Tidy d) : ∃ acts, run? acts s = some (s.left cause) := by
  obtain ⟨n, same⟩ : ∃ n, n = cause.reach s.dialogues.length := ⟨_, rfl⟩
  have whole : [] ++ s.dialogues.take n ++ s.dialogues.drop n = s.dialogues :=
    List.take_append_drop n s.dialogues
  have taken : (s.dialogues.take n).length = n := by
    rw [List.length_take]
    omega
  obtain ⟨acts, run⟩ := exists_run_leaving cause s.notices
    (s.dialogues.take n) [] (s.dialogues.drop n) s.log
    (by rw [whole, taken, ← same]; exact (Nat.zero_add n).symm)
    fun d among => tidy d (List.mem_of_mem_take among)
  have start : { dialogues := s.dialogues, notices := s.notices
                 mode := .leaving ([] : List Dialogue).length cause, log := s.log } = s := by
    rw [List.length_nil, ← mode]
  rw [whole, start, taken, List.length_nil, Nat.zero_add] at run
  have length : ([] ++ (forEach cause.release s.log (s.dialogues.take n)).2 ++
      s.dialogues.drop n).length = s.dialogues.length := by
    rw [List.nil_append, List.length_append, forEach_length, ← List.length_append,
      List.take_append_drop]
  refine ⟨acts ++ [.carryOn], ?_⟩
  rw [run_append, run, Option.bind_some, run?, act?, Supervisor.carryOn?]
  simp only [leaveNext?, length, ← same, Nat.lt_irrefl, if_false, Option.bind_some, run?]
  rw [Supervisor.left, ← same]
  rfl

end PeeringAgent.Supervisor
