import PeeringAgent.Proofs.Dialogue.Work
import PeeringAgent.Proofs.Supervisor.Pursuit
import PeeringAgent.Supervisor.Event

/-!
# Reactions

What an agent does about one event, its tasks until they are idle and the supervisor
until it has nothing to do, is a run of the supervisor. Between two events no errand is
under way.
-/

set_option autoImplicit false

namespace PeeringAgent.Supervisor

open Dialogue

variable {d d' : Dialogue} {s s' : Supervisor} {k : Nat}

/-- One state comes from another by a run, and is as tidy. -/
def Follows (s s' : Supervisor) : Prop :=
  (∃ acts, run? acts s = some s') ∧ ∀ d ∈ s'.dialogues, Tidy d

theorem Follows.refl (tidy : ∀ d ∈ s.dialogues, Tidy d) : Follows s s := ⟨⟨[], rfl⟩, tidy⟩

theorem Follows.trans {e : Supervisor} (first : Follows s e) (second : Follows e s') :
    Follows s s' := by
  obtain ⟨⟨acts, run⟩, -⟩ := first
  obtain ⟨⟨more, rest⟩, tidy⟩ := second
  refine ⟨⟨acts ++ more, ?_⟩, tidy⟩
  rw [run_append, run]
  exact rest

theorem follows_of_act {a : Act} (step : s.act? a = some s') (tidy : ∀ d ∈ s'.dialogues, Tidy d) :
    Follows s s' := by
  refine ⟨⟨[a], ?_⟩, tidy⟩
  rw [run?, step]
  rfl

theorem tidy_update (tidy : ∀ d ∈ s.dialogues, Tidy d) (idle : d.agenda = []) :
    ∀ e ∈ (s.update k d).dialogues, Tidy e := by
  intro e among
  rcases List.mem_or_eq_of_mem_set among with other | rfl
  · exact tidy e other
  · exact ⟨idle, rfl⟩

/-! ## End events -/

theorem follows_of_finishRelease (tidy : ∀ d ∈ s.dialogues, Tidy d)
    (finish : s.finishRelease? = some s') : Follows s s' := by
  refine ⟨exists_run_finishRelease tidy finish, ?_⟩
  unfold finishRelease? at finish
  split at finish
  case h_2 => cases finish
  case h_1 i mode =>
    obtain ⟨d, found, finish⟩ := Option.bind_eq_some_iff.mp finish
    obtain ⟨d', closed, finish⟩ := Option.bind_eq_some_iff.mp finish
    obtain ⟨e, -, rfl⟩ := Option.map_eq_some_iff.mp closed
    cases finish
    obtain ⟨-, -, -, -, idle⟩ := run_release e
    exact tidy_update (k := i) tidy idle

theorem follows_attendWithin (n : Nat) (tidy : ∀ d ∈ s.dialogues, Tidy d) :
    Follows s (attendWithin n s) := by
  induction n generalizing s with
  | zero => exact .refl tidy
  | succ n ih =>
    rw [attendWithin]
    cases finish : s.finishRelease? with
    | some e =>
      have first := follows_of_finishRelease tidy finish
      exact first.trans (ih first.2)
    | none =>
      cases hears : s.hear? with
      | none => exact .refl tidy
      | some e =>
        obtain ⟨-, -, same, -⟩ := hear_cases hears
        have first : Follows s e := follows_of_act (a := .hear) hears (by rw [same]; exact tidy)
        exact first.trans (ih first.2)

/-! ## Tasks -/

theorem follows_concern (f : Dialogue → Dialogue) (tidy : ∀ d ∈ s.dialogues, Tidy d)
    (made : ∀ d, ∃ acts, Dialogue.run? acts d = some (f d) ∧ ∀ b ∈ acts, isForeign b = true)
    (idle : ∀ d, (f d).agenda = d.agenda) : Follows s (s.concern k f) := by
  rw [concern]
  cases found : s.dialogues[k]? with
  | none => exact .refl tidy
  | some d =>
    have tidy_d := tidy d (List.mem_of_getElem? found)
    obtain ⟨acts, run, foreign⟩ := made d
    have updated := run_sessions acts found tidy_d.taken foreign run
    have first : Follows s (s.update k (f d)) :=
      ⟨⟨_, updated⟩, tidy_update tidy ((idle d).trans tidy_d.agenda)⟩
    exact first.trans (follows_attendWithin _ first.2)

/-- Moves of the tasks until they are idle come after something that has happened. -/
theorem exists_run_settle {a : Dialogue.Act} (foreign : isForeign a = true)
    (acted : d.act? a = some d') : ∃ acts, Dialogue.run? acts d = some d'.settle ∧
      ∀ b ∈ acts, isForeign b = true := by
  obtain ⟨moves, run⟩ := settle_run d'
  refine ⟨a :: moves.map .move, ?_, fun b among => ?_⟩
  · rw [Dialogue.run?, acted]
    exact run
  · rcases List.mem_cons.mp among with rfl | later
    · exact foreign
    · obtain ⟨m, -, rfl⟩ := List.mem_map.mp later
      rfl

/-! ## Leaving -/

theorem tidy_forEach {f : Dialogue → Dialogue}
    (keeps : ∀ d, Tidy d → (f d).agenda = [] ∧ (f d).ended = []) (ds : List Dialogue)
    (log : List Log.Line) (tidy : ∀ d ∈ ds, Tidy d) : ∀ d ∈ (forEach f log ds).2, Tidy d := by
  induction ds generalizing log with
  | nil =>
    intro e among
    cases among
  | cons d ds ih =>
    intro e among
    rcases List.mem_cons.mp among with rfl | later
    · obtain ⟨idle, told⟩ := keeps d (tidy d List.mem_cons_self)
      refine ⟨idle, ?_⟩
      rw [Dialogue.clear, ← told]
    · exact ih _ (fun e among => tidy e (List.mem_cons_of_mem _ among)) e later

theorem release_agenda (idle : d.agenda = []) : (release d).agenda = [] := by
  unfold release
  split
  · exact idle
  · obtain ⟨-, -, -, -, done⟩ := run_release (d.say [partingLine d])
    exact done

/-- Shutting down in one go is to leave, without anything in between. -/
theorem left_leave (reason : Log.Line) : (s.leave reason).left .told = s.shutDown reason := by
  have reach : Cause.told.reach s.dialogues.length = s.dialogues.length := rfl
  simp [left, leave, shutDown, say, reach, Cause.release, Cause.lastLines]

theorem follows_shutDown {a : Act} {reason : Log.Line} (tidy : ∀ d ∈ s.dialogues, Tidy d)
    (leaves : s.act? a = some (s.leave reason)) : Follows s (s.shutDown reason) := by
  have first : Follows s (s.leave reason) := follows_of_act leaves tidy
  refine first.trans ⟨?_, tidy_forEach (fun d tidy => ⟨release_agenda tidy.agenda, ?_⟩) _ _ tidy⟩
  · rw [← left_leave]
    exact exists_run_left (s := s.leave reason) rfl (Nat.le_refl _) tidy
  · exact (Cause.told.release_ended d).trans tidy.told

/-! ## Events -/

/-- What an agent does while it watches, and puts off otherwise. -/
theorem follows_of_watching (tidy : ∀ d ∈ s.dialogues, Tidy d)
    (goes : s.mode = .watching → Follows s s') :
    Follows s (if s.mode = .watching then s' else s) := by
  split
  case isTrue watching => exact goes watching
  case isFalse => exact .refl tidy

theorem tidy_tick (tidy : ∀ d ∈ s.dialogues, Tidy d) : ∀ d ∈ s.tick.1.dialogues, Tidy d := by
  intro e among
  rw [tick_dialogues] at among
  obtain ⟨d, here, rfl⟩ := List.mem_map.mp among
  obtain ⟨idle, taken⟩ := tidy d here
  refine ⟨idle, ?_⟩
  rw [← taken]
  rfl

/-- A reaction of the agent is a run, after which the next event finds it as tidy. -/
theorem follows_react (event : Event) (tidy : ∀ d ∈ s.dialogues, Tidy d) :
    Follows s (s.react event).1 := by
  cases event with
  | arrival i a =>
    exact follows_concern _ tidy (fun d => exists_run_settle (a := .arrive a) rfl rfl)
      fun d => settle_agenda _
  | finished i =>
    exact follows_concern _ tidy (fun d => exists_run_settle (a := .finish) rfl rfl)
      fun d => settle_agenda _
  | tick =>
    rw [react, apply_ite Prod.fst]
    exact follows_of_watching tidy fun watching =>
      follows_of_act (a := .tick) (if_pos watching) (tidy_tick tidy)
  | interrupt =>
    rw [react, apply_ite Prod.fst]
    exact follows_of_watching tidy fun watching =>
      follows_shutDown (a := .interrupt) tidy (if_pos watching)
  | signalLost cause =>
    rw [react, apply_ite Prod.fst]
    exact follows_of_watching tidy fun watching =>
      follows_shutDown (a := .signalLost cause) tidy (if_pos watching)

end PeeringAgent.Supervisor
