import PeeringAgent.Fleet.Run
import PeeringAgent.Proofs.Dialogue.Errands
import PeeringAgent.Proofs.Dialogue.Work

/-!
# Steps of a fleet

A step of a fleet, after which every task has run until it is idle, is a run of it: a
command is a list of acts of its session, a tick is one pass after the other.
-/

set_option autoImplicit false

namespace PeeringAgent

namespace Dialogue

variable {d e d' : Dialogue} {a : Act}

/-- A session comes from one state to another on its own, and is not connecting there. -/
def Reaches (d d' : Dialogue) : Prop :=
  d'.agenda = [] ∧ ∃ acts, run? acts d = some d' ∧
    ∀ a ∈ acts, Fleet.Moment.isAddressed a = true

theorem Reaches.refl (idle : d.agenda = []) : Reaches d d := ⟨idle, [], rfl, by simp⟩

theorem Reaches.trans (first : Reaches d e) (second : Reaches e d') : Reaches d d' := by
  obtain ⟨-, acts, run, addressed⟩ := first
  obtain ⟨idle, more, rest, others⟩ := second
  refine ⟨idle, acts ++ more, ?_, fun a member => ?_⟩
  · rw [run_append, run]
    exact rest
  · rcases List.mem_append.mp member with before | after
    · exact addressed a before
    · exact others a after

theorem reaches_of_act (he : d.act? a = some d')
    (addressed : Fleet.Moment.isAddressed a = true) (idle : d'.agenda = []) : Reaches d d' := by
  refine ⟨idle, [a], ?_, fun b member => ?_⟩
  · rw [run?, he]
    rfl
  · rw [List.mem_singleton.mp member]
    exact addressed

theorem addressed_of_cancel (h : a.isCancel = true) :
    Fleet.Moment.isAddressed a = true := by
  cases a <;> first | rfl | cases h

theorem reaches_settle (idle : d.agenda = []) : Reaches d d.settle := by
  obtain ⟨moves, run⟩ := settle_run d
  refine ⟨d.settle_agenda.trans idle, _, run, fun a member => ?_⟩
  obtain ⟨m, -, rfl⟩ := List.mem_map.mp member
  rfl

/-- Errands in one go are acts of the session, and so are the stops behind them. -/
theorem reaches_of_owner {n : Nat} (acts : List Act) (begun : d.act? a = some e)
    (addressed : Fleet.Moment.isAddressed a = true)
    (run : run? (List.replicate n .carryOn ++ acts) e = some d')
    (stops : ∀ b ∈ acts, b.isCancel = true) (idle : d'.agenda = []) : Reaches d d' := by
  refine ⟨idle, a :: (List.replicate n .carryOn ++ acts), ?_, fun b member => ?_⟩
  · rw [run?, begun]
    exact run
  · rcases List.mem_cons.mp member with rfl | later
    · exact addressed
    · rcases List.mem_append.mp later with owner | task
      · rw [List.eq_of_mem_replicate owner]
        rfl
      · exact addressed_of_cancel (stops b task)

theorem reaches_connect (idle : d.agenda = []) : Reaches d d.connect.1 := by
  obtain ⟨n, run, done⟩ := run_attempt (d := d.beginConnect) _ rfl
  have begun : d.act? .beginConnect = some d.beginConnect := by rw [act?, if_pos idle]
  exact reaches_of_owner [] begun rfl (by rw [List.append_nil]; exact run) (by simp) done

theorem reaches_disconnect (begun : d.act? a = some e.beginRelease)
    (addressed : Fleet.Moment.isAddressed a = true) : Reaches d e.disconnect := by
  obtain ⟨n, acts, run, stops, done⟩ := run_release e
  exact reaches_of_owner _ begun addressed run stops done

theorem reaches_arriveAll (ms : List Wire.StreamResponse) (idle : d.agenda = []) :
    Reaches d (Fleet.arriveAll d ms).1 := by
  induction ms generalizing d with
  | nil => exact .refl idle
  | cons m ms ih =>
    have arrived : Reaches d { d with coordinator := (d.coordinator.put (.message m)).1 } :=
      reaches_of_act (a := .arrive (.message m)) rfl rfl idle
    have settled := arrived.trans (reaches_settle arrived.1)
    exact settled.trans (ih settled.1)

/-- Whatever is done to a session, tasks included, are acts of it. -/
theorem reaches_obey (command : Fleet.Command) (idle : d.agenda = []) :
    Reaches d (Fleet.obey d command).1 := by
  have settled {a : Act} {e : Dialogue} (he : d.act? a = some e)
      (addressed : Fleet.Moment.isAddressed a = true) (still : e.agenda = []) :
      Reaches d e.settle :=
    (reaches_of_act he addressed still).trans (reaches_settle still)
  cases command with
  | connect =>
    have connected := reaches_connect idle
    exact connected.trans (reaches_settle connected.1)
  | messages ms => exact reaches_arriveAll ms idle
  | failStream error => exact settled (a := .arrive (.failure error)) rfl rfl idle
  | endStream => exact settled (a := .finish) rfl rfl idle
  | behave behaviour => exact settled (a := .behave behaviour) rfl rfl idle
  | hold => exact reaches_of_act (a := .hold) rfl rfl idle
  | release => exact settled (a := .release) rfl rfl idle
  | disconnect => exact reaches_disconnect (a := .disconnect) (by rw [act?, if_pos idle]) rfl
  | closeEnded =>
    show Reaches d ((d.awaitTasks?.map disconnect).getD d)
    cases waited : d.awaitTasks? with
    | none => exact .refl idle
    | some e =>
      exact reaches_disconnect (a := .closeEnded) (by rw [act?, if_pos idle, waited]; rfl) rfl
  | unsupervise => exact reaches_of_act (a := .unsupervise) rfl rfl idle

end Dialogue

namespace Fleet

open Reconciler

/-- No session is connecting. -/
def Idle (f : Fleet) : Prop := ∀ d ∈ f.dialogues, d.agenda = []

namespace Moment

theorem run_session {m : Moment} {i : Nat} {d d' : Dialogue} (acts : List Dialogue.Act)
    (found : m.dialogues[i]? = some d) (run : Dialogue.run? acts d = some d')
    (addressed : ∀ a ∈ acts, isAddressed a = true) :
    ∃ notices, run? (acts.map (.session i)) m =
      some { m with dialogues := m.dialogues.set i d', notices } := by
  induction acts generalizing m d with
  | nil =>
    cases run
    obtain ⟨bound, rfl⟩ := List.getElem?_eq_some_iff.mp found
    exact ⟨m.notices, by rw [List.set_getElem_self bound]; rfl⟩
  | cons a as ih =>
    obtain ⟨e, he, hr⟩ := Option.bind_eq_some_iff.mp run
    obtain ⟨bound, -⟩ := List.getElem?_eq_some_iff.mp found
    have step : m.act? (.session i a) = some (m.put i d e) := by
      rw [act?, session?, if_pos (addressed a List.mem_cons_self), found, Option.bind_some, he]
      rfl
    obtain ⟨notices, rest⟩ := ih (m := m.put i d e) (List.getElem?_set_self bound) hr
      fun b member => addressed b (List.mem_cons_of_mem _ member)
    refine ⟨notices, ?_⟩
    rw [List.map_cons, run?, step, Option.bind_some, rest]
    simp [put]

/-- The turns of some sessions, given the passes before them. -/
def turns (from_ : Nat) : List Dialogue → List Act
  | [] => []
  | _ :: ds => .pass from_ :: turns (from_ + 1) ds

theorem run_turns (m : Moment) (made : List Pass) (before ds : List Dialogue)
    (log : List Log.Line) (here : made.length = before.length) :
    run? (turns made.length ds)
        { m with dialogues := before ++ ds, progress := .passing made, log } =
      some { m with
        dialogues := before ++ ds.map fun d => d.setSite d.site.pass.site
        progress := .passing (made ++ ds.map fun d => d.site.pass)
        log := log ++ (ds.map fun d => d.site.pass).flatMap Pass.lines } := by
  induction ds generalizing made before log with
  | nil => simp [turns, run?]
  | cons d ds ih =>
    have found : (before ++ d :: ds)[made.length]? = some d := by
      rw [here, List.getElem?_append_right (Nat.le_refl _), Nat.sub_self]
      rfl
    have placed : (before ++ d :: ds).set made.length (d.setSite d.site.pass.site) =
        (before ++ [d.setSite d.site.pass.site]) ++ ds := by
      rw [here, List.set_append_right _ _ (Nat.le_refl _), Nat.sub_self]
      simp
    have next := ih (made ++ [d.site.pass]) (before ++ [d.setSite d.site.pass.site])
      (log ++ d.site.pass.lines) (by rw [List.length_append, List.length_append, here]; rfl)
    rw [List.length_append, List.length_singleton] at next
    rw [turns, run?, act?, pass?]
    simp only [if_true, found, placed, Option.map_some, Option.bind_some]
    rw [next]
    simp

/-- A fleet all of whose passes are made. -/
def swept (f : Fleet) (listening : Bool) (notices : List (Nat × StreamEnded)) : Moment :=
  { rest f listening notices with
    dialogues := f.dialogues.map fun d => d.setSite d.site.pass.site
    progress := .passing (f.dialogues.map fun d => d.site.pass)
    log := f.log ++ (f.dialogues.map fun d => d.site.pass).flatMap Pass.lines }

theorem run_swept (f : Fleet) (listening : Bool) (notices : List (Nat × StreamEnded)) :
    run? [.conclude, .endTick] (swept f listening notices) =
      some (rest f.tick.1 listening notices) := by
  have all : (f.dialogues.map fun d => d.site.pass).length =
      (f.dialogues.map fun d => d.setSite d.site.pass.site).length := by
    rw [List.length_map, List.length_map]
  have same : Sweep.mk (f.dialogues.map fun d => d.site.pass) =
      (Dialogue.tickAll f.dialogues).2 :=
    congrArg Sweep.mk (Dialogue.tickAll_passes f.dialogues).symm
  have told : (Dialogue.tickAll f.dialogues).2.lines =
      (f.dialogues.map fun d => d.site.pass).flatMap Pass.lines ++
        if (Dialogue.tickAll f.dialogues).2.restartNeeded then [restarting] else [] := by
    rw [Sweep.lines, Dialogue.tickAll_passes]
  rw [run?, act?, conclude?, swept]
  simp only [if_pos all, same, Option.bind_some, run?, act?, endTick?, tick,
    Dialogue.tickAll_dialogues, told]
  cases (Dialogue.tickAll f.dialogues).2.restartNeeded <;> simp [rest]

/-- A tick is one pass after the other, and the restart action if it is needed. -/
theorem run_tick (f : Fleet) (listening : Bool) (notices : List (Nat × StreamEnded)) :
    run? (.beginTick :: (turns 0 f.dialogues ++ [.conclude, .endTick]))
        (rest f listening notices) = some (rest f.tick.1 listening notices) := by
  have begun : (rest f listening notices).act? .beginTick =
      some { rest f listening notices with progress := .passing [] } := rfl
  have passed : run? (turns 0 f.dialogues)
      { rest f listening notices with progress := .passing [] } =
        some (swept f listening notices) :=
    run_turns (rest f listening notices) [] [] f.dialogues f.log rfl
  rw [run?, begun, Option.bind_some, run_append, passed, Option.bind_some]
  exact run_swept f listening notices

end Moment

variable {f : Fleet}

theorem tick_dialogues (f : Fleet) :
    f.tick.1.dialogues = f.dialogues.map fun d => d.setSite d.site.pass.site := by
  simp only [tick, Dialogue.tickAll_dialogues]
  split <;> rfl

theorem idle_tick (idle : f.Idle) : f.tick.1.Idle := by
  intro d member
  rw [tick_dialogues] at member
  obtain ⟨e, among, rfl⟩ := List.mem_map.mp member
  exact idle e among

/-- What a step of a fleet does, its acts can do. -/
theorem exists_run_step (idle : f.Idle) (s : Step) (listening : Bool)
    (notices : List (Nat × StreamEnded)) :
    (f.step s).1.Idle ∧ ∃ acts more, Moment.run? acts (.rest f listening notices) =
      some (.rest (f.step s).1 listening more) := by
  cases s with
  | session i command =>
    cases found : f.dialogues[i]? with
    | none =>
      have same : (f.step (.session i command)).1 = f := by simp [step, found]
      rw [same]
      exact ⟨idle, [], notices, rfl⟩
    | some d =>
      obtain ⟨still, acts, run, addressed⟩ :=
        Dialogue.reaches_obey command (idle d (List.mem_of_getElem? found))
      have same : (f.step (.session i command)).1 =
          { f with dialogues := f.dialogues.set i (obey d command).1 } := by simp [step, found]
      rw [same]
      constructor
      · intro e member
        rcases List.mem_or_eq_of_mem_set member with other | rfl
        · exact idle e other
        · exact still
      · obtain ⟨more, run⟩ := Moment.run_session (m := .rest f listening notices) acts found run
          addressed
        exact ⟨_, more, run⟩
  | setRestart outcome => exact ⟨idle, [.setRestart outcome], notices, rfl⟩
  | tick => exact ⟨idle_tick idle, _, notices, Moment.run_tick f listening notices⟩

theorem exists_run (steps : List Step) (idle : f.Idle) (listening : Bool)
    (notices : List (Nat × StreamEnded)) :
    ∃ acts more, Moment.run? acts (.rest f listening notices) =
      some (.rest (f.run steps) listening more) := by
  induction steps generalizing f notices with
  | nil => exact ⟨[], notices, rfl⟩
  | cons s ss ih =>
    obtain ⟨still, acts, more, first⟩ := exists_run_step idle s listening notices
    obtain ⟨others, last, rest⟩ := ih still more
    refine ⟨acts ++ others, last, ?_⟩
    rw [Moment.run_append, first]
    exact rest

/-- Every run of steps from the start is a run of acts. -/
theorem exists_run_start (sessions : List (SessionConfig × Behaviour)) (steps : List Step) :
    ∃ acts more, Moment.run? acts (.start sessions) =
      some (.rest (run steps (start sessions)) true more) := by
  have idle : (start sessions).Idle := by
    intro d member
    obtain ⟨session, -, rfl⟩ := List.mem_map.mp member
    rfl
  exact exists_run steps idle true []

end Fleet

end PeeringAgent
