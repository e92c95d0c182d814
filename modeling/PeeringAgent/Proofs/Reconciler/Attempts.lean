import PeeringAgent.Proofs.Reconciler.Managed

/-!
# Failed restarts

A run of the restart action is forgotten once it has ended: the next run begins when
what is installed changes again, and not because the last one has failed. What is
installed outside a tick is therefore what was there when the latest run began, and
only if that run has succeeded what the AS was told last.
-/

set_option autoImplicit false

namespace PeeringAgent.Reconciler.Watch

/-- A run of the restart action that has ended, with what was installed at its beginning. -/
structure Attempt where
  installed : List (List Link)
  outcome : RestartOutcome

def Attempt.succeeded (t : Attempt) : Bool := t.outcome.isOk

/-- The run of the action that an act ends. -/
def attempt? (w : Watch) : Act → Option Attempt
  | .endAction outcome => some ⟨w.managed, outcome⟩
  | _ => none

/-- The runs of the action that acts end, in this order. -/
def attempts : List Act → Watch → List Attempt
  | [], _ => []
  | a :: as, w => (w.attempt? a).toList ++ ((w.act? a).map (attempts as)).getD []

/-- What was installed when the last of these runs began, `had` if there is none. -/
def latest (had : List (List Link)) : List Attempt → List (List Link)
  | [] => had
  | t :: ts => latest t.installed ts

/-- Each run begins with other links installed than the run before it. -/
def Changing (had : List (List Link)) : List Attempt → Prop
  | [] => True
  | t :: ts => t.installed ≠ had ∧ Changing t.installed ts

theorem latest_concat (had : List (List Link)) (ts : List Attempt) (t : Attempt) :
    latest had (ts ++ [t]) = t.installed := by
  induction ts generalizing had with
  | nil => rfl
  | cons s ts ih => exact ih s.installed

theorem changing_concat {had : List (List Link)} {ts : List Attempt} {t : Attempt} :
    Changing had (ts ++ [t]) ↔ Changing had ts ∧ t.installed ≠ latest had ts := by
  induction ts generalizing had with
  | nil => exact and_comm
  | cons s ts ih =>
    rw [List.cons_append, Changing, Changing, latest, ih, and_assoc]

/-- When the last run has succeeded, the runs that have failed before it do not matter. -/
theorem latest_succeeded (had : List (List Link)) (ts : List Attempt)
    (h : ∀ t, ts.getLast? = some t → t.succeeded = true) :
    latest had (ts.filter Attempt.succeeded) = latest had ts := by
  rcases List.eq_nil_or_concat ts with rfl | ⟨earlier, t, rfl⟩
  · rfl
  · rw [List.concat_eq_append] at h ⊢
    have good : t.succeeded = true := h t (by simp)
    rw [List.filter_append, List.filter_cons_of_pos good, List.filter_nil, latest_concat,
      latest_concat]

variable {w w' : Watch} {nothing : List (List Link)} {ts : List Attempt}

/-! ## One act -/

/-- What the runs that have ended tell of the watch. -/
def Recorded (nothing : List (List Link)) (ts : List Attempt) (w : Watch) : Prop :=
  match w.progress with
  | .acting => Changing nothing ts ∧ w.managed ≠ latest nothing ts ∧ w.runs = ts.length + 1
  | _ => Changing nothing ts ∧ w.managed = latest nothing ts ∧ w.runs = ts.length

theorem Recorded.step {a : Act} (h : Recorded nothing ts w) (inStep : InStep w)
    (he : w.act? a = some w') : Recorded nothing (ts ++ (w.attempt? a).toList) w' := by
  cases a with
  | direct index directive =>
    obtain ⟨-, sites, -, rfl⟩ := direct_cases he
    show Recorded nothing (ts ++ []) _
    rw [List.append_nil]
    exact h
  | beginTick =>
    obtain ⟨now, rfl⟩ := beginTick_cases he
    show Recorded nothing (ts ++ []) _
    rw [List.append_nil]
    rw [Recorded, now] at h
    exact h
  | pass =>
    obtain ⟨made, site, now, -, rfl⟩ := pass_cases he
    show Recorded nothing (ts ++ []) _
    rw [List.append_nil]
    rw [Recorded, now] at h
    exact h
  | conclude =>
    obtain ⟨made, now, -, result⟩ := conclude_cases he
    show Recorded nothing (ts ++ []) _
    rw [List.append_nil]
    rw [Recorded, now] at h
    rw [InStep, now] at inStep
    obtain ⟨changing, managed, runs⟩ := h
    rcases result with ⟨needed, rfl⟩ | ⟨-, rfl⟩
    · have changed := (tracks_changed inStep.2).mp needed
      rw [managed] at changed
      exact ⟨changing, changed, congrArg (· + 1) runs⟩
    · exact ⟨changing, managed, runs⟩
  | endAction outcome =>
    obtain ⟨now, rfl⟩ := endAction_cases he
    rw [Recorded, now] at h
    obtain ⟨changing, changed, runs⟩ := h
    refine ⟨changing_concat.mpr ⟨changing, changed⟩, ?_, ?_⟩
    · exact (latest_concat nothing ts ⟨w.managed, outcome⟩).symm
    · rw [List.length_append]
      exact runs

theorem Recorded.run (acts : List Act) (h : Recorded nothing ts w) (inStep : InStep w)
    (run : run? acts w = some w') : Recorded nothing (ts ++ attempts acts w) w' := by
  induction acts generalizing w ts with
  | nil =>
    cases run
    rw [attempts, List.append_nil]
    exact h
  | cons a as ih =>
    obtain ⟨e, he, hr⟩ := Option.bind_eq_some_iff.mp run
    have rest := ih (h.step inStep he) (inStep.step he) hr
    rw [attempts, he, ← List.append_assoc]
    exact rest

theorem recorded_start (sessions : List String) :
    Recorded (sessions.map fun _ => []) [] (start sessions) :=
  ⟨trivial, rfl, rfl⟩

/-! ## A tick that finds nothing to do -/

/-- No store has anything pending. -/
def Settled (w : Watch) : Prop :=
  ∀ site ∈ w.sites, ∀ link state, site.store.state? link = some state → state = .installed

def Act.directs : Act → Bool
  | .direct _ _ => true
  | _ => false

theorem installed_reconcile {s : LinkStore}
    (h : ∀ link state, s.state? link = some state → state = .installed) :
    s.reconcile.1.installed = s.installed := by
  refine Classical.not_not.mp fun changed => ?_
  obtain ⟨link, create | destroy⟩ :=
    s.restartNeeded_iff.mp (s.restartNeeded_iff_installed.mpr changed)
  · cases h link _ create
  · cases h link _ destroy

theorem Settled.step {a : Act} (h : Settled w) (he : w.act? a = some w')
    (still : a.directs = false) : Settled w' ∧ w'.installed = w.installed := by
  cases a with
  | direct index directive => cases still
  | beginTick =>
    obtain ⟨-, rfl⟩ := beginTick_cases he
    exact ⟨h, rfl⟩
  | pass =>
    obtain ⟨made, site, -, found, rfl⟩ := pass_cases he
    constructor
    · intro other member
      rcases List.mem_or_eq_of_mem_set member with old | rfl
      · exact h other old
      · exact site.store.settled_reconcile
    · have same : site.pass.site.store.installed = site.store.installed :=
        installed_reconcile (h site (List.mem_of_getElem? found))
      rw [installed, installed, List.map_set, same]
      exact set_same (by rw [List.getElem?_map, found]; rfl)
  | conclude =>
    obtain ⟨made, -, -, ⟨-, rfl⟩ | ⟨-, rfl⟩⟩ := conclude_cases he <;> exact ⟨h, rfl⟩
  | endAction outcome =>
    obtain ⟨-, rfl⟩ := endAction_cases he
    exact ⟨h, rfl⟩

theorem Settled.run (acts : List Act) (h : Settled w) (run : run? acts w = some w')
    (still : ∀ a ∈ acts, a.directs = false) : Settled w' ∧ w'.installed = w.installed := by
  induction acts generalizing w with
  | nil =>
    cases run
    exact ⟨h, rfl⟩
  | cons a as ih =>
    obtain ⟨e, he, hr⟩ := Option.bind_eq_some_iff.mp run
    obtain ⟨next, same⟩ := h.step he (still a List.mem_cons_self)
    obtain ⟨last, rest⟩ := ih next hr fun b hb => still b (List.mem_cons_of_mem _ hb)
    exact ⟨last, rest.trans same⟩

/-! ## All runs -/

/-- The run of a whole tick, if it has made one. -/
theorem attempts_tick {acts : List Act} (h : Recorded nothing ts w) (inStep : InStep w)
    (idle : w.progress = .resting) (run : run? (.beginTick :: acts) w = some w')
    (others : ∀ a ∈ acts, a.beginsTick = false) (ended : w'.progress = .resting) :
    w'.answer = some true ∧ w'.installed ≠ w.installed ∧
        (∃ outcome, attempts (.beginTick :: acts) w = [⟨w'.installed, outcome⟩]) ∨
      w'.answer = some false ∧ w'.installed = w.installed ∧
        attempts (.beginTick :: acts) w = [] := by
  have after := h.run _ inStep run
  have same := inStep.run _ run
  rw [Recorded, idle] at h
  rw [Recorded, ended] at after
  rw [InStep, ended] at same
  obtain ⟨-, managed, total⟩ := after
  rw [List.length_append, ← h.2.2] at total
  obtain ⟨-, ⟨changed, runs, told⟩ | ⟨kept, runs, told⟩⟩ := inStep.tick idle run others ended
  · left
    refine ⟨told, changed, ?_⟩
    have one : (attempts (.beginTick :: acts) w).length = 1 := by omega
    obtain ⟨⟨began, outcome⟩, only⟩ := List.length_eq_one_iff.mp one
    rw [only, latest_concat] at managed
    exact ⟨outcome, by rw [only, same, managed]⟩
  · right
    refine ⟨told, kept, ?_⟩
    exact List.length_eq_zero_iff.mp (by omega)

/-- What becomes of the restarts of a watch, over the runs that have ended. -/
structure Forgetful (nothing : List (List Link)) (ts : List Attempt) (w : Watch) : Prop where
  /-- Outside a tick the AS has what was there when the latest run began, however it ended. -/
  latest : w.progress = .resting → w.installed = latest nothing ts
  changing : Changing nothing ts
  afterSuccess : w.progress = .resting → (∀ t, ts.getLast? = some t → t.succeeded = true) →
    w.installed = Watch.latest nothing (ts.filter Attempt.succeeded)
  /-- A run that fails after one that has succeeded leaves other links installed than those
  of the latest success. -/
  afterFailure : w.progress = .resting → ∀ earlier t, ts = earlier ++ [t] →
    t.succeeded = false → (∀ s, earlier.getLast? = some s → s.succeeded = true) →
    w.installed ≠ Watch.latest nothing (ts.filter Attempt.succeeded)
  /-- The next tick makes one run if it changes what is installed, and else none, whatever
  became of the last run. -/
  tick : w.progress = .resting → ∀ acts w', run? (.beginTick :: acts) w = some w' →
    (∀ a ∈ acts, a.beginsTick = false) → w'.progress = .resting →
    w'.answer = some true ∧ w'.installed ≠ w.installed ∧
        (∃ outcome, attempts (.beginTick :: acts) w = [⟨w'.installed, outcome⟩]) ∨
      w'.answer = some false ∧ w'.installed = w.installed ∧
        attempts (.beginTick :: acts) w = []
  /-- With nothing pending the next tick makes none. -/
  quiet : w.progress = .resting → Settled w → ∀ acts w',
    run? (.beginTick :: acts) w = some w' →
    (∀ a ∈ acts, a.beginsTick = false ∧ a.directs = false) → w'.progress = .resting →
    w'.answer = some false ∧ attempts (.beginTick :: acts) w = []

/-- Wherever directives land and however the runs of the action end, a run that has failed
is made up for only by a later change of what is installed. -/
theorem forgetful_of_run (sessions : List String) (acts : List Act) (w : Watch)
    (run : run? acts (start sessions) = some w) :
    Forgetful (sessions.map fun _ => []) (attempts acts (start sessions)) w := by
  have inStep := (inStep_start sessions).run acts run
  have recorded : Recorded _ (attempts acts (start sessions)) w :=
    (recorded_start sessions).run acts (inStep_start sessions) run
  have atRest (idle : w.progress = .resting) :
      w.installed = latest (sessions.map fun _ => []) (attempts acts (start sessions)) := by
    rw [Recorded, idle] at recorded
    rw [InStep, idle] at inStep
    exact inStep.trans recorded.2.1
  have changing : Changing (sessions.map fun _ => []) (attempts acts (start sessions)) := by
    unfold Recorded at recorded
    split at recorded <;> exact recorded.1
  constructor
  case latest => exact atRest
  case changing => exact changing
  case afterSuccess =>
    intro idle good
    rw [latest_succeeded _ _ good]
    exact atRest idle
  case afterFailure =>
    intro idle earlier t all failed good
    have installed := atRest idle
    rw [all] at installed changing ⊢
    rw [latest_concat] at installed
    rw [List.filter_append, List.filter_cons_of_neg (by simp [failed]), List.filter_nil,
      List.append_nil, latest_succeeded _ _ good, installed]
    exact (changing_concat.mp changing).2
  case tick =>
    intro idle more w' tick others ended
    exact attempts_tick recorded inStep idle tick others ended
  case quiet =>
    intro idle settled more w' tick still ended
    have kept := (settled.run _ tick fun a member => by
      rcases List.mem_cons.mp member with rfl | later
      · rfl
      · exact (still a later).2).2
    rcases attempts_tick recorded inStep idle tick (fun a ha => (still a ha).1) ended with
      ⟨-, changed, -⟩ | ⟨told, -, none⟩
    · exact absurd kept changed
    · exact ⟨told, none⟩

/-- A link comes, the action fails at the tick that installs it, and a tick follows that
finds nothing to do. -/
def exampleOutage : List Act :=
  [.direct 0 (.create exampleLink), .beginTick, .pass, .conclude,
   .endAction (.error (.exit "restart-as" (.exited 1))), .beginTick, .pass, .conclude]

theorem exampleOutage_forgetful : ∃ w, run? exampleOutage (start ["east"]) = some w ∧
    Forgetful [[]] (attempts exampleOutage (start ["east"])) w := by
  have possible : (run? exampleOutage (start ["east"])).isSome = true := by decide
  obtain ⟨w, run⟩ := Option.isSome_iff_exists.mp possible
  exact ⟨w, run, forgetful_of_run _ _ w run⟩

/-- The tick after the failed run makes no run, and the link counts as installed though no
run has succeeded. -/
theorem exampleOutage_unrepaired : ∃ w, run? exampleOutage (start ["east"]) = some w ∧
    w.progress = .resting ∧ w.answer = some false ∧ w.runs = 1 ∧
    w.installed ≠
      latest [[]] ((attempts exampleOutage (start ["east"])).filter Attempt.succeeded) := by
  refine ⟨_, rfl, rfl, rfl, rfl, ?_⟩
  have allFailed :
      (attempts exampleOutage (start ["east"])).filter Attempt.succeeded = [] := rfl
  rw [allFailed]
  decide +kernel

end PeeringAgent.Reconciler.Watch
