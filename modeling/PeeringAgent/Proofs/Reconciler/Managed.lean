import PeeringAgent.Proofs.Link.Installed
import PeeringAgent.Reconciler.Watch

/-!
# What the managed AS has

The passes of a tick record which stores they have changed, so the restart action
runs exactly when what is installed has changed. Outside a tick the AS has what is
installed, whatever directives have come in between.
-/

set_option autoImplicit false

namespace PeeringAgent.Reconciler

/-- The passes made tell of each store they were over whether it has changed, and the
other stores have not. -/
def Tracks : List Pass → List (List Link) → List (List Link) → Prop
  | [], now, old => now = old
  | p :: ps, now :: nows, old :: olds =>
    (p.changes.restartNeeded = true ↔ now ≠ old) ∧ Tracks ps nows olds
  | _ :: _, _, _ => False

/-- One more pass tells of one more store. -/
theorem tracks_append {made : List Pass} {nows olds : List (List Link)} {now new : List Link}
    {p : Pass} (h : Tracks made nows olds) (next : nows[made.length]? = some now)
    (change : p.changes.restartNeeded = true ↔ new ≠ now) :
    Tracks (made ++ [p]) (nows.set made.length new) olds := by
  induction made generalizing nows olds with
  | nil =>
    cases nows with
    | nil => cases next
    | cons first rest =>
      obtain rfl : first = now := Option.some.inj next
      cases h
      exact ⟨change, rfl⟩
  | cons q made ih =>
    cases nows with
    | nil => cases next
    | cons first rest =>
      cases olds with
      | nil => cases h
      | cons old olds => exact ⟨h.1, ih h.2 next⟩

/-- After all passes, one of them asks for a restart exactly when something has changed. -/
theorem tracks_changed {made : List Pass} {nows olds : List (List Link)}
    (h : Tracks made nows olds) :
    (Sweep.mk made).restartNeeded = true ↔ nows ≠ olds := by
  induction made generalizing nows olds with
  | nil =>
    cases h
    simp [Sweep.restartNeeded]
  | cons p made ih =>
    cases nows with
    | nil => cases h
    | cons now nows =>
      cases olds with
      | nil => cases h
      | cons old olds =>
        have rest := ih h.2
        have first := h.1
        have later : (made.any fun p => p.changes.restartNeeded) =
            (Sweep.mk made).restartNeeded := rfl
        rw [Sweep.restartNeeded, List.any_cons, Bool.or_eq_true, later, rest, first, ne_eq, ne_eq,
          ne_eq, List.cons.injEq, Classical.not_and_iff_not_or_not]

namespace Watch

variable {w w' : Watch}

/-- Outside the passes of a tick the AS has what is installed. -/
def InStep (w : Watch) : Prop :=
  match w.progress with
  | .resting => w.installed = w.managed
  | .passing made => made.length ≤ w.sites.length ∧ Tracks made w.installed w.managed
  | .acting => w.installed = w.managed

theorem installed_empty : LinkStore.empty.installed = [] := by
  simp [LinkStore.empty, LinkStore.installed, LinkStore.linksIn, Link.sort]

theorem inStep_start (sessions : List String) : InStep (start sessions) := by
  show (start sessions).installed = _
  rw [installed, start, List.map_map]
  exact List.map_congr_left fun _ _ => installed_empty

theorem set_same {α : Type} {xs : List α} {i : Nat} {x : α} (h : xs[i]? = some x) :
    xs.set i x = xs := by
  obtain ⟨bound, rfl⟩ := List.getElem?_eq_some_iff.mp h
  exact List.set_getElem_self bound

/-! ## What an act can do -/

/-- A directive changes the installed links of no store, and nothing of the tick. -/
theorem direct_cases {index : Nat} {directive : LinkDirective}
    (h : w.direct? index directive = some w') :
    w'.installed = w.installed ∧ ∃ sites, sites.length = w.sites.length ∧
      w' = { w with sites } := by
  unfold direct? at h
  split at h
  case h_2 => cases h
  case h_1 site found =>
    cases h
    refine ⟨?_, _, List.length_set, rfl⟩
    rw [installed, installed, List.map_set, LinkStore.installed_apply]
    exact set_same (by rw [List.getElem?_map, found]; rfl)

theorem beginTick_cases (h : w.beginTick? = some w') :
    w.progress = .resting ∧ w' = { w with progress := .passing [] } := by
  unfold beginTick? at h
  split at h
  case h_1 rest =>
    cases h
    exact ⟨rest, rfl⟩
  case h_2 => cases h

theorem pass_cases (h : w.pass? = some w') : ∃ made site,
    w.progress = .passing made ∧ w.sites[made.length]? = some site ∧
    w' = { w with
      sites := w.sites.set made.length site.pass.site
      progress := .passing (made ++ [site.pass])
      log := w.log ++ site.pass.lines } := by
  unfold pass? at h
  split at h
  case h_1 made now =>
    split at h
    case h_1 site found =>
      cases h
      exact ⟨made, site, now, found, rfl⟩
    case h_2 => cases h
  case h_2 => cases h

theorem conclude_cases (h : w.conclude? = some w') : ∃ made,
    w.progress = .passing made ∧ made.length = w.sites.length ∧
    ((Sweep.mk made).restartNeeded = true ∧ w' = { w with
        progress := .acting, managed := w.installed, runs := w.runs + 1
        log := w.log ++ [restarting] } ∨
      (Sweep.mk made).restartNeeded = false ∧
        w' = { w with progress := .resting, answer := some false }) := by
  unfold conclude? at h
  split at h
  case h_2 => cases h
  case h_1 made now =>
    split at h
    case isFalse => cases h
    case isTrue all =>
      split at h
      case isTrue needed =>
        cases h
        exact ⟨made, now, all, .inl ⟨needed, rfl⟩⟩
      case isFalse needless =>
        cases h
        exact ⟨made, now, all, .inr ⟨Bool.eq_false_iff.mpr needless, rfl⟩⟩

theorem endAction_cases {outcome : RestartOutcome} (h : w.endAction? outcome = some w') :
    w.progress = .acting ∧ w' = { w with
      progress := .resting, answer := some true, log := w.log ++ outcomeLines outcome } := by
  unfold endAction? at h
  split at h
  case h_1 now =>
    cases h
    exact ⟨now, rfl⟩
  case h_2 => cases h

/-! ## One act -/

theorem sites_length {a : Act} (h : w.act? a = some w') : w'.sites.length = w.sites.length := by
  cases a with
  | direct index directive =>
    obtain ⟨-, sites, same, rfl⟩ := direct_cases h
    exact same
  | beginTick =>
    obtain ⟨-, rfl⟩ := beginTick_cases h
    rfl
  | pass =>
    obtain ⟨made, site, -, -, rfl⟩ := pass_cases h
    exact List.length_set
  | conclude => obtain ⟨made, -, -, ⟨-, rfl⟩ | ⟨-, rfl⟩⟩ := conclude_cases h <;> rfl
  | endAction outcome =>
    obtain ⟨-, rfl⟩ := endAction_cases h
    rfl

theorem inStep_direct {sites : List Site} (h : InStep w)
    (same : ({ w with sites } : Watch).installed = w.installed)
    (count : sites.length = w.sites.length) : InStep { w with sites } := by
  unfold InStep at h ⊢
  rw [same]
  dsimp only
  rw [count]
  exact h

/-- The pass over a store tells whether it has changed the store. -/
theorem inStep_pass {made : List Pass} {site : Site} {log : List Log.Line} (h : InStep w)
    (now : w.progress = .passing made) (found : w.sites[made.length]? = some site) :
    InStep { w with
      sites := w.sites.set made.length site.pass.site
      progress := .passing (made ++ [site.pass]), log } := by
  rw [InStep, now] at h
  obtain ⟨bound, -⟩ := List.getElem?_eq_some_iff.mp found
  have place : w.installed[made.length]? = some site.store.installed := by
    rw [installed, List.getElem?_map, found]
    rfl
  have change : site.pass.changes.restartNeeded = true ↔
      site.pass.site.store.installed ≠ site.store.installed :=
    LinkStore.restartNeeded_iff_installed site.store
  have tracks := tracks_append h.2 place change
  refine ⟨?_, ?_⟩
  · rw [List.length_append, List.length_singleton, List.length_set]
    exact bound
  · rw [installed, List.map_set]
    exact tracks

theorem InStep.step {a : Act} (h : InStep w) (he : w.act? a = some w') : InStep w' := by
  cases a with
  | direct index directive =>
    obtain ⟨same, sites, count, rfl⟩ := direct_cases he
    exact inStep_direct h same count
  | beginTick =>
    obtain ⟨now, rfl⟩ := beginTick_cases he
    rw [InStep, now] at h
    exact ⟨Nat.zero_le _, h⟩
  | pass =>
    obtain ⟨made, site, now, found, rfl⟩ := pass_cases he
    exact inStep_pass h now found
  | conclude =>
    obtain ⟨made, now, all, ⟨needed, rfl⟩ | ⟨needless, rfl⟩⟩ := conclude_cases he
    · show w.installed = w.installed
      rfl
    · rw [InStep, now] at h
      show w.installed = w.managed
      have changed := tracks_changed h.2
      rw [needless] at changed
      exact Classical.not_not.mp fun differs => absurd (changed.mpr differs) Bool.false_ne_true
  | endAction outcome =>
    obtain ⟨now, rfl⟩ := endAction_cases he
    rw [InStep, now] at h
    exact h

/-! ## One tick -/

/-- What the acts since the beginning of a tick have come to. -/
def Since (first : Watch) (seen : List Nat) (w : Watch) : Prop :=
  match w.progress with
  | .passing made =>
    seen = List.range made.length ∧ w.managed = first.installed ∧ w.runs = first.runs
  | .acting =>
    seen = List.range first.sites.length ∧ w.installed ≠ first.installed ∧
      w.runs = first.runs + 1
  | .resting =>
    seen = List.range first.sites.length ∧
      (w.installed ≠ first.installed ∧ w.runs = first.runs + 1 ∧ w.answer = some true ∨
        w.installed = first.installed ∧ w.runs = first.runs ∧ w.answer = some false)

variable {first : Watch} {seen : List Nat}

theorem Since.step {a : Act} (h : Since first seen w) (inStep : InStep w)
    (same : w.sites.length = first.sites.length) (he : w.act? a = some w')
    (other : a.beginsTick = false) : Since first (seen ++ (w.visit? a).toList) w' := by
  cases a with
  | direct index directive =>
    obtain ⟨installed, sites, count, rfl⟩ := direct_cases he
    show Since first (seen ++ []) _
    rw [List.append_nil]
    unfold Since at h ⊢
    rw [installed]
    exact h
  | beginTick => cases other
  | pass =>
    obtain ⟨made, site, now, found, rfl⟩ := pass_cases he
    rw [Since, now] at h
    obtain ⟨rfl, managed, runs⟩ := h
    refine ⟨?_, managed, runs⟩
    rw [visit?, now, List.length_append, List.length_singleton, List.range_succ]
    rfl
  | conclude =>
    obtain ⟨made, now, all, result⟩ := conclude_cases he
    rw [Since, now] at h
    rw [InStep, now] at inStep
    obtain ⟨rfl, managed, runs⟩ := h
    have changed := tracks_changed inStep.2
    rw [managed] at changed
    show Since first (List.range made.length ++ []) _
    rw [List.append_nil, all, same]
    rcases result with ⟨needed, rfl⟩ | ⟨needless, rfl⟩
    · exact ⟨rfl, changed.mp needed, congrArg (· + 1) runs⟩
    · rw [needless] at changed
      have kept : w.installed = first.installed :=
        Classical.not_not.mp fun differs => absurd (changed.mpr differs) Bool.false_ne_true
      exact ⟨rfl, .inr ⟨kept, runs, rfl⟩⟩
  | endAction outcome =>
    obtain ⟨now, rfl⟩ := endAction_cases he
    rw [Since, now] at h
    obtain ⟨all, changed, runs⟩ := h
    show Since first (seen ++ []) _
    rw [List.append_nil]
    exact ⟨all, .inl ⟨changed, runs, rfl⟩⟩

theorem Since.run (acts : List Act) (h : Since first seen w) (inStep : InStep w)
    (same : w.sites.length = first.sites.length) (run : run? acts w = some w')
    (others : ∀ a ∈ acts, a.beginsTick = false) :
    Since first (seen ++ visits acts w) w' := by
  induction acts generalizing w seen with
  | nil =>
    cases run
    rw [visits, List.append_nil]
    exact h
  | cons a as ih =>
    obtain ⟨e, he, hr⟩ := Option.bind_eq_some_iff.mp run
    have next := h.step inStep same he (others a List.mem_cons_self)
    have rest := ih next (inStep.step he) ((sites_length he).trans same) hr
      fun b hb => others b (List.mem_cons_of_mem _ hb)
    rw [visits, he, ← List.append_assoc]
    exact rest

theorem InStep.run (acts : List Act) (h : InStep w) (run : run? acts w = some w') : InStep w' := by
  induction acts generalizing w with
  | nil =>
    cases run
    exact h
  | cons a as ih =>
    obtain ⟨e, he, hr⟩ := Option.bind_eq_some_iff.mp run
    exact ih (h.step he) hr

/-- A whole tick, from its beginning to a moment after its end. -/
theorem InStep.tick {acts : List Act} (h : InStep w) (idle : w.progress = .resting)
    (run : run? (.beginTick :: acts) w = some w') (others : ∀ a ∈ acts, a.beginsTick = false)
    (ended : w'.progress = .resting) :
    visits (.beginTick :: acts) w = List.range w.sites.length ∧
      (w'.installed ≠ w.installed ∧ w'.runs = w.runs + 1 ∧ w'.answer = some true ∨
        w'.installed = w.installed ∧ w'.runs = w.runs ∧ w'.answer = some false) := by
  obtain ⟨e, he, hr⟩ := Option.bind_eq_some_iff.mp run
  have seen : visits (.beginTick :: acts) w = [] ++ visits acts e := by
    rw [visits, he]
    rfl
  have begun : Since w [] e := by
    obtain ⟨-, rfl⟩ := beginTick_cases he
    rw [InStep, idle] at h
    exact ⟨rfl, h.symm, rfl⟩
  have since := begun.run acts (h.step he) (sites_length he) hr others
  rw [Since, ended, ← seen] at since
  exact since

/-- A tick that has begun can always go on. -/
theorem InStep.goesOn (h : InStep w) (busy : w.progress ≠ .resting) :
    (w.act? .pass).isSome = true ∨ (w.act? .conclude).isSome = true ∨
      ∀ outcome, (w.act? (.endAction outcome)).isSome = true := by
  cases now : w.progress with
  | resting => exact absurd now busy
  | acting =>
    right; right
    intro outcome
    simp [act?, endAction?, now]
  | passing made =>
    rw [InStep, now] at h
    by_cases all : made.length = w.sites.length
    · right; left
      simp only [act?, conclude?, now, all, if_true]
      split <;> rfl
    · left
      have bound : made.length < w.sites.length := Nat.lt_of_le_of_ne h.1 all
      simp [act?, pass?, now, List.getElem?_eq_getElem bound]

/-- What a watch does from now on, and what the AS has. -/
structure Faithful (w : Watch) : Prop where
  directive : ∀ index directive w', w.act? (.direct index directive) = some w' →
    w'.installed = w.installed
  /-- The pass over a store leaves nothing pending in it. -/
  settled : ∀ w', w.act? .pass = some w' → ∃ index site, w.visit? .pass = some index ∧
    w'.sites[index]? = some site ∧
    ∀ link state, site.store.state? link = some state → state = .installed
  goesOn : w.progress ≠ .resting → (w.act? .pass).isSome = true ∨
    (w.act? .conclude).isSome = true ∨ ∀ outcome, (w.act? (.endAction outcome)).isSome = true
  /-- A tick passes over every store once. It runs the action once, and says so, if it has
  changed what is installed, and else not at all. -/
  tick : ∀ acts w', w.progress = .resting → run? (.beginTick :: acts) w = some w' →
    (∀ a ∈ acts, a.beginsTick = false) → w'.progress = .resting →
    visits (.beginTick :: acts) w = List.range w.sites.length ∧
      (w'.installed ≠ w.installed ∧ w'.runs = w.runs + 1 ∧ w'.answer = some true ∨
        w'.installed = w.installed ∧ w'.runs = w.runs ∧ w'.answer = some false)
  managed : w.progress = .resting → w.installed = w.managed

/-- Wherever directives land among ticks, passes and action runs, outside a tick the AS
has exactly what is installed. -/
theorem faithful_of_run (sessions : List String) (acts : List Act) (w : Watch)
    (run : run? acts (start sessions) = some w) : Faithful w := by
  have inStep := (inStep_start sessions).run acts run
  constructor
  case directive =>
    intro index directive w' h
    exact (direct_cases h).1
  case settled =>
    intro w' h
    obtain ⟨made, site, now, found, rfl⟩ := pass_cases h
    obtain ⟨bound, -⟩ := List.getElem?_eq_some_iff.mp found
    refine ⟨made.length, site.pass.site, ?_, List.getElem?_set_self bound, ?_⟩
    · rw [visit?, now]
    · exact site.store.settled_reconcile
  case goesOn => exact inStep.goesOn
  case tick =>
    intro acts w' idle more others ended
    exact inStep.tick idle more others ended
  case managed =>
    intro idle
    rw [InStep, idle] at inStep
    exact inStep

def exampleLink : Link :=
  { kind := .core, peerAsn := "1-ff00:0:111", localIp := "10.0.0.2", localPort := 50000
    remoteIp := "10.0.0.3", remotePort := 50001 }

/-- Two stores; links come before the first tick, between its passes and while its
action runs, and one goes before the second tick. -/
def exampleTicks : List Act :=
  [.direct 0 (.create exampleLink), .beginTick, .pass, .direct 0 (.destroy exampleLink),
   .direct 1 (.create exampleLink), .pass, .conclude, .direct 1 (.destroy exampleLink),
   .endAction (.ok ()), .beginTick, .pass, .pass, .conclude, .direct 1 (.create exampleLink),
   .endAction (.ok ()), .beginTick, .pass, .pass]

theorem exampleTicks_faithful :
    ∃ w, run? exampleTicks (start ["east", "west"]) = some w ∧ Faithful w := by
  have possible : (run? exampleTicks (start ["east", "west"])).isSome = true := by decide
  obtain ⟨w, run⟩ := Option.isSome_iff_exists.mp possible
  exact ⟨w, run, faithful_of_run _ _ w run⟩

/-! ## Without directives -/

theorem run_passes (made : List Pass) (before rest : List Site) (log : List Log.Line)
    (here : made.length = before.length) :
    run? (List.replicate rest.length .pass)
        { w with sites := before ++ rest, progress := .passing made, log } =
      some { w with
        sites := before ++ (rest.map Site.pass).map Pass.site
        progress := .passing (made ++ rest.map Site.pass)
        log := log ++ (rest.map Site.pass).flatMap Pass.lines } := by
  induction rest generalizing made before log with
  | nil => simp [run?]
  | cons site rest ih =>
    have found : (before ++ site :: rest)[made.length]? = some site := by
      rw [here, List.getElem?_append_right (Nat.le_refl _), Nat.sub_self]
      rfl
    have placed : (before ++ site :: rest).set made.length site.pass.site =
        (before ++ [site.pass.site]) ++ rest := by
      rw [here, List.set_append_right _ _ (Nat.le_refl _), Nat.sub_self]
      simp
    have next := ih (made ++ [site.pass]) (before ++ [site.pass.site]) (log ++ site.pass.lines)
      (by rw [List.length_append, List.length_append, here]; rfl)
    rw [List.length_cons, List.replicate_succ, run?, act?, pass?]
    simp only [found, placed, Option.bind_some]
    rw [next]
    simp

/-- A tick that nothing disturbs is a sweep over the stores. -/
theorem run_sweep (idle : w.progress = .resting) :
    run? (.beginTick :: List.replicate w.sites.length .pass) w =
      some { w with
        sites := (sweep w.sites).sites, progress := .passing (sweep w.sites).passes
        log := w.log ++ (sweep w.sites).passes.flatMap Pass.lines } := by
  have passes := run_passes (w := w) [] [] w.sites w.log rfl
  rw [run?, act?, beginTick?, idle]
  exact passes

end Watch

end PeeringAgent.Reconciler
