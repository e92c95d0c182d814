import Mathlib.Data.List.Induction
import PeeringAgent.Link.History
import PeeringAgent.Proofs.Link.Installed

/-!
# Epochs of a link store

An epoch is the part of a history between two reconciliations. A link that was
installed when it began is torn down after it if the epoch asks for that anywhere; of
any other link only the last directive counts. So a history is decided link by link.
-/

set_option autoImplicit false

namespace PeeringAgent.LinkStore

/-- Directives of a history that follow a reconciliation, or nothing. -/
structure Epoch (ops : List Op) where
  before : List Op
  directives : List LinkDirective
  after : List Op
  cut : ops = before ++ directives.map .direct ++ after
  opens : ∀ op, before.getLast? = some op → op.isReconcile = true

namespace Epoch

variable {ops : List Op}

/-- The store when an epoch begins. -/
def first (e : Epoch ops) : LinkStore := run e.before empty

/-- The store when the directives of an epoch are done. -/
def last (e : Epoch ops) : LinkStore := run (e.before ++ e.directives.map .direct) empty

theorem last_eq (e : Epoch ops) : e.last = run (e.directives.map .direct) e.first :=
  run_append _ _ _

/-- A link at the end of a history that had other directives in one of its epochs. -/
theorem state?_with (e : Epoch ops) (directives : List LinkDirective) (l : Link) :
    (run (e.before ++ directives.map .direct ++ e.after) empty).state? l =
      evolveAll l e.after (evolveAll l (directives.map .direct) (e.first.state? l)) := by
  rw [run_append, run_append, state?_run, state?_run, first]

theorem state?_ops (e : Epoch ops) (l : Link) :
    (run ops empty).state? l =
      evolveAll l e.after (evolveAll l (e.directives.map .direct) (e.first.state? l)) := by
  have whole := e.state?_with e.directives l
  rwa [← e.cut] at whole

end Epoch

/-- The directives for one link. -/
def directed (l : Link) (directives : List LinkDirective) : List LinkDirective :=
  directives.filter (·.link = l)

/-- Two stores that know the same links in the same states. -/
def Agree (s t : LinkStore) : Prop := ∀ l, s.state? l = t.state? l

/-! ## One link in one epoch -/

section Directives

variable {l : Link}

/-- Tearing down is not taken back within an epoch. -/
theorem evolveAll_pendingDestroy (directives : List LinkDirective) :
    evolveAll l (directives.map .direct) (some .pendingDestroy) = some .pendingDestroy := by
  induction directives with
  | nil => rfl
  | cons directive directives ih =>
    have same : evolve l (.direct directive) (some .pendingDestroy) = some .pendingDestroy := by
      cases directive <;> simp [evolve, LinkState.removed]
    rw [List.map_cons, evolveAll, same, ih]

theorem evolve_installed (directive : LinkDirective) :
    evolve l (.direct directive) (some .installed) =
      some (if directive = .destroy l then .pendingDestroy else .installed) := by
  cases directive with
  | create k => simp [evolve]
  | destroy k =>
    by_cases h : l = k
    · subst h
      simp [evolve, LinkState.removed]
    · have other : k ≠ l := fun same => h same.symm
      simp [evolve, h, other]

theorem evolveAll_installed (directives : List LinkDirective) :
    evolveAll l (directives.map .direct) (some .installed) =
      some (if .destroy l ∈ directives then .pendingDestroy else .installed) := by
  induction directives with
  | nil => rfl
  | cons directive directives ih =>
    rw [List.map_cons, evolveAll, evolve_installed]
    by_cases h : directive = .destroy l
    · rw [if_pos h, evolveAll_pendingDestroy, if_pos (by simp [h])]
    · have same : .destroy l ∈ directive :: directives ↔ .destroy l ∈ directives := by
        rw [List.mem_cons]
        exact or_iff_right fun first => h first.symm
      rw [if_neg h, ih]
      simp only [same]

/-- What an absent link is after its last directive. -/
def requested (l : Link) (directives : List LinkDirective) : Option LinkState :=
  if (directed l directives).getLast? = some (.create l) then some .pendingCreate else none

theorem directed_append (front back : List LinkDirective) :
    directed l (front ++ back) = directed l front ++ directed l back :=
  List.filter_append _ _

theorem requested_cases (directives : List LinkDirective) :
    requested l directives = some .pendingCreate ∨ requested l directives = none := by
  unfold requested
  split
  · exact .inl rfl
  · exact .inr rfl

theorem requested_concat (directives : List LinkDirective) (directive : LinkDirective) :
    requested l (directives ++ [directive]) =
      evolve l (.direct directive) (requested l directives) := by
  by_cases h : directive.link = l
  · have next : directed l [directive] = [directive] := by simp [directed, h]
    rw [requested, directed_append, next, List.getLast?_concat]
    cases directive with
    | create k =>
      obtain rfl : k = l := h
      rcases requested_cases (l := k) directives with before | before
      · simp [before, evolve]
      · simp [before, evolve]
    | destroy k =>
      obtain rfl : k = l := h
      rcases requested_cases (l := k) directives with before | before
      · simp [before, evolve, LinkState.removed]
      · simp [before, evolve]
  · have none : directed l [directive] = [] := by simp [directed, h]
    rw [requested, directed_append, none, List.append_nil]
    exact (evolve_of_other (by simp [Op.concerns, h]) _).symm

theorem evolveAll_absent (directives : List LinkDirective) :
    evolveAll l (directives.map .direct) none = requested l directives := by
  induction directives using List.reverseRecOn with
  | nil => rfl
  | append_singleton directives directive ih =>
    rw [List.map_append, evolveAll_append, ih, requested_concat]
    rfl

theorem filter_concerns (directives : List LinkDirective) :
    (directives.map Op.direct).filter (Op.concerns l) = (directed l directives).map .direct := by
  rw [directed, List.filter_map]
  rfl

/-- An epoch acts on a link by the directives for it. -/
theorem evolveAll_directed (directives : List LinkDirective) (st : Option LinkState) :
    evolveAll l ((directed l directives).map .direct) st =
      evolveAll l (directives.map .direct) st := by
  rw [← filter_concerns, evolveAll_filter]

/-- A directive that is given twice counts once. -/
theorem evolve_twice (directive : LinkDirective) (st : Option LinkState) :
    evolve l (.direct directive) (evolve l (.direct directive) st) =
      evolve l (.direct directive) st := by
  cases directive with
  | create k =>
    by_cases h : l = k
    · simp [evolve, h]
    · simp [evolve, h]
  | destroy k =>
    by_cases h : l = k
    · cases st with
      | none => simp [evolve, h]
      | some st => cases st <;> simp [evolve, h, LinkState.removed]
    · simp [evolve, h]

end Directives

/-! ## All epochs of a history -/

/-- Nothing is pending when an epoch begins. -/
theorem Epoch.first_state {ops : List Op} (e : Epoch ops) (l : Link) :
    e.first.state? l = none ∨ e.first.state? l = some .installed := by
  rcases List.eq_nil_or_concat e.before with nothing | ⟨front, op, before⟩
  · left
    rw [first, nothing]
    rfl
  · have closes : op.isReconcile = true := e.opens op (by simp [before])
    cases op with
    | direct directive => cases closes
    | reconcile =>
      have store : e.first = (run front empty).reconcile.1 := by
        rw [first, before, List.concat_eq_append, run_append]
        rfl
      cases state : e.first.state? l with
      | none => exact .inl rfl
      | some st =>
        rw [store] at state
        rw [settled_reconcile _ _ _ state]
        exact .inr rfl

theorem Epoch.first_of_installed {ops : List Op} {e : Epoch ops} {l : Link}
    (h : l ∈ e.first.installed) : e.first.state? l = some .installed := by
  obtain ⟨st, state, -⟩ := (mem_installed _ _).mp h
  rcases e.first_state l with nothing | installed
  · rw [nothing] at state
    cases state
  · exact installed

theorem Epoch.first_of_not_installed {ops : List Op} {e : Epoch ops} {l : Link}
    (h : l ∉ e.first.installed) : e.first.state? l = none := by
  rcases e.first_state l with nothing | installed
  · exact nothing
  · exact absurd ((mem_installed _ _).mpr ⟨_, installed, rfl⟩) h

/-- Every point of a history lies in an epoch. -/
theorem exists_epoch (before after : List Op) :
    ∃ e : Epoch (before ++ after), before = e.before ++ e.directives.map .direct ∧
      after = e.after := by
  induction before using List.reverseRecOn generalizing after with
  | nil => exact ⟨⟨[], [], after, rfl, by simp⟩, rfl, rfl⟩
  | append_singleton front op ih =>
    cases op with
    | reconcile =>
      refine ⟨⟨front ++ [.reconcile], [], after, by simp, ?_⟩, by simp, rfl⟩
      intro op closes
      rw [List.getLast?_concat, Option.some.injEq] at closes
      rw [← closes]
      rfl
    | direct directive =>
      obtain ⟨e, place, -⟩ := ih (.direct directive :: after)
      refine ⟨⟨e.before, e.directives ++ [directive], after, ?_, e.opens⟩, ?_, rfl⟩
      · simp [place]
      · simp [place]

/-- What a history does, epoch by epoch and link by link. -/
structure EpochLaw (ops : List Op) : Prop where
  /-- The epochs cover the history. -/
  covered : ∀ before after, ops = before ++ after →
    ∃ e : Epoch ops, before = e.before ++ e.directives.map .direct ∧ after = e.after
  /-- A link that was installed is torn down if that was asked for at all. -/
  installed : ∀ (e : Epoch ops) (l : Link), l ∈ e.first.installed →
    e.last.state? l = some (if .destroy l ∈ e.directives then .pendingDestroy else .installed)
  /-- For any other link the last directive counts. -/
  absent : ∀ (e : Epoch ops) (l : Link), l ∉ e.first.installed →
    e.last.state? l =
      if (directed l e.directives).getLast? = some (.create l) then some .pendingCreate else none
  /-- The reconciliation behind an epoch settles what is pending and nothing else. -/
  settled : ∀ (e : Epoch ops) (l : Link),
    e.last.reconcile.1.state? l =
      match e.last.state? l with
      | some .pendingCreate => some .installed
      | some .pendingDestroy => none
      | st => st
  /-- Operations on other links have no influence. -/
  isolated : ∀ l, (run ops empty).state? l =
    (run (ops.filter (Op.concerns l)) empty).state? l
  /-- A directive may come again before any other directive for its link. -/
  repeated : ∀ (e : Epoch ops) (front between back : List LinkDirective)
    (directive : LinkDirective), e.directives = front ++ directive :: (between ++ back) →
    (∀ other ∈ between, other.link ≠ directive.link) →
    Agree (run ops empty)
      (run (e.before ++
        (front ++ directive :: (between ++ directive :: back)).map .direct ++ e.after) empty)
  /-- The directives of an epoch may change places if those for each link do not. -/
  reordered : ∀ (e : Epoch ops) (directives : List LinkDirective),
    (∀ l, directed l directives = directed l e.directives) →
    Agree (run ops empty) (run (e.before ++ directives.map .direct ++ e.after) empty)

/-- Every history of a fresh store keeps to the law of epochs. -/
theorem epochLaw (ops : List Op) : EpochLaw ops := by
  constructor
  case covered =>
    intro before after split
    subst split
    exact exists_epoch before after
  case installed =>
    intro e l present
    rw [e.last_eq, state?_run, Epoch.first_of_installed present, evolveAll_installed]
  case absent =>
    intro e l missing
    rw [e.last_eq, state?_run, Epoch.first_of_not_installed missing, evolveAll_absent]
    rfl
  case settled =>
    intro e l
    rw [state?_reconcile]
    cases e.last.state? l with
    | none => rfl
    | some st => cases st <;> rfl
  case isolated =>
    intro l
    rw [state?_run, state?_run, evolveAll_filter]
  case repeated =>
    intro e front between back directive place apart l
    rw [e.state?_ops, e.state?_with, place]
    by_cases h : directive.link = l
    · have skipped (st : Option LinkState) : evolveAll l (between.map .direct) st = st := by
        rw [← evolveAll_directed]
        have none : directed l between = [] := by
          apply List.filter_eq_nil_iff.mpr
          intro other member
          simpa [← h] using apart other member
        rw [none]
        rfl
      simp only [List.map_append, List.map_cons, evolveAll_append, evolveAll, skipped,
        evolve_twice]
    · have still (st : Option LinkState) : evolve l (.direct directive) st = st :=
        evolve_of_other (by simp [Op.concerns, h]) st
      simp only [List.map_append, List.map_cons, evolveAll_append, evolveAll, still]
  case reordered =>
    intro e directives same l
    rw [e.state?_ops, e.state?_with, ← evolveAll_directed directives, same l, evolveAll_directed]

end PeeringAgent.LinkStore
