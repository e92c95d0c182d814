import PeeringAgent.Link.Store

/-!
# Installed links

Directives never change what is installed. A reconciliation changes it exactly when
it asks for a restart, and leaves nothing pending.
-/

set_option autoImplicit false

namespace PeeringAgent.LinkStore

/-- Amending that keeps whether links are installed keeps what is installed. -/
theorem linksIn_amendEntries (f : Link → LinkState → Option LinkState)
    (wanted : LinkState → Bool)
    (keeps : ∀ l st, ((f l st).map wanted).getD false = wanted st)
    (es : List (Link × LinkState)) :
    ((amendEntries f es).filter fun e => wanted e.2).map Prod.fst =
      (es.filter fun e => wanted e.2).map Prod.fst := by
  induction es with
  | nil => rfl
  | cons e es ih =>
    obtain ⟨l, st⟩ := e
    have kept := keeps l st
    unfold amendEntries
    cases h : f l st with
    | none =>
      rw [h] at kept
      simp only [Option.map_none, Option.getD_none] at kept
      rw [List.filter_cons_of_neg (by simp [← kept])]
      exact ih
    | some st' =>
      rw [h] at kept
      simp only [Option.map_some, Option.getD_some] at kept
      cases on : wanted st with
      | true =>
        rw [on] at kept
        simp only [List.filter_cons, kept, on, if_true, List.map_cons, ih]
      | false =>
        rw [on] at kept
        simp only [List.filter_cons, kept, on, Bool.false_eq_true, if_false, ih]

theorem amendEntries_eq_self (f : Link → LinkState → Option LinkState)
    (es : List (Link × LinkState)) (same : ∀ l st, (l, st) ∈ es → f l st = some st) :
    amendEntries f es = es := by
  induction es with
  | nil => rfl
  | cons e es ih =>
    obtain ⟨l, st⟩ := e
    rw [amendEntries, same l st List.mem_cons_self]
    dsimp only
    rw [ih fun k st' h => same k st' (List.mem_cons_of_mem _ h)]

theorem installed_add (s : LinkStore) (l : Link) : (s.add l).installed = s.installed := by
  unfold add
  split
  · rfl
  · rfl

theorem installed_remove (s : LinkStore) (l : Link) : (s.remove l).installed = s.installed := by
  have keeps : ∀ k st, (((fun k st => if k = l then LinkState.removed st else some st) k st).map
      LinkState.isInstalled).getD false = LinkState.isInstalled st := by
    intro k st
    by_cases hk : k = l
    · cases st <;> simp [hk, LinkState.removed, LinkState.isInstalled]
    · simp [hk]
  exact congrArg Link.sort (linksIn_amendEntries _ _ keeps s.entries)

/-- A directive only marks links. -/
theorem installed_apply (s : LinkStore) (directive : LinkDirective) :
    (s.apply directive).installed = s.installed := by
  cases directive with
  | create l => exact s.installed_add l
  | destroy l => exact s.installed_remove l

theorem lookup_of_mem {l : Link} {st : LinkState} {es : List (Link × LinkState)}
    (distinct : (es.map Prod.fst).Nodup) (h : (l, st) ∈ es) : es.lookup l = some st := by
  induction es with
  | nil => cases h
  | cons e es ih =>
    obtain ⟨k, st'⟩ := e
    rw [List.map_cons, List.nodup_cons] at distinct
    rcases List.mem_cons.mp h with same | rest
    · cases same
      rw [List.lookup_cons_self]
    · have other : l ≠ k := by
        rintro rfl
        exact distinct.1 (List.mem_map.mpr ⟨_, rest, rfl⟩)
      rw [List.lookup_cons, beq_false_of_ne other]
      exact ih distinct.2 rest

theorem mem_of_lookup {l : Link} {st : LinkState} {es : List (Link × LinkState)}
    (h : es.lookup l = some st) : (l, st) ∈ es := by
  induction es with
  | nil => cases h
  | cons e es ih =>
    obtain ⟨k, st'⟩ := e
    rw [List.lookup_cons] at h
    by_cases hk : l = k
    · subst hk
      rw [beq_self_eq_true] at h
      cases h
      exact List.mem_cons_self
    · rw [beq_false_of_ne hk] at h
      exact List.mem_cons_of_mem _ (ih h)

theorem mem_linksIn (s : LinkStore) (wanted : LinkState → Bool) (l : Link) :
    l ∈ s.linksIn wanted ↔ ∃ st, s.state? l = some st ∧ wanted st = true := by
  constructor
  · intro h
    obtain ⟨⟨k, st⟩, member, rfl⟩ := List.mem_map.mp h
    obtain ⟨member, on⟩ := List.mem_filter.mp member
    exact ⟨st, lookup_of_mem s.distinct member, on⟩
  · rintro ⟨st, h, on⟩
    exact List.mem_map.mpr ⟨(l, st), List.mem_filter.mpr ⟨mem_of_lookup h, on⟩, rfl⟩

theorem mem_installed (s : LinkStore) (l : Link) :
    l ∈ s.installed ↔ ∃ st, s.state? l = some st ∧ st.isInstalled = true := by
  rw [installed, Link.mem_sort, mem_linksIn]

/-- Nothing is pending after a reconciliation. -/
theorem settled_reconcile (s : LinkStore) (l : Link) (st : LinkState)
    (h : s.reconcile.1.state? l = some st) : st = .installed := by
  rw [state?_reconcile] at h
  cases before : s.state? l with
  | none =>
    rw [before] at h
    cases h
  | some old =>
    rw [before] at h
    cases old <;> cases h <;> rfl

theorem restartNeeded_iff (s : LinkStore) :
    s.reconcile.2.restartNeeded = true ↔
      ∃ l, s.state? l = some .pendingCreate ∨ s.state? l = some .pendingDestroy := by
  have some_link (wanted : LinkState) :
      (s.linksIn (· == wanted)).isEmpty = false ↔ ∃ l, s.state? l = some wanted := by
    rw [List.isEmpty_eq_false_iff_exists_mem]
    constructor
    · rintro ⟨l, h⟩
      obtain ⟨st, state, same⟩ := (mem_linksIn _ _ _).mp h
      exact ⟨l, by rw [state, beq_iff_eq.mp same]⟩
    · rintro ⟨l, h⟩
      exact ⟨l, (mem_linksIn _ _ _).mpr ⟨wanted, h, beq_self_eq_true _⟩⟩
  rw [Changes.restartNeeded, Bool.or_eq_true, Bool.not_eq_true', Bool.not_eq_true']
  rw [show s.reconcile.2.created = s.linksIn (· == .pendingCreate) from rfl,
    show s.reconcile.2.destroyed = s.linksIn (· == .pendingDestroy) from rfl, some_link, some_link,
    exists_or]

theorem installed_of_pendingCreate {s : LinkStore} {l : Link}
    (h : s.state? l = some .pendingCreate) : l ∉ s.installed ∧ l ∈ s.reconcile.1.installed := by
  constructor
  · intro member
    obtain ⟨st, state, on⟩ := (mem_installed _ _).mp member
    rw [h] at state
    cases state
    cases on
  · rw [mem_installed, state?_reconcile, h]
    exact ⟨.installed, rfl, rfl⟩

theorem installed_of_pendingDestroy {s : LinkStore} {l : Link}
    (h : s.state? l = some .pendingDestroy) : l ∈ s.installed ∧ l ∉ s.reconcile.1.installed := by
  constructor
  · rw [mem_installed, h]
    exact ⟨.pendingDestroy, rfl, rfl⟩
  · intro member
    obtain ⟨st, state, -⟩ := (mem_installed _ _).mp member
    rw [state?_reconcile, h] at state
    cases state

/-- A reconciliation asks for a restart exactly when it changes what is installed. -/
theorem restartNeeded_iff_installed (s : LinkStore) :
    s.reconcile.2.restartNeeded = true ↔ s.reconcile.1.installed ≠ s.installed := by
  rw [restartNeeded_iff]
  constructor
  · rintro ⟨l, create | destroy⟩ same
    · have changed := installed_of_pendingCreate create
      rw [same] at changed
      exact changed.1 changed.2
    · have changed := installed_of_pendingDestroy destroy
      rw [same] at changed
      exact changed.2 changed.1
  · intro changed
    refine Classical.byContradiction fun none => ?_
    have settled : ∀ l st, (l, st) ∈ s.entries → st.reconciled = some st := by
      intro l st member
      have state : s.state? l = some st := lookup_of_mem s.distinct member
      cases st with
      | pendingCreate => exact absurd ⟨l, .inl state⟩ none
      | installed => rfl
      | pendingDestroy => exact absurd ⟨l, .inr state⟩ none
    have same := amendEntries_eq_self (fun _ st => st.reconciled) s.entries settled
    refine changed ?_
    show Link.sort (((amendEntries (fun _ st => st.reconciled) s.entries).filter _).map _) = _
    rw [same]
    rfl

end PeeringAgent.LinkStore
