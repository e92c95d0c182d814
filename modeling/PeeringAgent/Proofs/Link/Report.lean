import Mathlib.Data.List.Chain
import Mathlib.Data.List.Nodup
import PeeringAgent.Link.History
import PeeringAgent.Proofs.Link.Installed

/-!
# What a reconciliation reports

A reconciliation reports the links that it has installed and those that it has torn
down, each once and none besides. So over a history the reports of one link take turns,
and the last one says whether the link is installed.
-/

set_option autoImplicit false

namespace PeeringAgent.LinkStore

/-! ## One reconciliation -/

variable (s : LinkStore) (l : Link)

theorem linksIn_nodup (wanted : LinkState → Bool) : (s.linksIn wanted).Nodup :=
  s.distinct.sublist (List.filter_sublist.map _)

theorem installed_nodup : s.installed.Nodup :=
  (Link.sort_perm _).nodup_iff.mpr (s.linksIn_nodup _)

theorem mem_linksIn_state (st : LinkState) :
    l ∈ s.linksIn (· == st) ↔ s.state? l = some st := by
  rw [mem_linksIn]
  constructor
  · rintro ⟨now, state, same⟩
    rw [state, beq_iff_eq.mp same]
  · intro state
    exact ⟨st, state, beq_self_eq_true st⟩

theorem mem_created : l ∈ s.reconcile.2.created ↔ s.state? l = some .pendingCreate :=
  s.mem_linksIn_state l .pendingCreate

theorem mem_destroyed : l ∈ s.reconcile.2.destroyed ↔ s.state? l = some .pendingDestroy :=
  s.mem_linksIn_state l .pendingDestroy

theorem mem_installed_reconcile : l ∈ s.reconcile.1.installed ↔
    s.state? l = some .pendingCreate ∨ s.state? l = some .installed := by
  rw [mem_installed, state?_reconcile]
  cases s.state? l with
  | none => simp
  | some st => cases st <;> simp [LinkState.reconciled, LinkState.isInstalled]

theorem mem_installed_state : l ∈ s.installed ↔
    s.state? l = some .installed ∨ s.state? l = some .pendingDestroy := by
  rw [mem_installed]
  cases s.state? l with
  | none => simp
  | some st => cases st <;> simp [LinkState.isInstalled]

/-- What was installed and what is created make up what is installed and what is destroyed. -/
theorem installed_balance : (s.reconcile.1.installed ++ s.reconcile.2.destroyed).Perm
    (s.installed ++ s.reconcile.2.created) := by
  have gone : (s.reconcile.1.installed ++ s.reconcile.2.destroyed).Nodup := by
    refine (installed_nodup _).append (s.linksIn_nodup (· == .pendingDestroy)) fun l on off => ?_
    rw [mem_installed_reconcile] at on
    rw [mem_destroyed] at off
    rw [off] at on
    simp at on
  have come : (s.installed ++ s.reconcile.2.created).Nodup := by
    refine s.installed_nodup.append (s.linksIn_nodup (· == .pendingCreate)) fun l on new => ?_
    rw [mem_installed_state] at on
    rw [mem_created] at new
    rw [new] at on
    simp at on
  refine (List.perm_ext_iff_of_nodup gone come).mpr fun l => ?_
  rw [List.mem_append, List.mem_append, mem_installed_reconcile, mem_destroyed,
    mem_installed_state, mem_created]
  cases s.state? l with
  | none => simp
  | some st => cases st <;> simp

/-- A reconciliation leaves nothing for the next one. -/
theorem reconcile_reconcile : s.reconcile.1.reconcile = (s.reconcile.1, ⟨[], []⟩) := by
  have settled : ∀ k st, (k, st) ∈ s.reconcile.1.entries → st = .installed := fun k st member =>
    s.settled_reconcile k st (lookup_of_mem s.reconcile.1.distinct member)
  have none (st : LinkState) (pending : st ≠ .installed) :
      s.reconcile.1.linksIn (· == st) = [] := by
    refine List.eq_nil_iff_forall_not_mem.mpr fun k member => pending ?_
    exact s.settled_reconcile k st ((mem_linksIn_state _ k st).mp member)
  have same : amendEntries (fun _ st => st.reconciled) s.reconcile.1.entries =
      s.reconcile.1.entries := by
    refine amendEntries_eq_self _ _ fun k st member => ?_
    rw [settled k st member]
    rfl
  refine Prod.ext ?_ ?_
  · exact LinkStore.mk.injEq .. ▸ same
  · show Changes.mk _ _ = _
    rw [none .pendingCreate (by simp), none .pendingDestroy (by simp)]

/-- What a reconciliation reports against what it changes. -/
structure Exact : Prop where
  once : s.reconcile.2.created.Nodup ∧ s.reconcile.2.destroyed.Nodup
  created : ∀ l, l ∈ s.reconcile.2.created ↔ l ∉ s.installed ∧ l ∈ s.reconcile.1.installed
  destroyed : ∀ l, l ∈ s.reconcile.2.destroyed ↔ l ∈ s.installed ∧ l ∉ s.reconcile.1.installed
  restart : s.reconcile.2.restartNeeded = true ↔ s.reconcile.1.installed ≠ s.installed
  size : s.reconcile.1.installed.length + s.reconcile.2.destroyed.length =
    s.installed.length + s.reconcile.2.created.length
  distinct : s.installed.Nodup ∧ s.reconcile.1.installed.Nodup
  again : s.reconcile.1.reconcile = (s.reconcile.1, ⟨[], []⟩)

theorem exact_reconcile : Exact s := by
  constructor
  case once =>
    exact ⟨s.linksIn_nodup (· == .pendingCreate), s.linksIn_nodup (· == .pendingDestroy)⟩
  case created =>
    intro l
    rw [mem_created, mem_installed_state, mem_installed_reconcile]
    cases s.state? l with
    | none => simp
    | some st => cases st <;> simp
  case destroyed =>
    intro l
    rw [mem_destroyed, mem_installed_state, mem_installed_reconcile]
    cases s.state? l with
    | none => simp
    | some st => cases st <;> simp
  case restart => exact s.restartNeeded_iff_installed
  case size =>
    rw [← List.length_append, ← List.length_append]
    exact s.installed_balance.length_eq
  case distinct => exact ⟨s.installed_nodup, s.reconcile.1.installed_nodup⟩
  case again => exact s.reconcile_reconcile

/-! ## A history -/

/-- What a reconciliation can report of a link. -/
inductive Report
  | created
  | destroyed
deriving DecidableEq

/-- What an operation reports of one link. -/
def reportsAt (l : Link) (s : LinkStore) : Op → List Report
  | .direct _ => []
  | .reconcile =>
    (if l ∈ s.reconcile.2.created then [.created] else []) ++
    (if l ∈ s.reconcile.2.destroyed then [.destroyed] else [])

/-- All reports of one link in a history. -/
def reports (l : Link) : List Op → LinkStore → List Report
  | [], _ => []
  | op :: ops, s => reportsAt l s op ++ reports l ops (s.step op)

/-- What has been reported of a link takes turns, beginning with its creation, and ends with
it as long as the link is installed. -/
structure Turns (installed : Prop) (rs : List Report) : Prop where
  alternate : rs.IsChain (· ≠ ·)
  first : ∀ r, rs.head? = some r → r = .created
  last : installed ↔ rs.getLast? = some .created

variable {s l} {was now : Prop} {rs : List Report}

theorem Turns.created (h : Turns was rs) (off : ¬was) (on : now) :
    Turns now (rs ++ [.created]) := by
  constructor
  case alternate =>
    refine h.alternate.append (List.isChain_singleton _) ?_
    rintro r last next ⟨⟩ rfl
    exact off (h.last.mpr last)
  case first =>
    cases rs with
    | nil => rintro r ⟨⟩; rfl
    | cons r rs => exact h.first
  case last => simp [on]

theorem Turns.destroyed (h : Turns was rs) (on : was) (off : ¬now) :
    Turns now (rs ++ [.destroyed]) := by
  have last := h.last.mp on
  constructor
  case alternate =>
    refine h.alternate.append (List.isChain_singleton _) ?_
    rintro r latest next ⟨⟩ rfl
    cases last.symm.trans latest
  case first =>
    cases rs with
    | nil => cases last
    | cons r rs => exact h.first
  case last => simp [off]

theorem Turns.unchanged (h : Turns was rs) (same : now ↔ was) : Turns now (rs ++ []) := by
  rw [List.append_nil]
  exact ⟨h.alternate, h.first, same.trans h.last⟩

/-- A reconciliation reports a link exactly if it changes whether the link is installed. -/
theorem Turns.reconcile (h : Turns (l ∈ s.installed) rs) :
    Turns (l ∈ s.reconcile.1.installed) (rs ++ reportsAt l s .reconcile) := by
  have pass := s.exact_reconcile
  -- By exactness the reports are a matter of whether the link was and is installed.
  simp only [reportsAt, pass.created, pass.destroyed]
  by_cases before : l ∈ s.installed
  · by_cases after : l ∈ s.reconcile.1.installed
    · simpa [before, after] using h.unchanged (iff_of_true after before)
    · simpa [before, after] using h.destroyed before after
  · by_cases after : l ∈ s.reconcile.1.installed
    · simpa [before, after] using h.created before after
    · simpa [before, after] using h.unchanged (iff_of_false after before)

theorem Turns.step (h : Turns (l ∈ s.installed) rs) (op : Op) :
    Turns (l ∈ (s.step op).installed) (rs ++ reportsAt l s op) := by
  cases op with
  | reconcile => exact h.reconcile
  | direct directive => exact h.unchanged (by rw [LinkStore.step, installed_apply])

theorem Turns.run (ops : List Op) (h : Turns (l ∈ s.installed) rs) :
    Turns (l ∈ (run ops s).installed) (rs ++ reports l ops s) := by
  induction ops generalizing s rs with
  | nil => rwa [reports, List.append_nil]
  | cons op ops ih =>
    rw [reports, ← List.append_assoc]
    exact ih (h.step op)

theorem turns_empty (l : Link) : Turns (l ∈ empty.installed) [] :=
  ⟨List.isChain_nil, nofun, by simp [mem_installed_state, state?_empty]⟩

/-- What a history of a store reports: at its end, the next reconciliation reports what it
changes, and what has been reported of every link so far takes turns. -/
structure Reported (ops : List Op) : Prop where
  pass : Exact (run ops empty)
  turns : ∀ l, Turns (l ∈ (run ops empty).installed) (reports l ops empty)

theorem reported_of_history (ops : List Op) : Reported ops where
  pass := exact_reconcile _
  turns l := (turns_empty l).run ops

end PeeringAgent.LinkStore
