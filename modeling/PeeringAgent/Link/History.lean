import PeeringAgent.Link.Store

/-!
# Histories of a link store

A history is a list of directives and reconciliations. What it does to one link is a
recursion on that link's own state: operations on other links have no part in it.
-/

set_option autoImplicit false

namespace PeeringAgent.LinkStore

inductive Op
  | direct (directive : LinkDirective)
  | reconcile

def Op.isReconcile : Op → Bool
  | direct _ => false
  | reconcile => true

/-- Whether an operation may change the state of a link. -/
def Op.concerns (l : Link) : Op → Bool
  | direct directive => directive.link = l
  | reconcile => true

def step (s : LinkStore) : Op → LinkStore
  | .direct directive => s.apply directive
  | .reconcile => s.reconcile.1

def run : List Op → LinkStore → LinkStore
  | [], s => s
  | op :: ops, s => run ops (s.step op)

/-- What an operation makes of the state of one link. -/
def evolve (l : Link) (op : Op) (st : Option LinkState) : Option LinkState :=
  match op with
  | .direct (.create k) => if l = k then some (st.getD .pendingCreate) else st
  | .direct (.destroy k) => if l = k then st.bind LinkState.removed else st
  | .reconcile => st.bind LinkState.reconciled

def evolveAll (l : Link) : List Op → Option LinkState → Option LinkState
  | [], st => st
  | op :: ops, st => evolveAll l ops (evolve l op st)

theorem run_append (ops more : List Op) (s : LinkStore) :
    run (ops ++ more) s = run more (run ops s) := by
  induction ops generalizing s with
  | nil => rfl
  | cons op ops ih => exact ih _

theorem evolveAll_append (l : Link) (ops more : List Op) (st : Option LinkState) :
    evolveAll l (ops ++ more) st = evolveAll l more (evolveAll l ops st) := by
  induction ops generalizing st with
  | nil => rfl
  | cons op ops ih => exact ih _

theorem state?_step (s : LinkStore) (op : Op) (l : Link) :
    (s.step op).state? l = evolve l op (s.state? l) := by
  cases op with
  | reconcile => exact state?_reconcile s l
  | direct directive =>
    cases directive with
    | destroy k => exact state?_remove s k l
    | create k =>
      have added := state?_add s k l
      by_cases h : l = k
      · subst h
        simpa [step, apply, evolve] using added
      · simpa [step, apply, evolve, h] using added

theorem state?_run (ops : List Op) (s : LinkStore) (l : Link) :
    (run ops s).state? l = evolveAll l ops (s.state? l) := by
  induction ops generalizing s with
  | nil => rfl
  | cons op ops ih => rw [run, ih, state?_step, evolveAll]

theorem evolve_of_other {l : Link} {op : Op} (h : op.concerns l = false) (st : Option LinkState) :
    evolve l op st = st := by
  cases op with
  | reconcile => cases h
  | direct directive =>
    have other : ¬l = directive.link := by
      intro same
      simp [Op.concerns, same] at h
    cases directive <;> exact if_neg other

theorem evolveAll_filter (l : Link) (ops : List Op) (st : Option LinkState) :
    evolveAll l (ops.filter (Op.concerns l)) st = evolveAll l ops st := by
  induction ops generalizing st with
  | nil => rfl
  | cons op ops ih =>
    cases h : op.concerns l with
    | true => rw [List.filter_cons_of_pos h, evolveAll, evolveAll, ih]
    | false =>
      rw [List.filter_cons_of_neg (by simp [h]), ih, evolveAll, evolve_of_other h]

end PeeringAgent.LinkStore
