import PeeringAgent.Link.Directive
import PeeringAgent.Log

/-!
# The link store

Each known link is waiting to be installed, installed, or waiting to be torn
down. Directives only mark links; a reconciliation pass settles every mark at
once and reports what it changed.
-/

set_option autoImplicit false

namespace PeeringAgent

inductive LinkState
  | pendingCreate
  | installed
  | pendingDestroy
deriving DecidableEq

namespace LinkState

def isInstalled : LinkState → Bool
  | pendingCreate => false
  | installed => true
  | pendingDestroy => true

/-- A link that was never installed is forgotten when it is removed. -/
def removed : LinkState → Option LinkState
  | pendingCreate => none
  | installed => some pendingDestroy
  | pendingDestroy => some pendingDestroy

def reconciled : LinkState → Option LinkState
  | pendingCreate => some installed
  | installed => some installed
  | pendingDestroy => none

end LinkState

/-- A finite table from links to states; no link has two entries. -/
structure LinkStore where
  entries : List (Link × LinkState)
  distinct : (entries.map Prod.fst).Nodup

namespace LinkStore

/-- What one reconciliation pass changed. -/
structure Changes where
  created : List Link
  destroyed : List Link
deriving DecidableEq

def Changes.restartNeeded (c : Changes) : Bool :=
  !c.created.isEmpty || !c.destroyed.isEmpty

def sortTexts (texts : List String) : List String :=
  texts.mergeSort fun a b => decide (a ≤ b)

/-- New links are announced before those torn down, each group in text order. -/
def Changes.lines (c : Changes) : List Log.Line :=
  (sortTexts (c.created.map fun l => "Create link: " ++ l.describe) ++
   sortTexts (c.destroyed.map fun l => "Destroy link: " ++ l.describe)).map Log.info

def empty : LinkStore := ⟨[], List.nodup_nil⟩

def state? (s : LinkStore) (l : Link) : Option LinkState := s.entries.lookup l

def size (s : LinkStore) : Nat := s.entries.length

/-- The states of an entry list, each rewritten or dropped. -/
def amendEntries (f : Link → LinkState → Option LinkState) :
    List (Link × LinkState) → List (Link × LinkState)
  | [] => []
  | (l, st) :: rest =>
    match f l st with
    | some st' => (l, st') :: amendEntries f rest
    | none => amendEntries f rest

theorem amendEntries_keys (f : Link → LinkState → Option LinkState)
    (es : List (Link × LinkState)) :
    ((amendEntries f es).map Prod.fst).Sublist (es.map Prod.fst) := by
  induction es with
  | nil => exact .slnil
  | cons e es ih =>
    obtain ⟨l, st⟩ := e
    unfold amendEntries
    split
    · exact ih.cons_cons l
    · exact ih.cons l

def amend (f : Link → LinkState → Option LinkState) (s : LinkStore) : LinkStore :=
  ⟨amendEntries f s.entries, s.distinct.sublist (amendEntries_keys f s.entries)⟩

theorem lookup_isSome_of_mem (l : Link) (es : List (Link × LinkState))
    (h : l ∈ es.map Prod.fst) : (es.lookup l).isSome = true := by
  induction es with
  | nil => simp at h
  | cons e es ih =>
    obtain ⟨k, st⟩ := e
    by_cases hk : l = k
    · simp [hk]
    · have hm : l ∈ es.map Prod.fst := by
        simp only [List.map_cons, List.mem_cons] at h
        exact h.resolve_left hk
      have hb : (l == k) = false := by simpa using hk
      simp only [List.lookup_cons, hb]
      exact ih hm

theorem lookup_eq_none_of_not_mem (l : Link) (es : List (Link × LinkState))
    (h : l ∉ es.map Prod.fst) : es.lookup l = none := by
  induction es with
  | nil => rfl
  | cons e es ih =>
    obtain ⟨k, st⟩ := e
    simp only [List.map_cons, List.mem_cons, not_or] at h
    have hb : (l == k) = false := by simpa using h.1
    simp only [List.lookup_cons, hb]
    exact ih h.2

theorem not_mem_of_state?_eq_none (s : LinkStore) (l : Link) (h : s.state? l = none) :
    l ∉ s.entries.map Prod.fst := by
  intro hm
  have := lookup_isSome_of_mem l s.entries hm
  rw [state?] at h
  simp [h] at this

def add (s : LinkStore) (l : Link) : LinkStore :=
  if h : s.state? l = none then
    ⟨(l, .pendingCreate) :: s.entries,
      List.nodup_cons.mpr ⟨not_mem_of_state?_eq_none s l h, s.distinct⟩⟩
  else s

def remove (s : LinkStore) (l : Link) : LinkStore :=
  s.amend fun k st => if k = l then st.removed else some st

def apply (s : LinkStore) : LinkDirective → LinkStore
  | .create l => s.add l
  | .destroy l => s.remove l

def linksIn (s : LinkStore) (wanted : LinkState → Bool) : List Link :=
  (s.entries.filter fun e => wanted e.2).map Prod.fst

/-- Installs what waits for it and drops what is to be torn down. -/
def reconcile (s : LinkStore) : LinkStore × Changes :=
  (s.amend fun _ st => st.reconciled,
   { created := s.linksIn (· == .pendingCreate)
     destroyed := s.linksIn (· == .pendingDestroy) })

/-- The links present in the managed AS, in increasing order. -/
def installed (s : LinkStore) : List Link := Link.sort (s.linksIn LinkState.isInstalled)

theorem state?_empty (l : Link) : empty.state? l = none := rfl

theorem lookup_amendEntries (f : Link → LinkState → Option LinkState)
    (es : List (Link × LinkState)) (hd : (es.map Prod.fst).Nodup) (l : Link) :
    (amendEntries f es).lookup l = (es.lookup l).bind (f l) := by
  induction es with
  | nil => rfl
  | cons e es ih =>
    obtain ⟨k, st⟩ := e
    simp only [List.map_cons, List.nodup_cons] at hd
    by_cases hk : l = k
    · subst hk
      unfold amendEntries
      simp only [List.lookup_cons, beq_self_eq_true, Option.bind_some]
      split
      · rename_i st' hf
        simp [hf]
      · rename_i hf
        rw [ih hd.2, hf]
        simp [lookup_eq_none_of_not_mem l es hd.1]
    · have hb : (l == k) = false := by simpa using hk
      unfold amendEntries
      split <;> simp [List.lookup_cons, hb, ih hd.2]

theorem state?_amend (f : Link → LinkState → Option LinkState) (s : LinkStore) (l : Link) :
    (s.amend f).state? l = (s.state? l).bind (f l) :=
  lookup_amendEntries f s.entries s.distinct l

theorem state?_remove (s : LinkStore) (l k : Link) :
    (s.remove l).state? k =
      if k = l then (s.state? k).bind LinkState.removed else s.state? k := by
  rw [remove, state?_amend]
  split <;> cases s.state? k <;> simp_all

theorem state?_add (s : LinkStore) (l k : Link) :
    (s.add l).state? k =
      if k = l then some ((s.state? l).getD .pendingCreate) else s.state? k := by
  unfold add
  split
  · rename_i h
    by_cases hk : k = l
    · simp [state?, hk, show s.entries.lookup l = none from h]
    · have hb : (k == l) = false := by simpa using hk
      simp [state?, List.lookup_cons, hb, hk]
  · rename_i h
    by_cases hk : k = l
    · obtain ⟨st, hst⟩ := Option.ne_none_iff_exists'.mp h
      simp [hk, hst]
    · simp [hk]

theorem state?_reconcile (s : LinkStore) (l : Link) :
    s.reconcile.1.state? l = (s.state? l).bind LinkState.reconciled :=
  state?_amend _ s l

end LinkStore

end PeeringAgent
