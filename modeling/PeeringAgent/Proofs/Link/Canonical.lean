import Mathlib.Data.Prod.Lex
import PeeringAgent.Proofs.Link.Report
import PeeringAgent.Proofs.Text.Order

/-!
# The list of installed links

Links are in a strict total order: by kind, then by their fields from left to right,
texts by their bytes. The installed links are listed in this order, so the list depends
on which links are installed and on nothing else: not on how they came to be, and not on
the order in which a table keeps its entries.
-/

set_option autoImplicit false

namespace PeeringAgent

namespace Link

/-- One link is before another by the first field in which they differ. -/
def Precedes (a b : Link) : Prop :=
  a.kind.rank < b.kind.rank ∨ a.kind = b.kind ∧
  (Text.bytes a.peerAsn < Text.bytes b.peerAsn ∨ a.peerAsn = b.peerAsn ∧
  (Text.bytes a.localIp < Text.bytes b.localIp ∨ a.localIp = b.localIp ∧
  (a.localPort < b.localPort ∨ a.localPort = b.localPort ∧
  (Text.bytes a.remoteIp < Text.bytes b.remoteIp ∨ a.remoteIp = b.remoteIp ∧
  a.remotePort < b.remotePort))))

/-- The fields of a link in their order, as one value of a linear order. -/
def key (l : Link) : ℕ ×ₗ String ×ₗ String ×ₗ ℕ ×ₗ String ×ₗ ℕ :=
  toLex (l.kind.rank, toLex (l.peerAsn, toLex (l.localIp, toLex (l.localPort.toNat,
    toLex (l.remoteIp, l.remotePort.toNat)))))

theorem key_inj {a b : Link} : a.key = b.key ↔ a = b := by
  constructor
  · intro same
    simp only [key, EmbeddingLike.apply_eq_iff_eq, Prod.mk.injEq, UInt16.toNat_inj] at same
    obtain ⟨kind, peerAsn, localIp, localPort, remoteIp, remotePort⟩ := same
    have kind := LinkKind.rank_injective _ _ kind
    cases a
    cases b
    simp_all
  · rintro rfl
    rfl

theorem precedes_iff {a b : Link} : Precedes a b ↔ a.key < b.key := by
  have kinds : a.kind = b.kind ↔ a.kind.rank = b.kind.rank :=
    ⟨congrArg _, LinkKind.rank_injective _ _⟩
  simp only [Precedes, key, Prod.Lex.toLex_lt_toLex, Text.bytes_lt_iff, kinds,
    UInt16.lt_iff_toNat_lt, UInt16.toNat_inj]

theorem order_eq_lt {a b : Link} : order a b = .lt ↔ a.key < b.key := by
  simp only [order, key, Prod.Lex.toLex_lt_toLex, Ordering.then_eq_lt, compare_lt_iff_lt,
    compare_eq_iff_eq, UInt16.compare_eq_toNat_compare_toNat]

theorem order_eq_eq {a b : Link} : order a b = .eq ↔ a.key = b.key := by
  simp only [order, key, Ordering.then_eq_eq, compare_eq_iff_eq,
    UInt16.compare_eq_toNat_compare_toNat, EmbeddingLike.apply_eq_iff_eq, Prod.mk.injEq]

theorem atMost_iff {a b : Link} : atMost a b = true ↔ a.key ≤ b.key := by
  rw [le_iff_lt_or_eq, ← order_eq_lt, ← order_eq_eq]
  show (order a b).isLE = true ↔ _
  cases order a b <;> simp

theorem strictTotalOrder : IsStrictTotalOrder Link Precedes where
  irrefl a less := lt_irrefl _ (precedes_iff.mp less)
  trans a b c first second :=
    precedes_iff.mpr (lt_trans (precedes_iff.mp first) (precedes_iff.mp second))
  trichotomous a b notBefore notAfter := by
    rw [precedes_iff, not_lt] at notBefore notAfter
    exact key_inj.mp (le_antisymm notAfter notBefore)

theorem pairwise_sort (links : List Link) : (sort links).Pairwise (·.key ≤ ·.key) := by
  have sorted : (sort links).Pairwise fun a b => atMost a b = true := by
    refine List.pairwise_mergeSort ?_ ?_ links
    · intro a b c
      rw [atMost_iff, atMost_iff, atMost_iff]
      exact le_trans
    · intro a b
      rw [Bool.or_eq_true, atMost_iff, atMost_iff]
      exact le_total _ _
  exact sorted.imp atMost_iff.mp

/-- Links that are all different are sorted without a tie. -/
theorem pairwise_precedes_sort {links : List Link} (distinct : links.Nodup) :
    (sort links).Pairwise Precedes := by
  have apart : (sort links).Pairwise (· ≠ ·) := (sort_perm links).nodup_iff.mpr distinct
  refine ((pairwise_sort links).and apart).imp fun ⟨ordered, other⟩ => ?_
  exact precedes_iff.mpr (lt_of_le_of_ne ordered fun same => other (key_inj.mp same))

/-- Sorting does not depend on the order in which the links are given. -/
theorem sort_eq_of_perm {links others : List Link} (same : links.Perm others) :
    sort links = sort others := by
  refine List.Perm.eq_of_pairwise (fun a b _ _ before after => ?_) (pairwise_sort links)
    (pairwise_sort others) ((sort_perm links).trans (same.trans (sort_perm others).symm))
  exact key_inj.mp (le_antisymm before after)

end Link

namespace LinkStore

/-- Stores that a history may leave, whichever order their tables have after each of its
operations. -/
inductive Left : List Op → LinkStore → Prop
  | fresh : Left [] empty
  | step {ops : List Op} {s t : LinkStore} (op : Op) (before : Left ops s)
    (entries : t.entries.Perm (s.step op).entries) : Left (ops ++ [op]) t

/-- Present in the managed AS, be it for the last time. -/
def Applied (s : LinkStore) (l : Link) : Prop :=
  s.state? l = some .installed ∨ s.state? l = some .pendingDestroy

instance (s : LinkStore) (l : Link) : Decidable (s.Applied l) :=
  inferInstanceAs (Decidable (_ ∨ _))

theorem state?_eq_some_iff {s : LinkStore} {l : Link} {st : LinkState} :
    s.state? l = some st ↔ (l, st) ∈ s.entries :=
  ⟨mem_of_lookup, lookup_of_mem s.distinct⟩

/-- The order of its entries does not show in what a table says. -/
theorem state?_of_perm {s t : LinkStore} (h : t.entries.Perm s.entries) (l : Link) :
    t.state? l = s.state? l := by
  refine Option.ext fun st => ?_
  rw [state?_eq_some_iff, state?_eq_some_iff]
  exact h.mem_iff

variable {ops : List Op} {s : LinkStore}

/-- Whatever the order of its tables, a history says in which state every link is. -/
theorem Left.state? (h : Left ops s) (l : Link) : s.state? l = (run ops empty).state? l := by
  induction h with
  | fresh => rfl
  | step op before entries ih =>
    rw [state?_of_perm entries, state?_step, ih, run_append, run, run, state?_step]

theorem Left.applied_iff (h : Left ops s) (l : Link) :
    s.Applied l ↔ (run ops empty).Applied l := by
  rw [Applied, Applied, h.state?]

theorem count_installed (s : LinkStore) (l : Link) :
    s.installed.count l = if s.Applied l then 1 else 0 := by
  by_cases on : s.Applied l
  · rw [if_pos on]
    exact List.count_eq_one_of_mem s.installed_nodup (s.mem_installed_state l |>.mpr on)
  · rw [if_neg on]
    exact List.count_eq_zero.mpr fun among => on (s.mem_installed_state l |>.mp among)

/-- Stores with the same links installed list them in the same way. -/
theorem installed_eq_of_applied {s t : LinkStore} (same : ∀ l, s.Applied l ↔ t.Applied l) :
    s.installed = t.installed := by
  refine Link.sort_eq_of_perm ?_
  refine (List.perm_ext_iff_of_nodup (s.linksIn_nodup _) (t.linksIn_nodup _)).mpr fun l => ?_
  rw [← Link.mem_sort, ← Link.mem_sort (t.linksIn _)]
  exact (s.mem_installed_state l).trans ((same l).trans (t.mem_installed_state l).symm)

/-- How the installed links of a store are listed that a history has left. -/
structure Canonical (ops : List Op) (s : LinkStore) : Prop where
  /-- The history says what each link is, whatever the order of the tables. -/
  settled : ∀ l, s.state? l = (run ops empty).state? l
  /-- A link is listed once if it is present in the managed AS, and else not at all. -/
  listed : ∀ l, s.installed.count l = if s.Applied l then 1 else 0
  increasing : s.installed.Pairwise Link.Precedes
  /-- The order in which they are listed is strict and has a place for every two links. -/
  total : IsStrictTotalOrder Link Link.Precedes
  /-- Histories that leave the same links present have the same list, in whichever order
  their tables are. -/
  same : ∀ others t, Left others t →
    (∀ l, (run others empty).Applied l ↔ (run ops empty).Applied l) → t.installed = s.installed

theorem canonical_of_left (h : Left ops s) : Canonical ops s where
  settled := h.state?
  listed := s.count_installed
  increasing := Link.pairwise_precedes_sort (s.linksIn_nodup _)
  total := Link.strictTotalOrder
  same _ _ other present := installed_eq_of_applied fun l =>
    (other.applied_iff l).trans ((present l).trans (h.applied_iff l).symm)

/-! ## Three links -/

def exampleLink (kind : LinkKind) (peerAsn : String) : Link :=
  { kind, peerAsn, localIp := "10.0.0.1", localPort := 50000, remoteIp := "10.0.0.2"
    remotePort := 50001 }

/-- A core link is torn down again and a peering link is not installed any more. -/
def exampleHistory : List Op :=
  [.direct (.create (exampleLink .provider "ä")), .direct (.create (exampleLink .core "z")),
    .reconcile, .direct (.destroy (exampleLink .core "z")),
    .direct (.create (exampleLink .peering ""))]

/-- What the history leaves, with the entries in another order. -/
def exampleTable : LinkStore :=
  { entries := [(exampleLink .provider "ä", .installed), (exampleLink .peering "", .pendingCreate),
      (exampleLink .core "z", .pendingDestroy)]
    distinct := by decide }

theorem exampleTable_canonical : Left exampleHistory exampleTable ∧
    Canonical exampleHistory exampleTable ∧
    exampleTable.installed = [exampleLink .core "z", exampleLink .provider "ä"] := by
  have first : Left (exampleHistory.take 4) (run (exampleHistory.take 4) empty) :=
    .step _ (.step _ (.step _ (.step _ .fresh (.refl _)) (.refl _)) (.refl _)) (.refl _)
  have left : Left exampleHistory exampleTable := .step _ first (by decide)
  have ordered : [exampleLink .core "z", exampleLink .provider "ä"].Pairwise
      fun a b => Link.atMost a b = true := by decide
  refine ⟨left, canonical_of_left left, ?_⟩
  calc exampleTable.installed
      = Link.sort [exampleLink .core "z", exampleLink .provider "ä"] :=
        Link.sort_eq_of_perm (.swap _ _ [])
    _ = _ := List.mergeSort_of_pairwise ordered

end LinkStore

end PeeringAgent
