import Mathlib.Data.List.Nodup
import PeeringAgent.Proofs.Settings.Secrets

/-!
# Layers of dictionaries

A dictionary that covers another one counts wherever it has a key, and the other one counts
elsewhere. Only dictionaries are mixed with what they cover, so a reader of texts, numbers
or arrays finds the topmost value. The layer of a settings file is a dictionary in which
each key stands once.
-/

set_option autoImplicit false

namespace PeeringAgent.Yaml.Document.Reading

variable {α β : Type} {P : α → Prop} {Q : β → Prop}

/-- Whatever a reading gives has a property. -/
def Gives (r : Reading α) (P : α → Prop) : Prop := ∀ n a n', r.run n = some (a, n') → P a

theorem gives_pure {a : α} (own : P a) : Gives (pure a) P := by
  intro n b n' given
  cases given
  exact own

theorem gives_failure : Gives (failure : Reading α) P := by
  intro n a n' given
  cases given

theorem gives_bind {r : Reading α} {f : α → Reading β} (first : r.Gives P)
    (rest : ∀ a, P a → (f a).Gives Q) : Gives (r >>= f) Q := by
  intro n b n' given
  rw [StateT.run_bind] at given
  obtain ⟨⟨a, m⟩, read, given⟩ := Option.bind_eq_some_iff.mp given
  exact rest a (first n a m read) m b n' given

theorem gives_true (r : Reading α) : r.Gives fun _ => True := fun _ _ _ _ => trivial

theorem gives_foldlM {f : β → α → Reading β} (step : ∀ b a, Q b → (f b a).Gives Q)
    (items : List α) {start : β} (own : Q start) : Gives (items.foldlM f start) Q := by
  induction items generalizing start with
  | nil => exact gives_pure own
  | cons a items ih =>
    rw [List.foldlM_cons]
    exact gives_bind (step start a own) fun b made => ih made

end PeeringAgent.Yaml.Document.Reading

namespace PeeringAgent.Settings

open Value
open PeeringAgent.Yaml (Node Document)
open PeeringAgent.Yaml.Document (Reading)

namespace Value

variable {key : String} {entries base top : List (String × Value)}

/-- Each key stands once among the entries. -/
def Distinct (entries : List (String × Value)) : Prop := (entries.map Prod.fst).Nodup

theorem mem_keys_put {other : String} {v : Value} :
    other ∈ (put key v entries).map Prod.fst ↔ other = key ∨ other ∈ entries.map Prod.fst := by
  induction entries with
  | nil => simp [put]
  | cons e entries ih =>
    obtain ⟨k, w⟩ := e
    unfold put
    split
    case isTrue same => simp [same]
    case isFalse differ =>
      rw [List.map_cons, List.map_cons, List.mem_cons, List.mem_cons, ih]
      exact or_left_comm

theorem distinct_put (v : Value) (distinct : Distinct entries) : Distinct (put key v entries) := by
  induction entries with
  | nil => exact List.nodup_singleton key
  | cons e entries ih =>
    obtain ⟨k, w⟩ := e
    obtain ⟨fresh, distinct⟩ := List.nodup_cons.mp distinct
    unfold put
    split
    case isTrue same => exact List.nodup_cons.mpr ⟨fresh, distinct⟩
    case isFalse differ =>
      refine List.nodup_cons.mpr ⟨?_, ih distinct⟩
      rw [mem_keys_put]
      exact fun known => known.elim differ fresh

theorem distinct_coverEntries (distinct : Distinct base) : Distinct (coverEntries base top) := by
  induction top generalizing base with
  | nil => exact distinct
  | cons e top ih => exact ih (distinct_put _ distinct)

theorem lookup_coverEntries_of_not_mem (absent : key ∉ top.map Prod.fst) :
    (coverEntries base top).lookup key = base.lookup key := by
  induction top generalizing base with
  | nil => rfl
  | cons e top ih =>
    obtain ⟨k, v⟩ := e
    rw [List.map_cons, List.mem_cons, not_or] at absent
    rw [coverEntries, ih absent.2, lookup_put_of_ne _ _ _ _ absent.1]

/-! ## Readers -/

section Readers

variable {α : Type} {f : Value → Option α}

/-- A reader that makes nothing of what a value covers. -/
def Whole (f : Value → Option α) : Prop := ∀ w v : Value, f (w.cover v) = f v

/-- A reader of no dictionaries. -/
theorem whole_of_dict (unread : ∀ entries, f (.dict entries) = none) : Whole f := by
  intro w v
  by_cases mixed : ∃ base top, w = .dict base ∧ v = .dict top
  · obtain ⟨base, top, rfl, rfl⟩ := mixed
    rw [cover, unread, unread]
  · rw [cover]
    exact fun base top below above => mixed ⟨base, top, below, above⟩

theorem map_lookup_coverEntries (whole : Whole f) (distinct : Distinct top) :
    ((coverEntries base top).lookup key).map f =
      ((top.lookup key).or (base.lookup key)).map f := by
  induction top generalizing base with
  | nil => rfl
  | cons e top ih =>
    obtain ⟨k, v⟩ := e
    obtain ⟨fresh, distinct⟩ := List.nodup_cons.mp distinct
    rw [coverEntries]
    by_cases same : key = k
    · -- No later entry has this key, so the mixed value stays where it was put.
      subst same
      rw [lookup_coverEntries_of_not_mem fresh, lookup_put_self, List.lookup_cons_self]
      cases base.lookup key with
      | none => rfl
      | some w => exact congrArg some (whole w v)
    · have other : (key == k) = false := by simpa using same
      rw [ih distinct, lookup_put_of_ne _ _ _ _ same, List.lookup_cons, other]

/-- A dictionary that has for every key what a function has, as far as readers can see. -/
def Reads (v : Value) (value : String → Option Value) : Prop :=
  ∃ entries, v = .dict entries ∧ Distinct entries ∧
    ∀ key {α : Type} {f : Value → Option α}, Whole f →
      (entries.lookup key).map f = (value key).map f

/-- A key of two layers is read in the upper one, or below it when it is not there. -/
theorem Reads.map_get_cover {above : Value} {value : String → Option Value}
    (reads : Reads above value) (whole : Whole f) (below : Value) (key : String) :
    ((below.cover above).get? key).map f = ((value key).or (below.get? key)).map f := by
  obtain ⟨top, rfl, distinct, each⟩ := reads
  rw [Option.map_or, ← each key whole, ← Option.map_or]
  cases below with
  | dict base =>
    rw [cover]
    exact map_lookup_coverEntries whole distinct
  | _ =>
    rw [cover, get?, get?, Option.or_none]
    all_goals intros; contradiction

end Readers

end Value

theorem whole_text : Whole text? := whole_of_dict fun _ => rfl

theorem whole_word64 : Whole word64? := whole_of_dict fun _ => rfl

theorem whole_list {α : Type} (item? : Value → Option α) : Whole (list? item?) :=
  whole_of_dict fun _ => rfl

/-! ## The layer of a file -/

/-- A dictionary in which each key stands once. -/
def IsLayer (v : Value) : Prop := ∃ entries, v = .dict entries ∧ Distinct entries

theorem isLayer_empty : IsLayer (.dict []) := ⟨[], rfl, List.nodup_nil⟩

theorem IsLayer.reads {v : Value} (isLayer : IsLayer v) : Reads v v.get? := by
  obtain ⟨entries, rfl, distinct⟩ := isLayer
  exact ⟨entries, rfl, distinct, fun _ _ _ _ => rfl⟩

theorem gives_entries (d : Document) (value : String → Node → Reading Value)
    (nodes : List (Node × Node)) : (entries d value nodes).Gives Distinct := by
  refine Reading.gives_foldlM ?_ nodes List.nodup_nil
  intro es node distinct
  refine Reading.gives_bind (Reading.gives_true _) fun k _ => ?_
  refine Reading.gives_bind (Reading.gives_true _) fun v _ => ?_
  exact Reading.gives_pure (distinct_put v distinct)

theorem gives_layerOfNode (d : Document) (n : Node) : (layerOfNode d n).Gives IsLayer := by
  refine Reading.gives_bind (Reading.gives_true _) fun target _ => ?_
  split
  case h_1 nodes =>
    refine Reading.gives_bind (gives_entries d _ nodes) fun entries distinct => ?_
    exact Reading.gives_pure ⟨entries, rfl, distinct⟩
  case h_2 => exact Reading.gives_pure isLayer_empty
  case h_3 => exact Reading.gives_failure

theorem isLayer_of_text {s : String} {v : Value} (read : layerOfText? s = some v) : IsLayer v := by
  unfold layerOfText? at read
  split at read
  case h_1 =>
    cases read
    exact isLayer_empty
  case h_2 root _ =>
    obtain ⟨⟨w, n⟩, given, rfl⟩ := Option.map_eq_some_iff.mp read
    exact gives_layerOfNode _ _ _ w n given
  case h_3 => cases read

theorem isLayer_of_file {files : Files Id} {path : String} {v : Value}
    (read : fileLayer files path = some v) : IsLayer v := by
  rw [fileLayer_eq] at read
  split at read
  case h_1 =>
    cases read
    exact isLayer_empty
  case h_2 place _ =>
    split at read
    case h_1 => cases read
    case h_2 text _ => exact isLayer_of_text read

end PeeringAgent.Settings
