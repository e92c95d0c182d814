import PeeringAgent.Proofs.Json.Value
import PeeringAgent.Wire.Decoding

/-!
# Written records

The members of a record, in any order and among others, give back its fields, absent
ones included, because no two fields share a name. A tag among them comes off again.
-/

set_option autoImplicit false

namespace PeeringAgent.Wire

open PeeringAgent.Json (Value)

/-- The members of a record with these fields. -/
def entries (fs : List (String × Option Value)) : List (Json.Text × Value) :=
  fs.flatMap fun f => whenSome f.1 id f.2

variable {fs : List (String × Option Value)} {name : String}

/-- Every member of a record belongs to one of its fields. -/
theorem exists_of_mem_entries {m : Json.Text × Value} (h : m ∈ entries fs) :
    ∃ f ∈ fs, m.1 = some f.1 ∧ f.2 = some m.2 := by
  obtain ⟨⟨n, v?⟩, hf, hm⟩ := List.mem_flatMap.mp h
  cases v? with
  | none => cases hm
  | some v =>
    cases List.mem_singleton.mp hm
    exact ⟨(n, some v), hf, rfl, rfl⟩

/-! ## Fields -/

theorem filter_entries_of_absent (absent : name ∉ fs.map Prod.fst) :
    (entries fs).filter (fun m => m.1 = some name) = [] := by
  apply List.filter_eq_nil_iff.mpr
  intro m hm same
  obtain ⟨f, hf, named, -⟩ := exists_of_mem_entries hm
  rw [decide_eq_true_eq, named] at same
  exact absent (List.mem_map.mpr ⟨f, hf, Option.some.inj same⟩)

theorem filter_whenSome (n : String) (v? : Option Value) :
    (whenSome n id v?).filter (fun m => m.1 = some name) =
      if n = name then whenSome n id v? else [] := by
  cases v? with
  | none => simp [whenSome]
  | some v => by_cases same : n = name <;> simp [whenSome, always, same]

theorem filter_entries {v? : Option Value} (distinct : (fs.map Prod.fst).Nodup)
    (h : (name, v?) ∈ fs) :
    (entries fs).filter (fun m => m.1 = some name) = whenSome name id v? := by
  induction fs with
  | nil => cases h
  | cons f fs ih =>
    obtain ⟨fresh, rest⟩ := List.nodup_cons.mp distinct
    rw [entries, List.flatMap_cons, List.filter_append, filter_whenSome]
    rcases List.mem_cons.mp h with rfl | h
    · rw [if_pos rfl]
      have nothing := filter_entries_of_absent fresh
      rw [entries] at nothing
      rw [nothing, List.append_nil]
    · have other : f.1 ≠ name := by
        rintro rfl
        exact fresh (List.mem_map.mpr ⟨_, h, rfl⟩)
      rw [if_neg other, List.nil_append]
      exact ih rest h

/-- Members in any order that give these fields. What has other names says nothing. -/
def Arranged (fs : List (String × Option Value)) (ms : List (Json.Text × Value)) : Prop :=
  ∃ extras, ms.Perm (entries fs ++ extras) ∧ ∀ m ∈ extras, ∀ f ∈ fs, m.1 ≠ some f.1

theorem arranged_entries (fs : List (String × Option Value)) : Arranged fs (entries fs) :=
  ⟨[], by rw [List.append_nil], nofun⟩

variable {ms : List (Json.Text × Value)}

theorem filter_arranged {v? : Option Value} (arranged : Arranged fs ms)
    (distinct : (fs.map Prod.fst).Nodup) (h : (name, v?) ∈ fs) :
    (ms.filter fun m => m.1 = some name).Perm (whenSome name id v?) := by
  obtain ⟨extras, perm, others⟩ := arranged
  have nothing : extras.filter (fun m => m.1 = some name) = [] := by
    apply List.filter_eq_nil_iff.mpr
    intro m hm
    rw [decide_eq_true_eq]
    exact others m hm _ h
  have filtered := perm.filter fun m => m.1 = some name
  rwa [List.filter_append, filter_entries distinct h, nothing, List.append_nil] at filtered

theorem member_of_filter {v? : Option Value}
    (filtered : (ms.filter fun m => m.1 = some name).Perm (whenSome name id v?)) :
    member? name ms = some v? := by
  rw [member?]
  cases v? with
  | none => rw [List.perm_nil.mp filtered]
  | some v => rw [List.perm_singleton.mp filtered]; rfl

theorem member_arranged {v? : Option Value} (arranged : Arranged fs ms)
    (distinct : (fs.map Prod.fst).Nodup) (h : (name, v?) ∈ fs) : member? name ms = some v? :=
  member_of_filter (filter_arranged arranged distinct h)

/-- Members that all have a name. -/
def Named (ms : List (Json.Text × Value)) : Prop := ms.all (fun m => m.1.isSome) = true

/-- A record gives back all its fields. -/
theorem fields_arranged {names : List String} (arranged : Arranged fs ms) (named : Named ms)
    (declared : fs.map Prod.fst = names) (distinct : names.Nodup) :
    fields? names (.object ms) = some (fs.map Prod.snd) := by
  subst declared
  have part : ∀ gs : List (String × Option Value), (∀ g ∈ gs, g ∈ fs) →
      (gs.map Prod.fst).mapM (fun name => member? name ms) = some (gs.map Prod.snd) := by
    intro gs within
    induction gs with
    | nil => rfl
    | cons g gs ih =>
      have first := member_arranged arranged distinct (within g (by simp))
      have rest := ih fun g hg => within g (by simp [hg])
      rw [List.map_cons, List.mapM_cons, first, rest]
      rfl
  rw [fields?, if_pos (show ms.all (fun m => m.1.isSome) = true from named)]
  exact part fs fun _ hf => hf

theorem named_entries (fs : List (String × Option Value)) : Named (entries fs) := by
  apply List.all_eq_true.mpr
  intro m hm
  obtain ⟨f, -, named, -⟩ := exists_of_mem_entries hm
  rw [named]
  rfl

theorem fields_entries {names : List String} (declared : fs.map Prod.fst = names)
    (distinct : names.Nodup) :
    fields? names (.object (entries fs)) = some (fs.map Prod.snd) :=
  fields_arranged (arranged_entries fs) (named_entries fs) declared distinct

theorem legible_entries (h : ∀ f ∈ fs, ∀ v, f.2 = some v → v.Legible) :
    (Value.object (entries fs)).Legible := by
  apply Value.legible_object
  intro m hm
  obtain ⟨f, hf, named, present⟩ := exists_of_mem_entries hm
  exact ⟨by rw [named]; rfl, h f hf m.2 present⟩

/-! ## Tags -/

/-- A value that may stand in a message that is held back. -/
structure Modest (v : Value) : Prop where
  shallow : v.depth < nestingLimit
  proper : v.isProper = true

theorem modest_word (s : String) : Modest (word s) := ⟨(by decide : 0 < nestingLimit), rfl⟩

theorem modest_ofNat {n : Nat} (small : n < UInt64.size) : Modest (.ofNat n) := by
  refine ⟨(by decide : 0 < nestingLimit), ?_⟩
  rw [Value.ofNat, Value.isProper, Json.Numeral.exceedsDouble_ofNat small]
  rfl

theorem depth_object {ms : List (Json.Text × Value)} {limit : Nat}
    (h : ∀ m ∈ ms, m.2.depth < limit) (positive : 0 < limit) :
    (Value.object ms).depth ≤ limit := by
  induction ms with
  | nil => exact positive
  | cons m ms ih =>
    have first := h m (by simp)
    have rest := ih fun m hm => h m (by simp [hm])
    simp only [Value.depth, Value.membersDepth] at rest ⊢
    omega

theorem isProper_object {ms : List (Json.Text × Value)}
    (h : ∀ m ∈ ms, m.1.isSome = true ∧ m.2.isProper = true) :
    (Value.object ms).isProper = true := by
  induction ms with
  | nil => rfl
  | cons m ms ih =>
    obtain ⟨named, proper⟩ := h m (by simp)
    have rest := ih fun m hm => h m (by simp [hm])
    simp only [Value.isProper, Value.membersProper] at rest ⊢
    rw [named, proper, rest]
    rfl

theorem canHoldBack_entries (h : ∀ f ∈ fs, ∀ v, f.2 = some v → Modest v) :
    canHoldBack (.object (entries fs)) = true := by
  have modest : ∀ m ∈ entries fs, m.1.isSome = true ∧ Modest m.2 := by
    intro m hm
    obtain ⟨f, hf, named, present⟩ := exists_of_mem_entries hm
    exact ⟨by rw [named]; rfl, h f hf m.2 present⟩
  have depth := depth_object (fun m hm => (modest m hm).2.shallow) (by decide)
  have proper := isProper_object fun m hm => ⟨(modest m hm).1, (modest m hm).2.proper⟩
  rw [canHoldBack, proper, Bool.and_true]
  exact decide_eq_true depth

theorem filter_untagged (fresh : tagName ∉ fs.map Prod.fst) :
    (entries fs).filter (fun m => m.1 ≠ some tagName) = entries fs := by
  apply List.filter_eq_self.mpr
  intro m hm
  obtain ⟨f, hf, named, -⟩ := exists_of_mem_entries hm
  rw [decide_eq_true_eq, named]
  intro same
  exact fresh (List.mem_map.mpr ⟨f, hf, Option.some.inj same⟩)

/-- Without its tag, a record has its other fields as they were. -/
theorem Arranged.untagged {v? : Option Value} (arranged : Arranged ((tagName, v?) :: fs) ms)
    (distinct : (tagName :: fs.map Prod.fst).Nodup) :
    Arranged fs (ms.filter fun m => m.1 ≠ some tagName) := by
  obtain ⟨extras, perm, others⟩ := arranged
  have tag : (whenSome tagName id v?).filter (fun m => m.1 ≠ some tagName) = [] := by
    cases v? <;> simp [whenSome, always]
  have unknown : extras.filter (fun m => m.1 ≠ some tagName) = extras := by
    apply List.filter_eq_self.mpr
    intro m hm
    rw [decide_eq_true_eq]
    exact others m hm _ (List.mem_cons_self ..)
  refine ⟨extras, ?_, fun m hm f hf => others m hm f (List.mem_cons_of_mem _ hf)⟩
  have filtered := perm.filter fun m => m.1 ≠ some tagName
  rwa [entries, List.flatMap_cons, List.append_assoc, List.filter_append, tag, List.nil_append,
    List.filter_append, ← entries, filter_untagged (List.nodup_cons.mp distinct).1,
    unknown] at filtered

/-- A tagged record comes apart into its tag and the record. -/
theorem split_arranged {tag : String} (holds : canHoldBack (.object ms) = true)
    (arranged : Arranged ((tagName, some (word tag)) :: fs) ms)
    (distinct : (tagName :: fs.map Prod.fst).Nodup) :
    split? (.object ms) = some (tag, .object (ms.filter fun m => m.1 ≠ some tagName)) := by
  have first := member_arranged arranged distinct (List.mem_cons_self ..)
  rw [split?, if_pos holds]
  simp only [first, word, Value.ofString]

theorem split_tagged (tag : String) (modest : ∀ f ∈ fs, ∀ v, f.2 = some v → Modest v)
    (distinct : (tagName :: fs.map Prod.fst).Nodup) :
    split? (tagged tag (entries fs)) = some (tag, .object (entries fs)) := by
  let all := (tagName, some (word tag)) :: fs
  have holds : canHoldBack (.object (entries all)) = true := by
    apply canHoldBack_entries
    intro f hf v present
    rcases List.mem_cons.mp hf with rfl | hf
    · cases present
      exact modest_word tag
    · exact modest f hf v present
  have rest : (entries all).filter (fun m => m.1 ≠ some tagName) = entries fs := by
    rw [← filter_untagged (List.nodup_cons.mp distinct).1]
    simp [all, entries, whenSome, always]
  have split := split_arranged holds (arranged_entries all) distinct
  rwa [rest] at split

theorem legible_tagged (tag : String) (h : ∀ f ∈ fs, ∀ v, f.2 = some v → v.Legible) :
    (tagged tag (entries fs)).Legible := by
  have whole : tagged tag (entries fs) =
      .object (entries ((tagName, some (word tag)) :: fs)) := rfl
  rw [whole]
  apply legible_entries
  intro f hf v present
  rcases List.mem_cons.mp hf with rfl | hf
  · cases present
    exact Value.legible_ofString tag
  · exact h f hf v present

end PeeringAgent.Wire
