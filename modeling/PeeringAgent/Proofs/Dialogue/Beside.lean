import PeeringAgent.Proofs.Dialogue.Conservation

/-!
# A run without some of its acts

Some acts may be left out of a run, which ones may depend on where the run is. When an
act that is left out keeps a relation between two dialogues, and every other act can be
done beside, then the shorter run is possible and keeps beside the longer one.
-/

set_option autoImplicit false

namespace PeeringAgent.Dialogue

variable {α : Type} {d d' e : Dialogue} {a : Act} {out : Dialogue → Act → Bool}

/-- A run without the acts that are out of place where they are done. -/
def without (out : Dialogue → Act → Bool) (acts : List Act) (d : Dialogue) : List Act :=
  gather (fun d a => if out d a then [] else [a]) acts d

theorem without_of_out (he : d.act? a = some d') (left : out d a = true) (acts : List Act) :
    without out (a :: acts) d = without out acts d' := by
  rw [without, gather_cons _ he, if_pos left]
  rfl

theorem without_of_kept (he : d.act? a = some d') (kept : out d a = false) (acts : List Act) :
    without out (a :: acts) d = a :: without out acts d' := by
  rw [without, gather_cons _ he, if_neg (by simp [kept])]
  rfl

theorem without_append (before after : List Act) (part : run? before d = some e) :
    without out (before ++ after) d = without out before d ++ without out after e :=
  gather_append _ before after part

theorem without_sublist (acts : List Act) (run : run? acts d = some d') :
    (without out acts d).Sublist acts := by
  induction acts generalizing d with
  | nil => exact .slnil
  | cons a as ih =>
    obtain ⟨next, he, hr⟩ := Option.bind_eq_some_iff.mp run
    cases left : out d a with
    | true =>
      rw [without_of_out he left]
      exact (ih hr).cons a
    | false =>
      rw [without_of_kept he left]
      exact (ih hr).cons_cons a

/-- Acts that are never left out are all there, in their order. -/
theorem filter_without (p : Act → Bool) (kept : ∀ d a, p a = true → out d a = false)
    (acts : List Act) (run : run? acts d = some d') :
    (without out acts d).filter p = acts.filter p := by
  induction acts generalizing d with
  | nil => rfl
  | cons a as ih =>
    obtain ⟨next, he, hr⟩ := Option.bind_eq_some_iff.mp run
    cases left : out d a with
    | true =>
      have other : p a = false := by
        refine Bool.eq_false_iff.mpr fun stays => ?_
        rw [kept d a stays] at left
        cases left
      rw [without_of_out he left, List.filter_cons_of_neg (by simp [other])]
      exact ih hr
    | false => rw [without_of_kept he left, List.filter_cons, List.filter_cons, ih hr]

theorem without_eq_filter (p : Act → Bool) (acts : List Act) (run : run? acts d = some d') :
    without (fun _ a => p a) acts d = acts.filter (!p ·) := by
  induction acts generalizing d with
  | nil => rfl
  | cons a as ih =>
    obtain ⟨next, he, hr⟩ := Option.bind_eq_some_iff.mp run
    cases left : p a with
    | true => rw [without_of_out he left, List.filter_cons_of_neg (by simp [left]), ih hr]
    | false => rw [without_of_kept he left, List.filter_cons_of_pos (by simp [left]), ih hr]

theorem filter_gather (f : Dialogue → Act → List α) (p : α → Bool) (acts : List Act)
    (d : Dialogue) : (gather f acts d).filter p = gather (fun d a => (f d a).filter p) acts d := by
  induction acts generalizing d with
  | nil => rfl
  | cons a as ih =>
    rw [gather, gather, List.filter_append]
    cases d.act? a with
    | none => rfl
    | some e => exact congrArg _ (ih e)

/-- What goes on beside a run when some acts are left out. What the acts contribute, the
longer run by one measure and the shorter one by another, is the same in the end. -/
theorem run_without (out : Dialogue → Act → Bool) (R : Dialogue → Dialogue → Prop)
    (f g : Dialogue → Act → List α)
    (skip : ∀ d d' e a, R d e → d.act? a = some d' → out d a = true → R d' e ∧ f d a = [])
    (beside : ∀ d d' e a, R d e → d.act? a = some d' → out d a = false →
      ∃ e', e.act? a = some e' ∧ R d' e' ∧ g e a = f d a)
    (acts : List Act) (h : R d e) (run : run? acts d = some d') :
    ∃ e', run? (without out acts d) e = some e' ∧ R d' e' ∧
      gather g (without out acts d) e = gather f acts d := by
  -- The longer run moves alone at an act that is left out, and both move at any other.
  induction acts generalizing d e with
  | nil =>
    cases run
    exact ⟨e, rfl, h, rfl⟩
  | cons a as ih =>
    obtain ⟨next, he, hr⟩ := Option.bind_eq_some_iff.mp run
    rw [gather_cons f he]
    cases left : out d a with
    | true =>
      obtain ⟨related, nothing⟩ := skip d next e a h he left
      rw [without_of_out he left, nothing]
      exact ih related hr
    | false =>
      obtain ⟨e₁, act, related, same⟩ := beside d next e a h he left
      obtain ⟨e', rest, last, all⟩ := ih related hr
      rw [without_of_kept he left]
      refine ⟨e', ?_, last, ?_⟩
      · rw [run?, act]
        exact rest
      · rw [gather_cons g act, same, all]

end PeeringAgent.Dialogue
