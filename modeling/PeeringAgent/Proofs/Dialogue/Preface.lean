import PeeringAgent.Proofs.Dialogue.View

/-!
# Earlier lines

Nothing that happens to a session depends on what it has logged and told before. So
its supervisor may take the lines and the end events at any time, and finds the same
ones in the end.
-/

set_option autoImplicit false

namespace PeeringAgent.Dialogue

variable {d d' : Dialogue}

/-- More log lines and end events before those that a dialogue has already. -/
def preface (lines : List Log.Line) (told : List StreamEnded) (d : Dialogue) : Dialogue :=
  { d with log := lines ++ d.log, ended := told ++ d.ended }

/-- The dialogue when its supervisor has taken what it logs and tells. -/
def clear (d : Dialogue) : Dialogue := { d with log := [], ended := [] }

theorem preface_clear (d : Dialogue) : d.clear.preface d.log d.ended = d := by
  simp [clear, preface]

section

variable (lines : List Log.Line) (told : List StreamEnded) (d : Dialogue)

/-- A preface is one way to see a dialogue. -/
def prefaced : View := { View.plain with lines, ended := (told ++ ·) }

theorem seen_prefaced : seen (prefaced lines told) = preface lines told := rfl

theorem prefaced_tells : (prefaced lines told).Tells := by
  intro listens before e
  cases listens with
  | false => rfl
  | true => exact (List.append_assoc told before [e]).symm

theorem attempt_preface (errands : List Errand) (d : Dialogue) :
    attempt errands (d.preface lines told) =
      ((attempt errands d).1.preface lines told, (attempt errands d).2) := by
  induction errands generalizing d with
  | nil => rfl
  | cons errand rest ih =>
    have performed := perform_seen (prefaced lines told) { d with agenda := rest } errand
    rw [seen_prefaced] at performed
    rw [attempt, attempt, show ({ d.preface lines told with agenda := rest } : Dialogue) =
      ({ d with agenda := rest } : Dialogue).preface lines told from rfl, performed]
    cases result : ({ d with agenda := rest } : Dialogue).perform errand with
    | mk d' outcome =>
      cases outcome with
      | error e => rfl
      | ok success => exact ih d'

/-- No move looks at what has been logged or told before. -/
theorem move_preface (m : Move) :
    (d.preface lines told).move? m = (d.move? m).map (preface lines told) := by
  by_cases receives : m = .receive
  · subst receives
    exact receive_seen d (prefaced_tells lines told) (View.keepsNext_of_same rfl rfl _)
  · exact move_seen (prefaced lines told) d receives

/-- Nothing that happens to a session depends on what it has logged and told before. -/
theorem act_preface (a : Act) :
    (d.preface lines told).act? a = (d.act? a).map (preface lines told) := by
  cases outward : a.facesOut with
  | false => exact act_seen (prefaced lines told) d outward
  | true =>
    cases a with
    | move m => exact move_preface lines told d m
    | arrive | finish | unsupervise => rfl
    | beginConnect | carryOn | disconnect | closeEnded | behave | hold | release | crash
    | cancelReceiver | cancelDispatcher | reconcile => cases outward

theorem run_preface (acts : List Act) (d : Dialogue) :
    run? acts (d.preface lines told) = (run? acts d).map (preface lines told) := by
  induction acts generalizing d with
  | nil => rfl
  | cons a as ih =>
    rw [run?, run?, act_preface]
    cases d.act? a with
    | none => rfl
    | some d' => exact ih d'

end

/-- Dialogues that differ in their log only do the same and log the same. -/
theorem act_mute {e e' : Dialogue} {a : Act} (same : d.mute = e.mute) (he : e.act? a = some e') :
    ∃ d', d.act? a = some d' ∧ d'.mute = e'.mute ∧
      ∃ lines, e'.log = e.log ++ lines ∧ d'.log = d.log ++ lines := by
  have goes (f : Dialogue) : f.act? a = (f.mute.act? a).map (preface f.log []) := by
    have whole : f.mute.preface f.log [] = f := by simp [mute, preface]
    rw [← act_preface, whole]
  rw [goes e] at he
  obtain ⟨after, act, rfl⟩ := Option.map_eq_some_iff.mp he
  refine ⟨after.preface d.log [], ?_, rfl, after.log, rfl, rfl⟩
  rw [goes d, same, act]
  rfl

/-- A run goes the same way once the lines and events so far have been taken. -/
theorem run_clear (acts : List Act) (h : run? acts d = some d') :
    ∃ e, run? acts d.clear = some e ∧ e.preface d.log d.ended = d' := by
  rw [← preface_clear d, run_preface] at h
  exact Option.map_eq_some_iff.mp h

end PeeringAgent.Dialogue
