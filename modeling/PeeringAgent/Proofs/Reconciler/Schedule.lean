import PeeringAgent.Reconciler.Schedule

/-!
# Regularity of the schedule

However long the actions take, ticks keep out of their way, keep their distance and do
not fall behind; as long as no action takes longer than the interval there is no drift.
-/

set_option autoImplicit false

namespace PeeringAgent.Reconciler

variable {leeway interval due free : Nat}

/-- When the tick after some others is due, and when the action of the last one ends. -/
def outlook (leeway interval : Nat) : Nat → Nat → List Nat → Nat × Nat
  | due, free, [] => (due, free)
  | due, free, duration :: durations =>
    let begun := begin due free
    outlook leeway interval (nextDue leeway interval due begun) (begun + duration) durations

theorem beginnings_append (durations more : List Nat) :
    beginnings leeway interval due free (durations ++ more) =
      beginnings leeway interval due free durations ++
        beginnings leeway interval (outlook leeway interval due free durations).1
          (outlook leeway interval due free durations).2 more := by
  induction durations generalizing due free with
  | nil => rfl
  | cons x xs ih => exact congrArg _ ih

theorem outlook_append (durations more : List Nat) :
    outlook leeway interval due free (durations ++ more) =
      outlook leeway interval (outlook leeway interval due free durations).1
        (outlook leeway interval due free durations).2 more := by
  induction durations generalizing due free with
  | nil => rfl
  | cons x xs ih => exact ih

theorem beginnings_concat (durations : List Nat) (duration : Nat) :
    beginnings leeway interval due free (durations ++ [duration]) =
      beginnings leeway interval due free durations ++
        [begin (outlook leeway interval due free durations).1
          (outlook leeway interval due free durations).2] :=
  beginnings_append durations [duration]

theorem length_beginnings (durations : List Nat) :
    (beginnings leeway interval due free durations).length = durations.length := by
  induction durations generalizing due free with
  | nil => rfl
  | cons x xs ih => exact congrArg (· + 1) ih

/-- A tick begins when the actions before it say. -/
theorem begin_of_beginnings (durations : List Nat) (n b : Nat)
    (this : (beginnings leeway interval due free durations)[n]? = some b) :
    b = begin (outlook leeway interval due free (durations.take n)).1
      (outlook leeway interval due free (durations.take n)).2 := by
  induction durations generalizing due free n with
  | nil => cases this
  | cons x xs ih =>
    cases n with
    | zero =>
      cases this
      rfl
    | succ n => exact ih n this

/-- The next tick waits for the action and keeps the distance, but no longer than that. -/
theorem begin_after (begun duration : Nat) (late : due ≤ begun) :
    begun + duration ≤ begin (nextDue leeway interval due begun) (begun + duration) ∧
      begun + interval ≤ begin (nextDue leeway interval due begun) (begun + duration) + leeway ∧
      begin (nextDue leeway interval due begun) (begun + duration) ≤
        max (begun + duration) (begun + interval) := by
  have least := nextDue_ge leeway interval due begun
  have most := nextDue_le leeway interval due begun late
  unfold begin
  omega

/-- Ticks with actions that take so long. -/
structure Regular (leeway interval start : Nat) (durations begun : List Nat) : Prop where
  each : begun.length = durations.length
  first : ∀ b, begun.head? = some b → b = start
  consecutive : ∀ n b x b', begun[n]? = some b → durations[n]? = some x →
    begun[n + 1]? = some b' →
    b + x ≤ b' ∧ b + interval ≤ b' + leeway ∧ b' ≤ max (b + x) (b + interval)
  steady : ∀ n b, begun[n]? = some b → (∀ x ∈ durations.take n, x ≤ interval) →
    b = start + n * interval

theorem consecutive_beginnings (durations : List Nat) (n b x b' : Nat)
    (this : (beginnings leeway interval due free durations)[n]? = some b)
    (long : durations[n]? = some x)
    (next : (beginnings leeway interval due free durations)[n + 1]? = some b') :
    b + x ≤ b' ∧ b + interval ≤ b' + leeway ∧ b' ≤ max (b + x) (b + interval) := by
  induction durations generalizing due free n with
  | nil => cases this
  | cons y ys ih =>
    cases n with
    | succ n => exact ih n this long next
    | zero =>
      cases this
      cases long
      cases ys with
      | nil => cases next
      | cons z zs =>
        cases next
        exact begin_after _ x (begin_ge_due due free)

/-- A tick in time whose action ends in time leaves the next one in time. -/
theorem steady_beginnings (durations : List Nat) (n b : Nat) (onTime : free ≤ due)
    (this : (beginnings leeway interval due free durations)[n]? = some b)
    (short : ∀ x ∈ durations.take n, x ≤ interval) : b = due + n * interval := by
  induction durations generalizing due free n with
  | nil => cases this
  | cons y ys ih =>
    have begun : begin due free = due := Nat.max_eq_left onTime
    cases n with
    | zero =>
      cases this
      rw [begun, Nat.zero_mul]
      rfl
    | succ n =>
      have next : nextDue leeway interval due due = due + interval :=
        if_neg (Nat.not_lt.mpr (Nat.le_add_right due leeway))
      rw [beginnings, begun, next, List.getElem?_cons_succ] at this
      have first := short y (by simp)
      rw [ih n (by omega) this fun x hx => short x (by simp [hx]), Nat.succ_mul]
      omega

theorem regular_beginnings (leeway interval start : Nat) (durations : List Nat) :
    Regular leeway interval start durations
      (beginnings leeway interval start start durations) where
  each := length_beginnings durations
  first b head := by
    cases durations with
    | nil => cases head
    | cons x xs =>
      cases head
      exact Nat.max_self start
  consecutive := consecutive_beginnings durations
  steady n b this short := steady_beginnings durations n b (Nat.le_refl start) this short

end PeeringAgent.Reconciler
