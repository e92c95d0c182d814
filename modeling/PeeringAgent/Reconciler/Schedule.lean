/-!
# The schedule of ticks

A tick begins when it is due and the restart action of the tick before it has
ended. The next one is due an interval after this one was due, or, when this one
began late, an interval after it began. Times are milliseconds, or parts of one.
-/

set_option autoImplicit false

namespace PeeringAgent.Reconciler

/-- A tick that begins up to this many milliseconds after it was due is in time. -/
def tolerance : Nat := 5

/-- When a tick begins that is due while the action runs until `free`. -/
def begin (due free : Nat) : Nat := max due free

/-- A tick that begins with more than the leeway after it was due is late. -/
def nextDue (leeway interval due begun : Nat) : Nat :=
  if begun > due + leeway then begun + interval else due + interval

/-- When ticks begin, given how long the action of each one takes. -/
def beginnings (leeway interval : Nat) : Nat → Nat → List Nat → List Nat
  | _, _, [] => []
  | due, free, duration :: durations =>
    let begun := begin due free
    begun ::
      beginnings leeway interval (nextDue leeway interval due begun) (begun + duration) durations

theorem begin_ge_due (due free : Nat) : due ≤ begin due free := Nat.le_max_left _ _

theorem begin_ge_free (due free : Nat) : free ≤ begin due free := Nat.le_max_right _ _

theorem nextDue_le (leeway interval due begun : Nat) (h : due ≤ begun) :
    nextDue leeway interval due begun ≤ begun + interval := by
  unfold nextDue
  split <;> omega

theorem nextDue_ge (leeway interval due begun : Nat) :
    begun + interval ≤ nextDue leeway interval due begun + leeway := by
  unfold nextDue
  split <;> omega

theorem nextDue_ge_due (leeway interval due begun : Nat) :
    due + interval ≤ nextDue leeway interval due begun := by
  unfold nextDue
  split <;> omega

end PeeringAgent.Reconciler
