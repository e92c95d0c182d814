import PeeringAgent.Reconciler.Timeline

/-!
# A schedule under way

What happens around a schedule of ticks: directives come, the restart action changes
how long it takes and how it ends, time passes.
-/

set_option autoImplicit false

namespace PeeringAgent.Reconciler.Timeline

inductive Command
  | direct (index : Nat) (directive : LinkDirective)
  /-- From now on runs of the action go like this. -/
  | prepare (action : Action)
  | elapse (duration : Nat)

/-- Whether a command is about one link of one store. -/
def Command.concerns (index : Nat) (l : Link) : Command → Bool
  | .direct i directive => i = index && directive.link = l
  | _ => false

def obey (t : Timeline) : Command → Timeline
  | .direct index directive => t.updateStore index fun store => store.apply directive
  | .prepare action => { t with action }
  | .elapse duration => t.advance duration

def run : List Command → Timeline → Timeline
  | [], t => t
  | c :: cs, t => run cs (t.obey c)

theorem run_append (cs more : List Command) (t : Timeline) :
    run (cs ++ more) t = run more (run cs t) := by
  induction cs generalizing t with
  | nil => rfl
  | cons c cs ih => exact ih _

/-- What every command keeps, a run keeps. -/
theorem run_keeps (P : Timeline → Prop) (ok : Command → Prop)
    (step : ∀ t c, ok c → P t → P (t.obey c)) (cs : List Command) (t : Timeline)
    (hok : ∀ c ∈ cs, ok c) (ht : P t) : P (run cs t) := by
  induction cs generalizing t with
  | nil => exact ht
  | cons c cs ih =>
    exact ih _ (fun b hb => hok b (by simp [hb])) (step t c (hok c (by simp)) ht)

end PeeringAgent.Reconciler.Timeline
