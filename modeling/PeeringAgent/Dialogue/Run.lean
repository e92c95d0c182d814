import PeeringAgent.Dialogue

/-!
# Runs of a session

What can happen to a session, one thing at a time and in any order: its owner
connects and releases it, the coordinator sends and ends, its tasks move or are
stopped, links are reconciled. A run is a list of such acts, each of which was possible.
-/

set_option autoImplicit false

namespace PeeringAgent.Dialogue

inductive Act
  | beginConnect
  /-- The next errand of connecting or of a release. -/
  | carryOn
  /-- A release begins. -/
  | disconnect
  /-- A release begins that has waited for the tasks. -/
  | closeEnded
  | arrive (arrival : Arrival)
  | finish
  | behave (behaviour : Behaviour)
  | hold
  | release
  | crash
  /-- A task that was told to stop does so. -/
  | cancelReceiver
  | cancelDispatcher
  | move (move : Move)
  | reconcile
  | unsupervise

/-- A command waits while connecting or a release is under way. Nothing else waits for the
owner: the tasks go on between two errands, and after a release until they stop. -/
def act? (d : Dialogue) : Act → Option Dialogue
  | .beginConnect => if d.agenda = [] then some d.beginConnect else none
  | .carryOn => d.carryOn?.map Prod.fst
  | .disconnect => if d.agenda = [] then some d.beginRelease else none
  | .closeEnded => if d.agenda = [] then d.awaitTasks?.map beginRelease else none
  | .arrive a => some { d with coordinator := (d.coordinator.put a).1 }
  | .finish => some { d with coordinator := d.coordinator.finish.1 }
  | .behave b => some { d with coordinator := { d.coordinator with behaviour := b } }
  | .hold => some { d with coordinator := d.coordinator.hold.1 }
  | .release => some { d with coordinator := d.coordinator.release.1 }
  | .crash => d.crash?
  | .cancelReceiver => d.cancelReceiver?
  | .cancelDispatcher => d.cancelDispatcher?
  | .move m => d.move? m
  | .reconcile => some (d.setStore d.session.store.reconcile.1)
  | .unsupervise => some { d with supervised := false }

def run? : List Act → Dialogue → Option Dialogue
  | [], d => some d
  | a :: as, d => (d.act? a).bind (run? as)

def Act.isConnect : Act → Bool
  | .beginConnect => true
  | _ => false

/-- How often connecting begins. -/
def connects (acts : List Act) : Nat := acts.countP Act.isConnect

theorem connects_cons (a : Act) (as : List Act) :
    connects (a :: as) = connects as + if a.isConnect then 1 else 0 :=
  List.countP_cons

theorem connects_append (as bs : List Act) : connects (as ++ bs) = connects as + connects bs :=
  List.countP_append

theorem other_of_connects {a : Act} {as : List Act} (h : connects (a :: as) = 0) :
    a.isConnect = false ∧ connects as = 0 := by
  rw [connects_cons] at h
  cases begins : a.isConnect with
  | false => exact ⟨rfl, by omega⟩
  | true =>
    rw [begins, if_pos rfl] at h
    omega

/-- The commands that begin a release of the session. -/
def Act.isRelease : Act → Bool
  | .disconnect => true
  | .closeEnded => true
  | _ => false

/-- Why an act makes connecting fail, if it does. -/
def failureAt? (d : Dialogue) : Act → Option SessionError
  | .carryOn =>
    match d.carryOn? with
    | some (_, .error e) => some e
    | _ => none
  | _ => none

/-- Why connecting fails in a run, if it does. -/
def failure? : List Act → Dialogue → Option SessionError
  | [], _ => none
  | a :: as, d => (d.failureAt? a).or ((d.act? a).bind (failure? as))

theorem run_append (as bs : List Act) (d : Dialogue) :
    run? (as ++ bs) d = (run? as d).bind (run? bs) := by
  induction as generalizing d with
  | nil => rfl
  | cons a as ih =>
    rw [List.cons_append, run?, run?]
    cases d.act? a with
    | none => rfl
    | some d' => exact ih d'

theorem run_split {before after : List Act} {d e d' : Dialogue}
    (whole : run? (before ++ after) d = some d') (part : run? before d = some e) :
    run? after e = some d' := by
  rw [run_append, part] at whole
  exact whole

/-- What the acts of a run contribute one after the other, each where it is done. -/
def gather {α : Type} (f : Dialogue → Act → List α) : List Act → Dialogue → List α
  | [], _ => []
  | a :: as, d => f d a ++ ((d.act? a).map (gather f as)).getD []

theorem gather_cons {α : Type} {d e : Dialogue} {a : Act} {as : List Act}
    (f : Dialogue → Act → List α) (he : d.act? a = some e) :
    gather f (a :: as) d = f d a ++ gather f as e := by
  rw [gather, he]
  rfl

theorem gather_append {α : Type} {d e : Dialogue} (f : Dialogue → Act → List α)
    (before after : List Act) (part : run? before d = some e) :
    gather f (before ++ after) d = gather f before d ++ gather f after e := by
  induction before generalizing d with
  | nil =>
    cases part
    rfl
  | cons a as ih =>
    obtain ⟨m, he, hr⟩ := Option.bind_eq_some_iff.mp part
    rw [List.cons_append, gather_cons f he, gather_cons f he, ih hr, List.append_assoc]

/-- An act that completes a release. -/
def retires (d : Dialogue) : Act → Bool
  | .carryOn => d.agenda.head? == some .retire
  | _ => false

/-- A release has been completed in a run. -/
def retired (acts : List Act) (d : Dialogue) : Bool :=
  (gather (fun d a => [d.retires a]) acts d).any id

theorem retired_cons {d e : Dialogue} {a : Act} {as : List Act} (he : d.act? a = some e) :
    retired (a :: as) d = (d.retires a || retired as e) := by
  rw [retired, gather_cons _ he]
  rfl

/-- What every act keeps, a run keeps. -/
theorem run_keeps (P : Dialogue → Prop) (ok : Act → Prop)
    (step : ∀ d a d', ok a → P d → d.act? a = some d' → P d') (acts : List Act)
    (d d' : Dialogue) (hok : ∀ a ∈ acts, ok a) (hd : P d) (h : run? acts d = some d') : P d' := by
  induction acts generalizing d with
  | nil =>
    cases h
    exact hd
  | cons a as ih =>
    obtain ⟨e, he, hr⟩ := Option.bind_eq_some_iff.mp h
    exact ih e (fun b hb => hok b (by simp [hb])) (step d a e (hok a (by simp)) hd he) hr

end PeeringAgent.Dialogue
