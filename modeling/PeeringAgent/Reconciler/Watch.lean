import PeeringAgent.Reconciler

/-!
# Ticks step by step

Directives land at any point: between ticks, between the passes of one tick, while
the restart action runs. The AS has what was installed when it was restarted last.
-/

set_option autoImplicit false

namespace PeeringAgent.Reconciler

/-- How far a tick has come. -/
inductive Progress
  | resting
  /-- The passes made so far. -/
  | passing (made : List Pass)
  | acting

structure Watch where
  sites : List Site
  progress : Progress
  /-- What each session had installed when the restart action began last. -/
  managed : List (List Link)
  /-- How often the restart action has begun. -/
  runs : Nat
  /-- What the last tick told: whether it has attempted a restart. -/
  answer : Option Bool
  log : List Log.Line

namespace Watch

/-- The watch over the empty stores of these sessions. -/
def start (sessions : List String) : Watch :=
  { sites := sessions.map fun session => ⟨session, .empty⟩
    progress := .resting, managed := sessions.map fun _ => []
    runs := 0, answer := none, log := [] }

def installed (w : Watch) : List (List Link) := w.sites.map fun site => site.store.installed

inductive Act
  | direct (index : Nat) (directive : LinkDirective)
  | beginTick
  /-- The pass over the next store. -/
  | pass
  /-- After the last pass the restart action begins, if it is needed. -/
  | conclude
  | endAction (outcome : RestartOutcome)

def direct? (w : Watch) (index : Nat) (directive : LinkDirective) : Option Watch :=
  match w.sites[index]? with
  | some site =>
    some { w with sites := w.sites.set index { site with store := site.store.apply directive } }
  | none => none

def beginTick? (w : Watch) : Option Watch :=
  match w.progress with
  | .resting => some { w with progress := .passing [] }
  | _ => none

def pass? (w : Watch) : Option Watch :=
  match w.progress with
  | .passing made =>
    match w.sites[made.length]? with
    | some site =>
      some { w with
        sites := w.sites.set made.length site.pass.site
        progress := .passing (made ++ [site.pass])
        log := w.log ++ site.pass.lines }
    | none => none
  | _ => none

def conclude? (w : Watch) : Option Watch :=
  match w.progress with
  | .passing made =>
    if made.length = w.sites.length then
      if (Sweep.mk made).restartNeeded then
        some { w with
          progress := .acting, managed := w.installed, runs := w.runs + 1
          log := w.log ++ [restarting] }
      else some { w with progress := .resting, answer := some false }
    else none
  | _ => none

/-- However the action ends, it has been run. -/
def endAction? (w : Watch) (outcome : RestartOutcome) : Option Watch :=
  match w.progress with
  | .acting =>
    some { w with
      progress := .resting, answer := some true, log := w.log ++ outcomeLines outcome }
  | _ => none

def act? (w : Watch) : Act → Option Watch
  | .direct index directive => w.direct? index directive
  | .beginTick => w.beginTick?
  | .pass => w.pass?
  | .conclude => w.conclude?
  | .endAction outcome => w.endAction? outcome

def run? : List Act → Watch → Option Watch
  | [], w => some w
  | a :: as, w => (w.act? a).bind (run? as)

def Act.beginsTick : Act → Bool
  | .beginTick => true
  | _ => false

/-- The store that an act passes over, by its place. -/
def visit? (w : Watch) : Act → Option Nat
  | .pass =>
    match w.progress with
    | .passing made => some made.length
    | _ => none
  | _ => none

/-- The stores that a run passes over, in this order. -/
def visits : List Act → Watch → List Nat
  | [], _ => []
  | a :: as, w => (w.visit? a).toList ++ ((w.act? a).map (visits as)).getD []

end Watch

end PeeringAgent.Reconciler
