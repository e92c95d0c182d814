import PeeringAgent.Dialogue.Run
import PeeringAgent.Fleet

/-!
# Runs of a fleet

Sessions under one reconciler, step by step, and one act at a time: sessions connect, move
and end between the passes of a tick and while the restart action runs. They share the
reconciler, its one decision to restart, and the channel on which their ends are told.
-/

set_option autoImplicit false

namespace PeeringAgent.Fleet

def run : List Step → Fleet → Fleet
  | [], f => f
  | s :: ss, f => run ss (f.step s).1

/-- The same step when the session at an index is alone, if it has to do with it. -/
def Step.only (index : Nat) : Step → Option Step
  | .session i command => if i = index then some (.session 0 command) else none
  | .setRestart outcome => some (.setRestart outcome)
  | .tick => some .tick

/-- How far a tick has come. -/
inductive Progress
  | resting
  /-- The passes made so far. -/
  | passing (made : List Reconciler.Pass)
  /-- All passes are made; how the restart action will end, if it was needed. -/
  | concluding (action : Option RestartOutcome)

/-- A fleet at any moment. -/
structure Moment extends Fleet where
  progress : Progress
  /-- The channel for end events still has its receiver. -/
  listening : Bool
  /-- End events in the order of their arrival, each with the number of its session. -/
  notices : List (Nat × StreamEnded)

namespace Moment

/-- A fleet between two ticks. -/
def rest (f : Fleet) (listening : Bool) (notices : List (Nat × StreamEnded)) : Moment :=
  { f with progress := .resting, listening, notices }

def start (sessions : List (SessionConfig × Behaviour)) : Moment :=
  rest (Fleet.start sessions) true []

inductive Act
  /-- Something happens to one session. -/
  | session (index : Nat) (act : Dialogue.Act)
  /-- The channel for end events loses its receiver. -/
  | deafen
  | setRestart (outcome : RestartOutcome)
  | beginTick
  /-- The pass over the store of a session; they have their turns in order. -/
  | pass (index : Nat)
  /-- After the last pass the restart action begins, if it is needed. -/
  | conclude
  /-- The tick ends, after the restart action if there is one. -/
  | endTick

/-- Only the reconciler reconciles. -/
def isAddressed : Dialogue.Act → Bool
  | .reconcile => false
  | _ => true

/-- The end events that an act of a session has told. -/
def news (index : Nat) (before after : Dialogue) : List (Nat × StreamEnded) :=
  (after.ended.drop before.ended.length).map fun e => (index, e)

/-- Puts a session back to which something has happened; what it tells is lost when nobody
listens, and the session does not notice. -/
def put (m : Moment) (index : Nat) (before after : Dialogue) : Moment :=
  { m with
    dialogues := m.dialogues.set index after
    notices := if m.listening then m.notices ++ news index before after else m.notices }

def session? (m : Moment) (index : Nat) (a : Dialogue.Act) : Option Moment :=
  if isAddressed a then
    m.dialogues[index]?.bind fun d => (d.act? a).map (m.put index d)
  else none

def beginTick? (m : Moment) : Option Moment :=
  match m.progress with
  | .resting => some { m with progress := .passing [] }
  | _ => none

def pass? (m : Moment) (index : Nat) : Option Moment :=
  match m.progress with
  | .passing made =>
    if index = made.length then
      m.dialogues[index]?.map fun d =>
        let p := d.site.pass
        { m with
          dialogues := m.dialogues.set index (d.setSite p.site)
          progress := .passing (made ++ [p])
          log := m.log ++ p.lines }
    else none
  | _ => none

def conclude? (m : Moment) : Option Moment :=
  match m.progress with
  | .passing made =>
    if made.length = m.dialogues.length then
      some (if (Reconciler.Sweep.mk made).restartNeeded then
        { m with
          progress := .concluding (some m.restart), runs := m.runs + 1
          log := m.log ++ [Reconciler.restarting] }
      else { m with progress := .concluding none })
    else none
  | _ => none

def endTick? (m : Moment) : Option Moment :=
  match m.progress with
  | .concluding action =>
    some { m with
      progress := .resting
      log := m.log ++ (action.map Reconciler.outcomeLines).getD [] }
  | _ => none

def act? (m : Moment) : Act → Option Moment
  | .session index a => m.session? index a
  | .deafen => some { m with listening := false }
  | .setRestart outcome => some { m with restart := outcome }
  | .beginTick => m.beginTick?
  | .pass index => m.pass? index
  | .conclude => m.conclude?
  | .endTick => m.endTick?

def run? : List Act → Moment → Option Moment
  | [], m => some m
  | a :: as, m => (m.act? a).bind (run? as)

theorem run_append (as bs : List Act) (m : Moment) :
    run? (as ++ bs) m = (run? as m).bind (run? bs) := by
  induction as generalizing m with
  | nil => rfl
  | cons a as ih =>
    rw [List.cons_append, run?, run?]
    cases m.act? a with
    | none => rfl
    | some m' => exact ih m'

/-- The same act when the session at an index is alone, if it has to do with it. -/
def only (index : Nat) : Act → Option Act
  | .session i a => if i = index then some (.session 0 a) else none
  | .pass i => if i = index then some (.pass 0) else none
  | .deafen => some .deafen
  | .setRestart outcome => some (.setRestart outcome)
  | .beginTick => some .beginTick
  | .conclude => some .conclude
  | .endTick => some .endTick

/-- A run without what is addressed to other sessions; the ticks stay. -/
def alone (index : Nat) (acts : List Act) : List Act := acts.filterMap (only index)

def Act.deafens : Act → Bool
  | .deafen => true
  | _ => false

/-- The end events of one session that have arrived. -/
def told (m : Moment) (index : Nat) : List StreamEnded :=
  (m.notices.filter fun notice => notice.1 == index).map Prod.snd

end Moment

end PeeringAgent.Fleet
