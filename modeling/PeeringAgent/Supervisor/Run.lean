import PeeringAgent.Dialogue.Run
import PeeringAgent.Supervisor

/-!
# Runs of the supervisor

The supervisor step by step, among the tasks of its sessions and their
coordinators. It connects the sessions in order, then watches them: it hears an end
event, waits for the tasks of a session and releases it, reconciles, or leaves. It leaves
session by session and call by call, and the tasks go on meanwhile.
-/

set_option autoImplicit false

namespace PeeringAgent.Supervisor

inductive Act
  /-- The next step of connecting, of a release or of leaving. -/
  | carryOn
  /-- Something happens to a session without its owner. -/
  | session (index : Nat) (act : Dialogue.Act)
  | hear
  | tick
  | interrupt
  | signalLost (cause : String)

/-- The acts of tasks and coordinators. -/
def isForeign : Dialogue.Act → Bool
  | .arrive _ => true
  | .finish => true
  | .behave _ => true
  | .hold => true
  | .release => true
  | .crash => true
  | .cancelReceiver => true
  | .cancelDispatcher => true
  | .move _ => true
  | _ => false

/-- The supervisor of sessions that are still to be connected. -/
def begin (sessions : List SessionConfig) : Supervisor :=
  { dialogues := sessions.map fun c => .new c .agreeable, notices := [], mode := .starting 0
    log := [] }

/-! ## The owner of the sessions -/

/-- The session at an index is up, and the next one is to be connected. -/
def proceed (s : Supervisor) (index : Nat) (d : Dialogue) : Supervisor :=
  { s.say [Log.info (d.tagged ("Session " ++ d.session.phase.title))] with
    mode := .starting (index + 1) }

/-- A session that cannot connect ends the agent. -/
def giveUp (s : Supervisor) (index : Nat) (d : Dialogue) (error : SessionError) : Supervisor :=
  { s.say [Log.error (d.tagged error.message)] with mode := .leaving 0 (.refused index error) }

def connectNext? (s : Supervisor) (k : Nat) : Option Supervisor :=
  match s.dialogues[k]? with
  | none => some { s with mode := .watching }
  | some d =>
    if d.agenda = [] then some (s.update k d.beginConnect)
    else
      match d.carryOn? with
      | none => none
      | some (d, .error e) => some ((s.update k d).giveUp k d e)
      | some (d, .ok ()) =>
        some (if d.agenda = [] then (s.update k d).proceed k d else s.update k d)

/-- The next errand of a release; the supervisor goes on to another mode after the last. -/
def pursue? (s : Supervisor) (k : Nat) (d : Dialogue) (next : Mode) : Option Supervisor :=
  d.carryOn?.map fun after =>
    { s.update k after.1 with mode := if after.1.agenda = [] then next else s.mode }

def releaseNext? (s : Supervisor) (k : Nat) : Option Supervisor :=
  s.dialogues[k]?.bind fun d =>
    if d.agenda = [] then d.awaitTasks?.map fun d => s.update k d.beginRelease
    else s.pursue? k d .watching

/-- Why the agent leaves or has left, if it does. -/
def Mode.cause? : Mode → Option Cause
  | .leaving _ cause => some cause
  | .stopped cause => some cause
  | _ => none

/-- How many sessions are to be disconnected: those that came up, or all of them. -/
def Cause.reach (sessions : Nat) : Cause → Nat
  | .refused k _ => k
  | .told => sessions

/-- How a release begins; a session that is closed needs none when the agent is told to leave. -/
def Cause.part? (d : Dialogue) : Cause → Option Dialogue
  | .refused _ _ => some d.beginRelease
  | .told =>
    if d.session.phase = .closed then none else some (d.say [partingLine d]).beginRelease

def Cause.lastLines : Cause → List Log.Line
  | .refused _ _ => []
  | .told => [shutdownComplete]

def leaveNext? (s : Supervisor) (k : Nat) (cause : Cause) : Option Supervisor :=
  if k < cause.reach s.dialogues.length then
    s.dialogues[k]?.bind fun d =>
      if d.agenda = [] then
        some (match cause.part? d with
          | some d => s.update k d
          | none => { s with mode := .leaving (k + 1) cause })
      else s.pursue? k d (.leaving (k + 1) cause)
  else some { s.say cause.lastLines with mode := .stopped cause }

/-- How long a coordinator takes to answer a call is left open. What has to wait here is the
release of a session: for its tasks. -/
def carryOn? (s : Supervisor) : Option Supervisor :=
  match s.mode with
  | .starting k => s.connectNext? k
  | .watching => none
  | .releasing k => s.releaseNext? k
  | .leaving k cause => s.leaveNext? k cause
  | .stopped _ => none

/-- The agent is told to leave; a line says why. -/
def leave (s : Supervisor) (reason : Log.Line) : Supervisor :=
  { s.say [reason] with mode := .leaving 0 .told }

/-! ## Acts -/

/-- Tasks and coordinators go on in every mode, also behind the end of the agent, until
the process is gone. -/
def session? (s : Supervisor) (index : Nat) (a : Dialogue.Act) : Option Supervisor :=
  if isForeign a then (s.dialogues[index]?.bind fun d => d.act? a).map (s.update index)
  else none

/-- Before the supervisor watches it does not listen for a signal, and while it does
something else it does not notice one. -/
def act? (s : Supervisor) : Act → Option Supervisor
  | .carryOn => s.carryOn?
  | .session index a => s.session? index a
  | .hear => s.hear?
  | .tick => if s.mode = .watching then some s.tick.1 else none
  | .interrupt => if s.mode = .watching then some (s.leave interrupted) else none
  | .signalLost cause =>
    if s.mode = .watching then some (s.leave (Supervisor.signalLost cause)) else none

def run? : List Act → Supervisor → Option Supervisor
  | [], s => some s
  | a :: as, s => (s.act? a).bind (run? as)

/-- Which session an act finds unable to connect, and why. -/
def failureAt? (s : Supervisor) : Act → Option (Nat × SessionError)
  | .carryOn =>
    match s.mode with
    | .starting k => (s.dialogues[k]?.bind fun d => d.failureAt? .carryOn).map (k, ·)
    | _ => none
  | _ => none

/-- Which session cannot connect in a run, and why. -/
def failure? : List Act → Supervisor → Option (Nat × SessionError)
  | [], _ => none
  | a :: as, s => (s.failureAt? a).or ((s.act? a).bind (failure? as))

theorem run_append (as bs : List Act) (s : Supervisor) :
    run? (as ++ bs) s = (run? as s).bind (run? bs) := by
  induction as generalizing s with
  | nil => rfl
  | cons a as ih =>
    rw [List.cons_append, run?, run?]
    cases s.act? a with
    | none => rfl
    | some s' => exact ih s'

theorem failure_append (as bs : List Act) (s : Supervisor) :
    failure? (as ++ bs) s = (failure? as s).or ((run? as s).bind (failure? bs)) := by
  induction as generalizing s with
  | nil => exact (Option.none_or).symm
  | cons a as ih =>
    rw [List.cons_append, failure?, failure?, run?, Option.or_assoc]
    cases s.act? a with
    | none => rfl
    | some s' => exact congrArg _ (ih s')

/-- What every act keeps, a run keeps. -/
theorem run_keeps (P : Supervisor → Prop) (ok : Act → Prop)
    (step : ∀ s a s', ok a → P s → s.act? a = some s' → P s') (acts : List Act)
    (s s' : Supervisor) (hok : ∀ a ∈ acts, ok a) (hs : P s) (h : run? acts s = some s') :
    P s' := by
  induction acts generalizing s with
  | nil =>
    cases h
    exact hs
  | cons a as ih =>
    obtain ⟨e, he, hr⟩ := Option.bind_eq_some_iff.mp h
    exact ih e (fun b hb => hok b (by simp [hb])) (step s a e (hok a (by simp)) hs he) hr

end PeeringAgent.Supervisor
