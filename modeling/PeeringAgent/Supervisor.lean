import PeeringAgent.Dialogue.Settle
import PeeringAgent.Dialogue.Tick

/-!
# The supervisor

The supervisor connects every session, releases a session whose stream is over,
and disconnects what is left when the agent shuts down. A session that cannot
connect ends the agent, after the sessions before it are disconnected.
-/

set_option autoImplicit false

namespace PeeringAgent

/-- Why the agent leaves. -/
inductive Supervisor.Cause
  /-- The session at an index could not connect. -/
  | refused (index : Nat) (error : SessionError)
  /-- It was told to, or there is no signal to wait for. -/
  | told
deriving DecidableEq

/-- What the supervisor is about. -/
inductive Supervisor.Mode
  /-- Connecting sessions in order; this one is next, or under way. -/
  | starting (index : Nat)
  | watching
  /-- Waiting until the tasks of a session are over, and releasing it then. -/
  | releasing (index : Nat)
  /-- Disconnecting sessions in order; this one is next, or under way. -/
  | leaving (index : Nat) (cause : Cause)
  | stopped (cause : Cause)
deriving DecidableEq

structure Supervisor where
  dialogues : List Dialogue
  /-- End events in the order of their arrival. The number is that of the session an
  event comes from; the supervisor is not told. -/
  notices : List (Nat × StreamEnded)
  mode : Supervisor.Mode
  log : List Log.Line

namespace Supervisor

/-- Moves what a dialogue has logged to the common log. -/
def absorb (log : List Log.Line) (d : Dialogue) : List Log.Line × Dialogue :=
  (log ++ d.log, { d with log := [] })

/-- Something happens to each dialogue in turn, with one log. -/
def forEach (f : Dialogue → Dialogue) (log : List Log.Line) :
    List Dialogue → List Log.Line × List Dialogue
  | [] => (log, [])
  | d :: ds =>
    let (log, d) := absorb log (f d)
    let (log, ds) := forEach f log ds
    (log, d :: ds)

/-- How connecting all sessions went. -/
structure Startup where
  dialogues : List Dialogue
  log : List Log.Line
  error : Option SessionError

/-- Connects sessions in order, given those that are up already. -/
def connectAll (up : List Dialogue) (log : List Log.Line) : List Dialogue → Startup
  | [] => { dialogues := up, log, error := none }
  | d :: ds =>
    match d.connect with
    | (d, .ok ()) =>
      let (log, d) := absorb log d
      let line := Log.info (d.tagged ("Session " ++ d.session.phase.title))
      connectAll (up ++ [d]) (log ++ [line]) ds
    | (d, .error e) =>
      let (log, d) := absorb log d
      let log := log ++ [Log.error (d.tagged e.message)]
      let (log, up) := forEach Dialogue.disconnect log up
      { dialogues := up ++ d :: ds, log, error := some e }

def startUp (log : List Log.Line) (ds : List Dialogue) : Startup := connectAll [] log ds

/-- The supervisor of sessions that are all up. -/
def watch (ds : List Dialogue) : Supervisor :=
  { dialogues := ds, notices := [], mode := .watching, log := [] }

def say (s : Supervisor) (lines : List Log.Line) : Supervisor := { s with log := s.log ++ lines }

/-- The session that an end event is taken to come from. -/
def sourceIndex? (s : Supervisor) (e : StreamEnded) : Option Nat :=
  s.dialogues.findIdx? fun d => d.name == e.session && d.session.phase == .streaming

def endedLine (e : StreamEnded) : Log.Line :=
  Log.warn (Log.tagged e.session ("Session ended: " ++ e.reason ++ "; not reconnecting"))

/-- Puts a session back to which something has happened, and takes what it tells. -/
def update (s : Supervisor) (index : Nat) (d : Dialogue) : Supervisor :=
  { s with
    dialogues := s.dialogues.set index { d with log := [], ended := [] }
    notices := s.notices ++ d.ended.map fun e => (index, e)
    log := s.log ++ d.log }

/-- The next end event begins the release of the session it is taken to come from. -/
def hear? (s : Supervisor) : Option Supervisor :=
  match s.mode, s.notices with
  | .watching, (_, e) :: rest =>
    let s := { s with notices := rest }.say [endedLine e]
    match s.sourceIndex? e with
    | some i => some { s with mode := .releasing i }
    | none => some s
  | _, _ => none

/-- A release in one go, once the tasks of the session are over; until then the supervisor
does nothing else. -/
def finishRelease? (s : Supervisor) : Option Supervisor :=
  match s.mode with
  | .releasing i => do
    let d ← s.dialogues[i]?
    let d ← d.closeEnded?
    return { s.update i d with mode := .watching }
  | _ => none

/-- Passes over all stores; the answer tells whether the AS is to be restarted. -/
def tick (s : Supervisor) : Supervisor × Bool :=
  let (dialogues, sweep) := Dialogue.tickAll s.dialogues
  ({ s with dialogues, log := s.log ++ sweep.lines }, sweep.restartNeeded)

def interrupted : Log.Line := Log.info "Received Ctrl+C, shutting down..."

/-- There is no signal to wait for. -/
def signalLost (cause : String) : Log.Line :=
  Log.error ("Unable to listen for shutdown signal: " ++ cause)

def partingLine (d : Dialogue) : Log.Line :=
  Log.info (d.tagged ("Disconnecting (arbitration: " ++ d.session.role.title ++ ")"))

/-- Disconnects a session that is not closed yet. -/
def release (d : Dialogue) : Dialogue :=
  if d.session.phase = .closed then d else (d.say [partingLine d]).disconnect

def shutdownComplete : Log.Line := Log.info "Shutdown complete."

/-- Shuts down in one go; a line says why. -/
def shutDown (s : Supervisor) (reason : Log.Line) : Supervisor :=
  let (log, dialogues) := forEach release (s.log ++ [reason]) s.dialogues
  { s with dialogues, mode := .stopped .told, log := log ++ [shutdownComplete] }

theorem forEach_length (f : Dialogue → Dialogue) (log : List Log.Line) (ds : List Dialogue) :
    (forEach f log ds).2.length = ds.length := by
  induction ds generalizing log with
  | nil => rfl
  | cons d ds ih => simp [forEach, ih]

theorem release_of_closed (d : Dialogue) (h : d.session.phase = .closed) : release d = d := by
  simp [release, h]

end Supervisor

end PeeringAgent
