import PeeringAgent.Coordinator.Answer
import PeeringAgent.Supervisor

/-!
# What happens to an agent that is up

Coordinators send, streams end, the clock ticks, the user interrupts. The
supervisor deals with one event completely before the next, except that a release
waits for the tasks of its session. Calls that an event leads to are made session by
session.
-/

set_option autoImplicit false

namespace PeeringAgent

inductive Event
  | tick
  | arrival (session : Nat) (arrival : Arrival)
  | finished (session : Nat)
  | interrupt
  /-- There is no signal to wait for. -/
  | signalLost (cause : String)
deriving Inhabited

namespace Supervisor

/-- What an event leaves to be done. -/
inductive Demand
  | nothing
  | restart
  | stop
  /-- The event has to wait until a release has ended. -/
  | later

/-- Hears end events and ends releases, up to a number of steps. -/
def attendWithin : Nat → Supervisor → Supervisor
  | 0, s => s
  | n + 1, s =>
    match s.finishRelease?.or s.hear? with
    | some s' => attendWithin n s'
    | none => s

/-- Each end event is heard once, and leads to one release at most. -/
def attend (s : Supervisor) : Supervisor := s.attendWithin (2 * s.notices.length + 1)

/-- Something happens to one dialogue, and the supervisor hears of it. -/
def concern (s : Supervisor) (index : Nat) (f : Dialogue → Dialogue) : Supervisor :=
  match s.dialogues[index]? with
  | none => s
  | some d => (s.update index (f d)).attend

def finishStream (d : Dialogue) : Dialogue :=
  { d with coordinator := d.coordinator.finish.1 }.settle

def react (s : Supervisor) : Event → Supervisor × Demand
  | .arrival i a => (s.concern i fun d => (d.arrive a).1, .nothing)
  | .finished i => (s.concern i finishStream, .nothing)
  | .tick =>
    if s.mode = .watching then
      let (s, restart) := s.tick
      (s, if restart then .restart else .nothing)
    else (s, .later)
  | .interrupt =>
    if s.mode = .watching then (s.shutDown interrupted, .stop) else (s, .later)
  | .signalLost cause =>
    if s.mode = .watching then (s.shutDown (Supervisor.signalLost cause), .stop) else (s, .later)

/-! ## Calls -/

/-- All sessions before an event, with no call made. -/
def renew (ds : List Dialogue) : List Dialogue :=
  ds.map fun d => { d with coordinator := d.coordinator.renew }

def learn (ds : List Dialogue) (index : Nat) (c : Call) (a : Answer) : List Dialogue :=
  ds.modify index fun d => { d with coordinator := d.coordinator.learn c a }

/-- The first call that is left, given how many each session has made. -/
def nextCall? (made : List Nat) (ds : List Dialogue) : Option (Nat × Call) :=
  (ds.zip made).zipIdx.findSome? fun ((d, n), i) => d.coordinator.calls[n]?.map (i, ·)

end Supervisor

end PeeringAgent
