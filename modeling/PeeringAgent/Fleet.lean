import PeeringAgent.Dialogue.Settle
import PeeringAgent.Dialogue.Tick

/-!
# Sessions under one reconciler

Several sessions, each with its coordinator, and a reconciler over all of their
stores. A step concerns one session, all of them at a tick, or what stands
around them; after it every task runs until it is idle.
-/

set_option autoImplicit false

namespace PeeringAgent

structure Fleet where
  dialogues : List Dialogue
  /-- How the next runs of the restart action end. -/
  restart : RestartOutcome
  /-- Runs of the restart action so far. -/
  runs : Nat
  log : List Log.Line

namespace Fleet

/-- What is done to one session. -/
inductive Command
  | connect
  | messages (responses : List Wire.StreamResponse)
  | failStream (error : TransportError)
  | endStream
  | behave (behaviour : Behaviour)
  | hold
  | release
  | disconnect
  | closeEnded
  /-- Nobody listens any more for the end of the stream. -/
  | unsupervise

inductive Step
  | session (index : Nat) (command : Command)
  | setRestart (outcome : RestartOutcome)
  | tick

/-- What a step answers. -/
inductive Answer
  | nothing
  | flag (value : Bool)
  | flags (values : List Bool)
  | connected (result : Except SessionError Unit)

def start (sessions : List (SessionConfig × Behaviour)) : Fleet :=
  { dialogues := sessions.map fun (config, behaviour) => .new config behaviour
    restart := .ok (), runs := 0, log := [] }

/-- Messages arrive one after the other; each is dealt with before the next. -/
def arriveAll (d : Dialogue) : List Wire.StreamResponse → Dialogue × List Bool
  | [] => (d, [])
  | m :: ms =>
    let (d, reached) := d.arrive (.message m)
    let (d, more) := arriveAll d ms
    (d, reached :: more)

def obey (d : Dialogue) : Command → Dialogue × Answer
  | .connect =>
    let (d, result) := d.connect
    (d.settle, .connected result)
  | .messages ms =>
    let (d, reached) := arriveAll d ms
    (d, .flags reached)
  | .failStream e =>
    let (d, reached) := d.arrive (.failure e)
    (d, .flag reached)
  | .endStream =>
    let (c, open_) := d.coordinator.finish
    ({ d with coordinator := c }.settle, .flag open_)
  | .behave b => ({ d with coordinator := { d.coordinator with behaviour := b } }.settle, .nothing)
  | .hold =>
    let (c, was) := d.coordinator.hold
    ({ d with coordinator := c }, .flag was)
  | .release =>
    let (c, was) := d.coordinator.release
    ({ d with coordinator := c }.settle, .flag was)
  | .disconnect => (d.disconnect, .nothing)
  | .closeEnded => (d.closeEnded?.getD d, .nothing)
  | .unsupervise => ({ d with supervised := false }, .nothing)

def tick (f : Fleet) : Fleet × Bool :=
  let (dialogues, sweep) := Dialogue.tickAll f.dialogues
  let f := { f with dialogues, log := f.log ++ sweep.lines }
  if sweep.restartNeeded then
    ({ f with runs := f.runs + 1, log := f.log ++ Reconciler.outcomeLines f.restart }, true)
  else (f, false)

def step (f : Fleet) : Step → Fleet × Answer
  | .session i command =>
    match f.dialogues[i]? with
    | some d =>
      let (d, answer) := obey d command
      ({ f with dialogues := f.dialogues.set i d }, answer)
    | none => (f, .nothing)
  | .setRestart outcome => ({ f with restart := outcome }, .nothing)
  | .tick =>
    let (f, restarted) := f.tick
    (f, .flag restarted)

/-- The links that valid updates among the messages name, in order. -/
def linksNamed (ms : List Wire.StreamResponse) : List Link :=
  ms.filterMap fun
    | .linkUpdate u => (LinkDirective.ofUpdate u).toOption.map LinkDirective.link
    | _ => none

end Fleet

end PeeringAgent
