import PeeringAgent.Reconciler
import PeeringAgent.Reconciler.Schedule

/-!
# Ticks on a clock

A reconciler on a clock of its own: ticks by any number of schedules, each held up
by its own restart actions, and ticks by hand in between. An action run keeps the
duration and the outcome it began with. The clock counts milliseconds unless it is
given a finer unit.
-/

set_option autoImplicit false

namespace PeeringAgent.Reconciler

/-- How runs of the restart action go that begin from now on. -/
structure Action where
  duration : Nat
  outcome : RestartOutcome

def Action.instant : Action := ⟨0, .ok ()⟩

/-- A run of the action that has not ended yet. -/
structure ActionRun where
  ends : Nat
  outcome : RestartOutcome

/-- One schedule of ticks. -/
structure Ticker where
  due : Nat
  run : Option ActionRun

/-- When a ticker acts next: at the end of its action, or with its next tick. -/
def Ticker.next (clock : Nat) (k : Ticker) : Nat :=
  match k.run with
  | some run => max clock run.ends
  | none => begin k.due clock

/-- The ticker that acts first, and the others; of two at the same time, the one in
front is the first. -/
def Ticker.first? (clock : Nat) : List Ticker → Option (Ticker × List Ticker)
  | [] => none
  | k :: ks =>
    match first? clock ks with
    | some (j, others) =>
      if j.next clock < k.next clock then some (j, k :: others) else some (k, ks)
    | none => some (k, ks)

/-- A tick of a schedule that has begun. -/
structure Tick where
  begun : Nat
  /-- How long its action takes; nothing if it runs none. -/
  duration : Nat
  swept : Sweep

structure Timeline where
  clock : Nat
  /-- A millisecond on this clock. -/
  millisecond : Nat
  interval : Nat
  sites : List Site
  action : Action
  /-- In the order in which they began to wait. -/
  tickers : List Ticker
  ticks : List Tick
  /-- When action runs began. -/
  begun : List Nat
  log : List Log.Line

namespace Timeline

def start (interval : Nat) (sessions : List String) : Timeline :=
  { clock := 0, millisecond := 1, interval, sites := sessions.map fun name => ⟨name, .empty⟩
    action := .instant, tickers := [], ticks := [], begun := [], log := [] }

def leeway (t : Timeline) : Nat := tolerance * t.millisecond

def say (t : Timeline) (lines : List Log.Line) : Timeline := { t with log := t.log ++ lines }

def updateStore (t : Timeline) (index : Nat) (f : LinkStore → LinkStore) : Timeline :=
  { t with sites := t.sites.modify index fun s => { s with store := f s.store } }

/-- Passes over the stores now; the answer tells whether a restart is due. -/
def passAll (t : Timeline) : Timeline × Bool :=
  let swept := sweep t.sites
  let begun := if swept.restartNeeded then t.begun ++ [t.clock] else t.begun
  (({ t with sites := swept.sites, begun }).say swept.lines, swept.restartNeeded)

/-- A ticker waits behind the others, unless it can go on at once. -/
def await (t : Timeline) (k : Ticker) : Timeline :=
  if k.run.isNone && k.due ≤ t.clock then { t with tickers := k :: t.tickers }
  else { t with tickers := t.tickers ++ [k] }

/-- What a tick would be that begins now. -/
def nextTick (t : Timeline) : Tick :=
  let swept := sweep t.sites
  { begun := t.clock, duration := if swept.restartNeeded then t.action.duration else 0, swept }

/-- A tick of a schedule at the present time. -/
def scheduledTick (t : Timeline) (due : Nat) : Timeline :=
  let next := nextDue t.leeway t.interval due t.clock
  let tick := t.nextTick
  let (t, restart) := { t with ticks := t.ticks ++ [tick] }.passAll
  if tick.duration != 0 then
    t.await ⟨next, some ⟨t.clock + tick.duration, t.action.outcome⟩⟩
  else
    (if restart then t.say (outcomeLines t.action.outcome) else t).await ⟨next, none⟩

/-- What the schedules do next, if that is before the given time. -/
def nextEvent? (t : Timeline) (limit : Nat) : Option Timeline :=
  match Ticker.first? t.clock t.tickers with
  | none => none
  | some (k, others) =>
    let now := k.next t.clock
    if now < limit then
      let t := { t with clock := now, tickers := others }
      match k.run with
      | some run => some ((t.say (outcomeLines run.outcome)).await ⟨k.due, none⟩)
      | none => some (t.scheduledTick k.due)
    else none

def runWithin : Nat → Nat → Timeline → Timeline
  | 0, _, t => t
  | n + 1, limit, t =>
    match t.nextEvent? limit with
    | some t' => runWithin n limit t'
    | none => t

/-- Events before a time: every tick moves the due time on by the interval, and an
action run may end after each. -/
def eventBound (t : Timeline) (limit : Nat) : Nat :=
  t.tickers.foldl (fun n k => n + 2 * ((limit - k.due) / t.interval + 2)) 0

/-- Time passes; what falls into it happens in order. What falls on its very end is
left for the time after. -/
def advance (t : Timeline) (duration : Nat) : Timeline :=
  let limit := t.clock + duration
  { t.runWithin (t.eventBound limit) limit with clock := limit }

/-- A tick by hand. Time passes while its action runs. -/
def tick (t : Timeline) : Timeline × Bool :=
  let action := t.action
  let (t, restart) := t.passAll
  if restart then
    let t := if action.duration = 0 then t else t.advance action.duration
    (t.say (outcomeLines action.outcome), true)
  else (t, false)

/-- Starts one more schedule; its first tick is due at once. Without an interval
there is nothing to go by, and no tick ever comes. -/
def startTicker (t : Timeline) : Timeline :=
  if t.interval = 0 then t else { t with tickers := t.tickers ++ [⟨t.clock, none⟩] }

end Timeline

end PeeringAgent.Reconciler
