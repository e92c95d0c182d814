import PeeringAgent.Dialogue

/-!
# Until idle

One schedule of a session's tasks: they take turns until neither has anything to
do. How much is left to do bounds the number of turns.
-/

set_option autoImplicit false

namespace PeeringAgent.Dialogue

def receiverMoves : List Move := [.receive]

def dispatcherMoves : List Move :=
  [.startPush, .resumePush, .dispatchArbitration, .dispatchDirective, .closeArbitrations,
   .closeDirectives, .stopDispatcher]

/-- A step of a task. It does not pause between publishing a role and the push it calls for. -/
def taskStep? (moves : List Move) (d : Dialogue) : Option Dialogue :=
  (moves.findSome? d.move?).map fun d' => d'.startPush?.getD d'

/-- A task goes on as long as it can, up to a number of steps. -/
def goOn (moves : List Move) : Nat → Dialogue → Dialogue
  | 0, d => d
  | n + 1, d =>
    match taskStep? moves d with
    | some d' => goOn moves n d'
    | none => d

/-- A task that has done this much gives way to the other. -/
def turnLength : Nat := 128

/-- A turn of the receiver, then one of the dispatcher. -/
def takeTurns (d : Dialogue) : Dialogue :=
  goOn dispatcherMoves turnLength (goOn receiverMoves turnLength d)

def settleWithin : Nat → Dialogue → Dialogue
  | 0, d => d
  | n + 1, d => settleWithin n d.takeTurns

def receiverWork (s : Session) : Nat := if s.receiver = .reading then 1 else 0

/-- A dispatcher has a push to end, two queues to find closed and itself to stop. -/
def dispatcherWork (s : Session) : Nat :=
  match s.dispatcher with
  | .waiting => 1 + s.arbitrationsWatched.toNat + s.directivesWatched.toNat
  | .pushing => 2 + s.arbitrationsWatched.toNat + s.directivesWatched.toNat
  | .promoted => 3 + s.arbitrationsWatched.toNat + s.directivesWatched.toNat
  | .absent => 0
  | .ended => 0
  | .panicked => 0
  | .cancelled => 0

/-- A message is read, taken from a queue and perhaps pushed for and waited for. -/
def work (s : Session) (c : Coordinator) : Nat :=
  4 * c.inbox.length + 3 * s.arbitrations.size + s.directives.size + receiverWork s +
  dispatcherWork s

/-- No more steps of the tasks than this are possible. -/
def workLeft (d : Dialogue) : Nat := work d.session d.coordinator

/-- Both tasks run until neither has anything to do. -/
def settle (d : Dialogue) : Dialogue := settleWithin (d.workLeft / turnLength + 2) d

/-- Something from the coordinator arrives on the stream; the answer tells
whether it still has a reader. -/
def arrive (d : Dialogue) (a : Arrival) : Dialogue × Bool :=
  let (c, reached) := d.coordinator.put a
  ({ d with coordinator := c }.settle, reached)

end PeeringAgent.Dialogue
