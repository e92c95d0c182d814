import PeeringAgent.Transport.Framing

/-!
# A coordinator

The other side of a session: how it answers calls, what it has put on the
stream, and the calls that reached it. It stands for one channel, whose stream can be
opened once. An agent connects each session once; a session that connected again over a
new channel would have a stream for each, and here the second attempt fails instead.
-/

set_option autoImplicit false

namespace PeeringAgent

/-- A call that a session makes; it counts from its start, also when it fails. -/
inductive Call
  | connect (address : String) (credentials : Wire.Credentials)
  | openStream
  | send (request : Wire.StreamRequest)
  | setPortRange (range : Wire.PortRange)
  | setPolicies (records : List Wire.PolicyRecord)
  | closeSend
  | close
deriving DecidableEq

/-- How a coordinator answers; a call without an error here succeeds. -/
structure Behaviour where
  connectError : Option TransportError
  streamError : Option TransportError
  sendError : Option TransportError
  /-- Errors by the VLAN of the port range. -/
  portRangeErrors : List (String × TransportError)
  policiesError : Option TransportError
  /-- What a successful push of policies complains about. -/
  policyErrors : List String
  /-- A push of policies brings the dispatcher down. -/
  policiesPanic : Bool

def Behaviour.agreeable : Behaviour :=
  { connectError := none, streamError := none, sendError := none, portRangeErrors := []
    policiesError := none, policyErrors := [], policiesPanic := false }

/-- What a session's receiver finds on the stream. -/
inductive Arrival
  | message (response : Wire.StreamResponse)
  | failure (error : TransportError)
deriving DecidableEq

/-- What the next frame is to a receiver; nothing at the end of the stream. -/
def Arrival.ofNext? : Frame.Next Wire.StreamResponse → Option Arrival
  | .message m => some (.message m)
  | .failure e => some (.failure e)
  | .finished => none

/-- The session's end of the stream. -/
inductive StreamEnd
  | offered
  | taken
  | dropped
deriving DecidableEq

structure Coordinator where
  behaviour : Behaviour
  /-- Pushes of policies wait. -/
  held : Bool
  stream : StreamEnd
  /-- The coordinator has ended its side of the stream. -/
  finished : Bool
  inbox : List Arrival
  calls : List Call

namespace Coordinator

def start (behaviour : Behaviour) : Coordinator :=
  { behaviour, held := false, stream := .offered, finished := false, inbox := [], calls := [] }

def record (c : Coordinator) (call : Call) : Coordinator := { c with calls := c.calls ++ [call] }

/-- Whether something put on the stream still has a reader, now or later. -/
def reaches (c : Coordinator) : Bool := !c.finished && c.stream != .dropped

def put (c : Coordinator) (a : Arrival) : Coordinator × Bool :=
  if c.reaches then ({ c with inbox := c.inbox ++ [a] }, true) else (c, false)

/-- Ends the stream; the answer tells whether it was still open. -/
def finish (c : Coordinator) : Coordinator × Bool := ({ c with finished := true }, !c.finished)

def hold (c : Coordinator) : Coordinator × Bool := ({ c with held := true }, c.held)

def release (c : Coordinator) : Coordinator × Bool := ({ c with held := false }, c.held)

/-- Why the stream cannot be opened, if so; a stream that has been opened is not opened again. -/
def openError (c : Coordinator) : Option TransportError :=
  match c.behaviour.streamError with
  | some e => some e
  | none => if c.stream = .offered then none else some .closed

def dropStream (c : Coordinator) : Coordinator :=
  if c.stream = .taken then { c with stream := .dropped, inbox := [] } else c

theorem record_calls (c : Coordinator) (call : Call) :
    (c.record call).calls = c.calls ++ [call] := rfl

theorem put_fst_of_not_reaches (c : Coordinator) (a : Arrival) (h : c.reaches = false) :
    c.put a = (c, false) := by
  simp [put, h]

end Coordinator

end PeeringAgent
