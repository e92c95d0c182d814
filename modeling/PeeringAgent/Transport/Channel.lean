import PeeringAgent.Transport.Framing

/-!
# The channel to a coordinator

Every call sends one request with the credentials on a connection of its own
and takes the first frame that comes back. The connection made when the channel
was set up is kept for the first stream; a closed channel refuses all calls.
-/

set_option autoImplicit false

namespace PeeringAgent

inductive Request
  | stream
  | setPortRange (range : Wire.PortRange)
  | setPolicies (records : List Wire.PolicyRecord)
deriving DecidableEq

def Request.toJson (credentials : Wire.Credentials) : Request → Json.Value
  | .stream => .object (Wire.always "call" (Wire.word "stream") ++
      Wire.always "metadata" credentials.toJson)
  | .setPortRange range => .object (Wire.always "call" (Wire.word "set_port_range") ++
      Wire.always "metadata" credentials.toJson ++ Wire.always "range" range.toJson)
  | .setPolicies records => .object (Wire.always "call" (Wire.word "set_policies") ++
      Wire.always "metadata" credentials.toJson ++
      Wire.always "policies" (.array (records.map Wire.PolicyRecord.toJson)))

structure Channel where
  address : String
  credentials : Wire.Credentials
  /-- The first connection has not been used for a stream yet. -/
  pending : Bool
  closed : Bool
deriving DecidableEq

namespace Channel

def new (address : String) (credentials : Wire.Credentials) : Channel :=
  { address, credentials, pending := true, closed := false }

/-- Which connection a call goes out on. -/
inductive Route
  | first
  | dial
  | refuse
deriving DecidableEq

/-- A stream takes the first connection if nobody has; all else dials anew. -/
def route (c : Channel) : Request → Channel × Route
  | .stream =>
    ({ c with pending := false },
     if c.closed then .refuse else if c.pending then .first else .dial)
  | _ => (c, if c.closed then .refuse else .dial)

def close (c : Channel) : Channel := { c with pending := false, closed := true }

def requestFrame (c : Channel) (r : Request) : Frame.Bytes :=
  Frame.encode (r.toJson c.credentials)

/-- What an answer comes to: a reply with an error is a refusal, whatever else it
says. -/
def outcome : Frame.Next Wire.Reply → Except TransportError Wire.Reply
  | .finished => .error .closed
  | .failure e => .error e
  | .message reply =>
    match reply.error with
    | some text => .error (.rejected text)
    | none => .ok reply

theorem route_of_closed (c : Channel) (r : Request) (h : c.closed = true) :
    (c.route r).2 = .refuse := by
  cases r <;> simp [route, h]

theorem route_of_pending (c : Channel) (unclosed : c.closed = false) (h : c.pending = true) :
    (c.route .stream).2 = .first := by
  simp [route, unclosed, h]

theorem route_of_again (c : Channel) (r : Request) (unclosed : c.closed = false)
    (h : r = .stream → c.pending = false) : (c.route r).2 = .dial := by
  cases r <;> simp_all [route]

@[simp] theorem route_address (c : Channel) (r : Request) : (c.route r).1.address = c.address := by
  cases r <;> rfl

@[simp] theorem route_credentials (c : Channel) (r : Request) :
    (c.route r).1.credentials = c.credentials := by
  cases r <;> rfl

@[simp] theorem route_closed (c : Channel) (r : Request) : (c.route r).1.closed = c.closed := by
  cases r <;> rfl

theorem route_pending (c : Channel) (r : Request) :
    (c.route r).1.pending = true ↔ c.pending = true ∧ r ≠ .stream := by
  cases r <;> simp [route]

end Channel

end PeeringAgent
