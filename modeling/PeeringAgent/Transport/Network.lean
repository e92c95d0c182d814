import PeeringAgent.Transport.Channel

/-!
# Calls over a network

A channel and the connections it dials. Every connection meets a coordinator that says
what it likes, over a network where each operation may fail or never return. A call that
waits forever has no answer; whoever gives it up goes on with the same channel.
-/

set_option autoImplicit false

namespace PeeringAgent.Network

/-- What keeps an operation from success. -/
inductive Obstacle
  | fails (cause : String)
  | hangs
deriving DecidableEq

/-- Why a call comes to nothing. -/
inductive Halt
  | failed (error : TransportError)
  | waits
deriving DecidableEq

def Obstacle.halt (error : String → TransportError) : Obstacle → Halt
  | .fails cause => .failed (error cause)
  | .hangs => .waits

/-- What a connection meets when it is dialed and afterwards. -/
structure Contact where
  unreachable : Option Obstacle
  /-- Why it cannot be set up for frames. -/
  unusable : Option String
  /-- How many bytes can be written, and what comes then. -/
  limit : Option (Nat × Obstacle)
  /-- All that the coordinator says. -/
  incoming : Frame.Bytes
  /-- What comes in place of the end behind it. -/
  cut : Option Obstacle

/-- A coordinator that says this and no more, with nothing in the way. -/
def Contact.saying (incoming : Frame.Bytes) : Contact :=
  { unreachable := none, unusable := none, limit := none, incoming, cut := none }

/-- Whole lines, and the beginning of the next. -/
def wholeLines (bs : Frame.Bytes) : Frame.Bytes × Frame.Bytes :=
  ((bs.reverse.dropWhile (· != Frame.lineFeed)).reverse,
   (bs.reverse.takeWhile (· != Frame.lineFeed)).reverse)

/-- A reader gets a line when its line feed has come, or the end. -/
def Contact.readable (c : Contact) (bs : Frame.Bytes) : Frame.Bytes × Frame.Bytes :=
  match c.cut with
  | none => (bs, [])
  | some _ => wholeLines bs

/-! ## One connection -/

structure Socket where
  contact : Contact
  unread : Frame.Bytes
  written : Frame.Bytes

namespace Socket

def new (contact : Contact) : Socket := { contact, unread := contact.incoming, written := [] }

def write (s : Socket) (bytes : Frame.Bytes) : Socket × Except Halt Unit :=
  match s.contact.limit with
  | none => ({ s with written := s.written ++ bytes }, .ok ())
  | some (limit, obstacle) =>
    let room := limit - s.written.length
    ({ s with written := s.written ++ bytes.take room },
     if bytes.length ≤ room then .ok () else .error (obstacle.halt .io))

def read {α : Type} (s : Socket) (ofJson? : Json.Value → Option α) :
    Socket × Except Halt (Frame.Next α) :=
  let (lines, begun) := s.contact.readable s.unread
  let (found, rest) := Frame.next ofJson? lines
  ({ s with unread := rest ++ begun },
   match found, s.contact.cut with
   | .finished, some obstacle => .error (obstacle.halt .io)
   | found, _ => .ok found)

def reply (s : Socket) : Socket × Except Halt Wire.Reply :=
  match s.read Wire.Reply.ofJson? with
  | (s, .error halt) => (s, .error halt)
  | (s, .ok found) => (s, (Channel.outcome found).mapError .failed)

/-- Sends a request and waits for the reply. -/
def ask (s : Socket) (frame : Frame.Bytes) : Socket × Except Halt Wire.Reply :=
  match s.contact.unusable with
  | some cause => (s, .error (.failed (.io cause)))
  | none =>
    match s.write frame with
    | (s, .error halt) => (s, .error halt)
    | (s, .ok ()) => s.reply

end Socket

/-! ## Calls and streams -/

/-- The send half of a stream may be closed; the receive half stays. -/
structure Stream where
  socket : Nat
  sendClosed : Bool

inductive Step
  | call (request : Request)
  | send (stream : Nat) (request : Wire.StreamRequest)
  | receive (stream : Nat)
  | closeSend (stream : Nat)
  | close

namespace Step

def openStream : Step := .call .stream

def setPortRange (range : Wire.PortRange) : Step := .call (.setPortRange range)

def setPolicies (records : List Wire.PolicyRecord) : Step := .call (.setPolicies records)

end Step

inductive Answer
  | done
  | complaints (errors : List String)
  | message (response : Wire.StreamResponse)
  | finished
  | failed (error : TransportError)

namespace Answer

/-- What a successful call returns. -/
def ofReply : Request → Wire.Reply → Answer
  | .setPolicies _, reply => .complaints reply.errors
  | _, _ => .done

def ofNext : Frame.Next Wire.StreamResponse → Answer
  | .message m => .message m
  | .failure error => .failed error
  | .finished => .finished

/-- None while the call waits. -/
def of? {α : Type} (success : α → Answer) : Except Halt α → Option Answer
  | .ok a => some (success a)
  | .error (.failed error) => some (.failed error)
  | .error .waits => none

end Answer

/-- A channel with what it has dialed and opened so far. -/
structure Client where
  channel : Channel
  /-- What the connections meet, in the order in which they are dialed. -/
  contacts : Nat → Contact
  dials : Nat
  sockets : List Socket
  streams : List Stream

namespace Client

def new (address : String) (credentials : Wire.Credentials) (contacts : Nat → Contact) : Client :=
  { channel := .new address credentials, contacts, dials := 0, sockets := [], streams := [] }

def dial (c : Client) : Client × Except Halt Nat :=
  let contact := c.contacts c.dials
  let c := { c with dials := c.dials + 1 }
  match contact.unreachable with
  | some obstacle => (c, .error (obstacle.halt (.connect c.channel.address)))
  | none => ({ c with sockets := c.sockets ++ [.new contact] }, .ok c.sockets.length)

/-- An operation on one of the connections. -/
def through {α : Type} (c : Client) (n : Nat) (operation : Socket → Socket × Except Halt α) :
    Client × Except Halt α :=
  match c.sockets[n]? with
  | none => (c, .error (.failed .closed))
  | some s =>
    let (s, result) := operation s
    ({ c with sockets := c.sockets.set n s }, result)

/-- The connection for a request. -/
def connection (c : Client) (r : Request) : Client × Except Halt Nat :=
  let (channel, route) := c.channel.route r
  let c := { c with channel }
  match route with
  | .refuse => (c, .error (.failed .closed))
  | .first => (c, .ok 0)
  | .dial => c.dial

/-- A stream that is accepted stays open on its connection. -/
def openedOn (c : Client) (n : Nat) : Request → Except Halt Wire.Reply → Client
  | .stream, .ok _ => { c with streams := c.streams ++ [⟨n, false⟩] }
  | _, _ => c

def call (c : Client) (r : Request) : Client × Except Halt Wire.Reply :=
  match c.connection r with
  | (c, .error halt) => (c, .error halt)
  | (c, .ok n) =>
    let (c, result) := c.through n fun s => s.ask (c.channel.requestFrame r)
    (c.openedOn n r result, result)

def step (c : Client) : Step → Client × Option Answer
  | .call r =>
    let (c, result) := c.call r
    (c, Answer.of? (.ofReply r) result)
  | .send i request =>
    match c.streams[i]? with
    | some ⟨n, false⟩ =>
      let (c, result) := c.through n fun s => s.write (Frame.encode request.toJson)
      (c, Answer.of? (fun _ => .done) result)
    | _ => (c, some (.failed .closed))
  | .receive i =>
    match c.streams[i]? with
    | none => (c, some (.failed .closed))
    | some stream =>
      let (c, result) := c.through stream.socket fun s => s.read Wire.StreamResponse.ofJson?
      (c, Answer.of? .ofNext result)
  | .closeSend i =>
    ({ c with streams := c.streams.modify i fun s => { s with sendClosed := true } }, some .done)
  | .close => ({ c with channel := c.channel.close }, some .done)

/-- The answers to some steps, one after another. -/
def run (c : Client) : List Step → Client × List (Option Answer)
  | [] => (c, [])
  | s :: ss =>
    let (c, a) := c.step s
    let (c, as) := c.run ss
    (c, a :: as)

end Client

/-- A channel whose first connection has been dialed. -/
def connect (address : String) (credentials : Wire.Credentials) (contacts : Nat → Contact) :
    Except Halt Client :=
  match (Client.new address credentials contacts).dial with
  | (c, .ok _) => .ok c
  | (_, .error halt) => .error halt

end PeeringAgent.Network
