import PeeringAgent.Transport.Address
import PeeringAgent.Transport.Network

/-!
# A coordinator on the loopback interface

A scripted coordinator at the other end of a channel. On each connection it
waits for one line, sends its reply, and takes down what else arrives. It needs
a host that lets it listen.
-/

set_option autoImplicit false

namespace PeeringAgent

/-- What a host offers. -/
structure Host where
  /-- A program may listen on the loopback interface. -/
  loopback : Bool
deriving DecidableEq

namespace Loopback

abbrev Step := Network.Step

abbrev Answer := Network.Answer

/-- Who is dialed. -/
inductive Target
  | coordinator
  | nobody
  | elsewhere (address : String)
deriving DecidableEq

/-- Why nobody answers there. -/
def Target.cause? : Target → Option String
  | .coordinator => none
  | .nobody => some Address.refused
  | .elsewhere address =>
    match Address.malformed? address with
    | some m => some m.message
    | none => some Address.refused

def Exchange.dialError? (address : String) (target : Target) : Option TransportError :=
  target.cause?.map (.connect address)

/-- Connections to a target; without a script the coordinator ends them at once. -/
def contacts (target : Target) (replies : List Frame.Bytes) (n : Nat) : Network.Contact :=
  { Network.Contact.saying (replies.getD n []) with unreachable := target.cause?.map .fails }

/-- Connects and runs the steps; the first answer is that of connecting. -/
def run (address : String) (target : Target) (credentials : Wire.Credentials)
    (replies : List Frame.Bytes) (steps : List Step) : Network.Client × List Answer :=
  let contacts := contacts target replies
  match Network.connect address credentials contacts with
  | .error halt =>
    (.new address credentials contacts,
     (Network.Answer.of? (fun _ => .done) (.error halt : Except _ Unit)).toList)
  | .ok c =>
    let (c, answers) := c.run steps
    (c, .done :: answers.filterMap id)

/-- The same on a host; none when nobody can listen there. -/
def runOn? (host : Host) (address : String) (target : Target) (credentials : Wire.Credentials)
    (replies : List Frame.Bytes) (steps : List Step) : Option (Network.Client × List Answer) :=
  if host.loopback then some (run address target credentials replies steps) else none

end Loopback

end PeeringAgent
