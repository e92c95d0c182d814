import PeeringAgent.Text.Decimal

/-!
# Addresses of coordinators

An address is a host and a port with a colon in between. What is no address is
refused before anything is dialed.
-/

set_option autoImplicit false

namespace PeeringAgent.Address

/-- Why a text is no address. -/
inductive Malformed
  | noPort
  | badPort
deriving DecidableEq

def Malformed.message : Malformed → String
  | noPort => "invalid socket address"
  | badPort => "invalid port value"

/-- Host and port around the last colon. -/
def split? (address : String) : Option (List Char × List Char) :=
  let cs := address.toList.reverse
  match cs.dropWhile (· != ':') with
  | _ :: host => some (host.reverse, (cs.takeWhile (· != ':')).reverse)
  | [] => none

/-- A port number; a plus sign may stand in front of it. -/
def port? (s : List Char) : Option Nat :=
  let ds := match s with
    | '+' :: ds => ds
    | ds => ds
  (Text.Decimal.natural? ds).filter (· < 65536)

def malformed? (address : String) : Option Malformed :=
  match split? address with
  | none => some .noPort
  | some (_, port) => if (port? port).isNone then some .badPort else none

def refused : String := "Connection refused (os error 111)"

end PeeringAgent.Address
