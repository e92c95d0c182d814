import PeeringAgent.Wire.Encoding

/-!
# Reading messages

A record is an object with its fields in any order, unknown members ignored
and no field given twice, or an array of its fields in declaration order. A
tagged message is held back until its tag is known, so all of it has to be
proper: numbers within the doubles, strings with a text, limited nesting.
-/

set_option autoImplicit false

namespace PeeringAgent.Wire

open PeeringAgent.Json (Value)

/-- Whether a value is read as it comes or out of a message that was held back. -/
inductive Reading
  | direct
  | heldBack
deriving DecidableEq

/-- What an object gives for one field: at most one member may name it. -/
def member? (name : String) (ms : List (Json.Text × Value)) : Option (Option Value) :=
  match ms.filter fun m => m.1 = some name with
  | [] => some none
  | [m] => some (some m.2)
  | _ => none

/-- What a record gives for each of its declared fields. -/
def fields? (names : List String) : Value → Option (List (Option Value))
  | .array vs =>
    if vs.length ≤ names.length then
      some (vs.map some ++ List.replicate (names.length - vs.length) none)
    else none
  | .object ms =>
    if ms.all fun m => m.1.isSome then names.mapM fun name => member? name ms else none
  | _ => none

def required {α : Type} (ofJson? : Value → Option α) : Option Value → Option α
  | some v => ofJson? v
  | none => none

def optional {α : Type} (ofJson? : Value → Option α) : Option Value → Option (Option α)
  | none => some none
  | some .null => some none
  | some v => (ofJson? v).map some

def defaulted {α : Type} (default : α) (ofJson? : Value → Option α) :
    Option Value → Option α
  | none => some default
  | some v => ofJson? v

def text? : Value → Option String
  | .text s => s
  | _ => none

def flag? : Value → Option Bool
  | .bool b => some b
  | _ => none

def natural? : Value → Option Nat
  | .number n => n.toNat?
  | _ => none

def word32? (v : Value) : Option UInt32 := do
  let n ← natural? v
  if n < UInt32.size then some (.ofNat n) else none

def word64? (v : Value) : Option UInt64 := do
  let n ← natural? v
  if n < UInt64.size then some (.ofNat n) else none

def texts? : Value → Option (List String)
  | .array vs => vs.mapM text?
  | _ => none

/-- The name of a choice without content: alone, or the only member of an
object with nothing behind it. -/
def choice? (reading : Reading) : Value → Option String
  | .text s => s
  | .object [(name, .null)] => name
  | .object [(name, .object [])] => if reading = .heldBack then name else none
  | _ => none

def LinkKind.ofWord? : String → Option LinkKind
  | "PEERING" => some .peering
  | "CORE" => some .core
  | "PROVIDER" => some .provider
  | _ => none

def UpdateKind.ofWord? : String → Option UpdateKind
  | "CREATE" => some .create
  | "DESTROY" => some .destroy
  | _ => none

def ArbitrationStatus.ofWord? : String → Option ArbitrationStatus
  | "NOT_PRIMARY" => some .notPrimary
  | "PRIMARY" => some .primary
  | "ERROR" => some .error
  | _ => none

def Credentials.ofJson? (v : Value) : Option Credentials := do
  let [asn, client, token] ← fields? ["asn", "client", "token"] v | none
  return { asn := ← required text? asn
           client := ← required text? client
           token := ← required text? token }

def PortRange.ofJson? (v : Value) : Option PortRange := do
  let [vlan, ip, first, last] ←
    fields? ["interfaceVlan", "interfaceIp", "firstPort", "lastPort"] v | none
  return { interfaceVlan := ← required text? vlan
           interfaceIp := ← required text? ip
           firstPort := ← required word32? first
           lastPort := ← required word32? last }

def Endpoint.ofJson? (v : Value) : Option Endpoint := do
  let [ip, port] ← fields? ["ip", "port"] v | none
  return { ip := ← required text? ip
           port := ← required word32? port }

def LinkUpdate.ofJson? (reading : Reading) (v : Value) : Option LinkUpdate := do
  let [kind, linkKind, peerAsn, near, far] ←
    fields? ["type", "linkType", "peerAsn", "local", "remote"] v | none
  return { updateKind := ← required (fun v => choice? reading v >>= UpdateKind.ofWord?) kind
           linkKind := ← required (fun v => choice? reading v >>= LinkKind.ofWord?) linkKind
           peerAsn := ← defaulted "" text? peerAsn
           local? := ← optional Endpoint.ofJson? near
           remote? := ← optional Endpoint.ofJson? far }

def ArbitrationUpdate.ofJson? (reading : Reading) (v : Value) : Option ArbitrationUpdate := do
  let [vlan, electionId, status] ← fields? ["vlan", "electionId", "status"] v | none
  return { vlan := ← optional text? vlan
           electionId := ← required word64? electionId
           status := ← defaulted .notPrimary
             (fun v => choice? reading v >>= ArbitrationStatus.ofWord?) status }

def ErrorNotice.ofJson? (v : Value) : Option ErrorNotice := do
  let [message] ← fields? ["message"] v | none
  return { message := ← required text? message }

/-- A message may not be nested deeper than this to be held back. -/
def nestingLimit : Nat := 127

def canHoldBack (v : Value) : Bool := v.depth ≤ nestingLimit && v.isProper

/-- The tag of a message that was held back, and the record it announces. -/
def split? (v : Value) : Option (String × Value) :=
  if canHoldBack v then
    match v with
    | .array (.text (some tag) :: vs) => some (tag, .array vs)
    | .object ms =>
      match member? tagName ms with
      | some (some (.text (some tag))) =>
        some (tag, .object (ms.filter fun m => m.1 ≠ some tagName))
      | _ => none
    | _ => none
  else none

def StreamRequest.ofJson? (v : Value) : Option StreamRequest :=
  match split? v with
  | some ("arbitration", r) => (ArbitrationUpdate.ofJson? .heldBack r).map .arbitration
  | some ("link_update", r) => (LinkUpdate.ofJson? .heldBack r).map .linkUpdate
  | _ => none

def StreamResponse.ofJson? (v : Value) : Option StreamResponse :=
  match split? v with
  | some ("arbitration", r) => (ArbitrationUpdate.ofJson? .heldBack r).map .arbitration
  | some ("link_update", r) => (LinkUpdate.ofJson? .heldBack r).map .linkUpdate
  | some ("error", r) => (ErrorNotice.ofJson? r).map .error
  | _ => none

def PeerSelector.ofJson? : Value → Option PeerSelector
  | .object [(some "asn", v)] => (text? v).map .asn
  | .object [(some "owner", v)] => (text? v).map .owner
  | .object [(some "isd", v)] => (text? v).map .isd
  | _ => none

def PolicyRecord.ofJson? (v : Value) : Option PolicyRecord := do
  let [vlan, asn, accept, peer] ← fields? ["vlan", "asn", "accept", "peer"] v | none
  return { vlan := ← required text? vlan
           asn := ← required text? asn
           accept := ← required flag? accept
           peer := ← optional PeerSelector.ofJson? peer }

def Reply.ofJson? (v : Value) : Option Reply := do
  let [error, errors] ← fields? ["error", "errors"] v | none
  return { error := ← optional text? error
           errors := ← defaulted [] texts? errors }

/-- A message out of a whole JSON text. -/
def decode? {α : Type} (ofJson? : Value → Option α) (s : List Char) : Option α :=
  Json.Value.parse? s >>= ofJson?

/-- The compact text of a message. -/
def encode {α : Type} (toJson : α → Value) (a : α) : List Char := (toJson a).render

end PeeringAgent.Wire
