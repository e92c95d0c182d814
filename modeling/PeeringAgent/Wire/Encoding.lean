import PeeringAgent.Json.Value
import PeeringAgent.Wire.Message

/-!
# Messages as JSON

Each message has one compact JSON form. Members come in declaration order, a
tag comes first, and an absent optional member is left out.
-/

set_option autoImplicit false

namespace PeeringAgent.Wire

open PeeringAgent.Json (Value)

/-- A member that is always present. -/
def always (name : String) (v : Value) : List (Json.Text × Value) := [(some name, v)]

/-- A member that is present when it has a value. -/
def whenSome {α : Type} (name : String) (toJson : α → Value) :
    Option α → List (Json.Text × Value)
  | none => []
  | some a => always name (toJson a)

def word (s : String) : Value := Value.ofString s

def LinkKind.word : LinkKind → String
  | .peering => "PEERING"
  | .core => "CORE"
  | .provider => "PROVIDER"

def UpdateKind.word : UpdateKind → String
  | .create => "CREATE"
  | .destroy => "DESTROY"

def ArbitrationStatus.word : ArbitrationStatus → String
  | .notPrimary => "NOT_PRIMARY"
  | .primary => "PRIMARY"
  | .error => "ERROR"

def Credentials.toJson (c : Credentials) : Value :=
  .object (always "asn" (word c.asn) ++ always "client" (word c.client) ++
    always "token" (word c.token))

def PortRange.toJson (r : PortRange) : Value :=
  .object (always "interfaceVlan" (word r.interfaceVlan) ++
    always "interfaceIp" (word r.interfaceIp) ++
    always "firstPort" (.ofNat r.firstPort.toNat) ++
    always "lastPort" (.ofNat r.lastPort.toNat))

def Endpoint.toJson (e : Endpoint) : Value :=
  .object (always "ip" (word e.ip) ++ always "port" (.ofNat e.port.toNat))

def LinkUpdate.members (u : LinkUpdate) : List (Json.Text × Value) :=
  always "type" (word (UpdateKind.word u.updateKind)) ++
  always "linkType" (word (LinkKind.word u.linkKind)) ++
  always "peerAsn" (word u.peerAsn) ++
  whenSome "local" Endpoint.toJson u.local? ++
  whenSome "remote" Endpoint.toJson u.remote?

def LinkUpdate.toJson (u : LinkUpdate) : Value := .object u.members

def ArbitrationUpdate.members (u : ArbitrationUpdate) : List (Json.Text × Value) :=
  whenSome "vlan" word u.vlan ++
  always "electionId" (.ofNat u.electionId.toNat) ++
  always "status" (word (ArbitrationStatus.word u.status))

def ArbitrationUpdate.toJson (u : ArbitrationUpdate) : Value := .object u.members

def ErrorNotice.members (n : ErrorNotice) : List (Json.Text × Value) :=
  always "message" (word n.message)

def ErrorNotice.toJson (n : ErrorNotice) : Value := .object n.members

def tagName : String := "kind"

def tagged (tag : String) (members : List (Json.Text × Value)) : Value :=
  .object (always tagName (word tag) ++ members)

def StreamRequest.toJson : StreamRequest → Value
  | .arbitration u => tagged "arbitration" u.members
  | .linkUpdate u => tagged "link_update" u.members

def StreamResponse.toJson : StreamResponse → Value
  | .arbitration u => tagged "arbitration" u.members
  | .linkUpdate u => tagged "link_update" u.members
  | .error n => tagged "error" n.members

def PeerSelector.toJson : PeerSelector → Value
  | .asn s => .object (always "asn" (word s))
  | .owner s => .object (always "owner" (word s))
  | .isd s => .object (always "isd" (word s))

def PolicyRecord.toJson (p : PolicyRecord) : Value :=
  .object (always "vlan" (word p.vlan) ++ always "asn" (word p.asn) ++
    always "accept" (.bool p.accept) ++ whenSome "peer" PeerSelector.toJson p.peer)

def Reply.toJson (r : Reply) : Value :=
  .object (whenSome "error" word r.error ++
    if r.errors.isEmpty then [] else always "errors" (.array (r.errors.map word)))

end PeeringAgent.Wire
