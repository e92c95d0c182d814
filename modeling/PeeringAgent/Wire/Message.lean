import PeeringAgent.Link

/-!
# Messages on the wire

What agent and coordinator say to each other: credentials and port ranges,
arbitration and link updates on the persistent stream, and policy records.
-/

set_option autoImplicit false

namespace PeeringAgent.Wire

structure Credentials where
  asn : String
  client : String
  token : String
deriving DecidableEq

structure PortRange where
  interfaceVlan : String
  interfaceIp : String
  firstPort : UInt32
  lastPort : UInt32
deriving DecidableEq

structure Endpoint where
  ip : String
  port : UInt32
deriving DecidableEq

inductive UpdateKind
  | create
  | destroy
deriving DecidableEq

structure LinkUpdate where
  updateKind : UpdateKind
  linkKind : LinkKind
  peerAsn : String
  local? : Option Endpoint
  remote? : Option Endpoint
deriving DecidableEq

inductive ArbitrationStatus
  | notPrimary
  | primary
  | error
deriving DecidableEq

structure ArbitrationUpdate where
  vlan : Option String
  electionId : UInt64
  status : ArbitrationStatus
deriving DecidableEq

structure ErrorNotice where
  message : String
deriving DecidableEq

/-- What the agent sends on the stream. -/
inductive StreamRequest
  | arbitration (update : ArbitrationUpdate)
  | linkUpdate (update : LinkUpdate)
deriving DecidableEq

/-- What the coordinator sends on the stream. -/
inductive StreamResponse
  | arbitration (update : ArbitrationUpdate)
  | linkUpdate (update : LinkUpdate)
  | error (notice : ErrorNotice)
deriving DecidableEq

inductive PeerSelector
  | asn (value : String)
  | owner (value : String)
  | isd (value : String)
deriving DecidableEq

structure PolicyRecord where
  vlan : String
  asn : String
  accept : Bool
  peer : Option PeerSelector
deriving DecidableEq

/-- The answer to a call. -/
structure Reply where
  error : Option String
  errors : List String
deriving DecidableEq

/-- Every agent bids for write access with this election id. -/
def electionId : UInt64 := 100

def bid : ArbitrationUpdate := ⟨none, electionId, .notPrimary⟩

end PeeringAgent.Wire
