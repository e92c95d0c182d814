import PeeringAgent.Policy

/-!
# What a session needs to know
-/

set_option autoImplicit false

namespace PeeringAgent

structure SessionConfig where
  address : String
  credentials : Wire.Credentials
  interfaces : List Wire.PortRange
  policies : List Policy
  /-- Backlog above which a lagging dispatcher is reported. -/
  backlogWarn : Nat
deriving DecidableEq

namespace SessionConfig

/-- The client that a session authenticates as gives it its name. -/
def name (c : SessionConfig) : String := c.credentials.client

/-- All policy records of a session, always pushed together. -/
def records (c : SessionConfig) : List Wire.PolicyRecord :=
  Policy.toRecords c.credentials.asn c.policies

end SessionConfig

end PeeringAgent
