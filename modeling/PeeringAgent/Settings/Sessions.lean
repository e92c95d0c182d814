import PeeringAgent.Policy.File
import PeeringAgent.Session.Config
import PeeringAgent.Settings

/-!
# Sessions out of settings

Every connection makes one session with its own policies. The first policy file
that cannot be loaded ends the attempt; what the files before it were warned
about stays reported.
-/

set_option autoImplicit false

namespace PeeringAgent.Settings

def Interface.range (i : Interface) : Wire.PortRange :=
  { interfaceVlan := i.vlan, interfaceIp := i.ip
    firstPort := i.firstPort.toUInt32, lastPort := i.lastPort.toUInt32 }

def Connection.session (s : Settings) (policies : List Policy) (c : Connection) : SessionConfig :=
  { address := c.coordinator
    credentials := { asn := s.asn, client := c.clientName, token := c.secret }
    interfaces := c.interfaces.map Interface.range
    policies
    backlogWarn := s.backlogWarn.toNat }

variable {m : Type → Type} [Monad m]

def sessionsOf (files : Files m) (s : Settings) :
    List Connection → m (List Log.Line × Except Policy.FileError (List SessionConfig))
  | [] => return ([], .ok [])
  | c :: cs => do
    match ← Policy.load files c.policies with
    | .error e => return ([], .error e)
    | .ok policies =>
      let (lines, result) ← sessionsOf files s cs
      return (Policy.warnings policies ++ lines, result.map (Connection.session s policies c :: ·))

/-- One session for each connection, in order. -/
def sessions (files : Files m) (s : Settings) :
    m (List Log.Line × Except Policy.FileError (List SessionConfig)) :=
  sessionsOf files s s.connections

end PeeringAgent.Settings
