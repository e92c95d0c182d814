import PeeringAgent.Wire.Message
import PeeringAgent.Text.Quoted

/-!
# Link directives

A link update becomes a directive when it has both endpoints and both ports fit
sixteen bits. The first thing missing or too large is the reported cause.
-/

set_option autoImplicit false

namespace PeeringAgent

inductive LinkDirective
  | create (link : Link)
  | destroy (link : Link)
deriving DecidableEq

namespace LinkDirective

inductive Invalid
  | missingLocal
  | missingRemote
  | portOutOfRange (port : UInt32)
deriving DecidableEq

def Invalid.message : Invalid → String
  | missingLocal => "link update is missing the local endpoint"
  | missingRemote => "link update is missing the remote endpoint"
  | portOutOfRange port => "port " ++ toString port.toNat ++ " is out of range"

def link : LinkDirective → Link
  | create l => l
  | destroy l => l

def port (raw : UInt32) : Except Invalid UInt16 :=
  if raw.toNat < 65536 then .ok raw.toUInt16 else .error (.portOutOfRange raw)

def ofUpdate (u : Wire.LinkUpdate) : Except Invalid LinkDirective :=
  match u.local?, u.remote? with
  | none, _ => .error .missingLocal
  | some _, none => .error .missingRemote
  | some here, some there =>
    match port here.port, port there.port with
    | .error e, _ => .error e
    | .ok _, .error e => .error e
    | .ok localPort, .ok remotePort =>
      let l : Link :=
        { kind := u.linkKind, peerAsn := u.peerAsn, localIp := here.ip, localPort,
          remoteIp := there.ip, remotePort }
      match u.updateKind with
      | .create => .ok (.create l)
      | .destroy => .ok (.destroy l)

/-- The directive as a log line shows it, field by field. -/
def render : LinkDirective → String
  | create l => "Create(" ++ fields l ++ ")"
  | destroy l => "Destroy(" ++ fields l ++ ")"
where
  fields (l : Link) : String :=
    "Link \x7b link_type: " ++ l.kind.title ++
    ", peer_asn: " ++ Text.quoted l.peerAsn ++
    ", local_ip: " ++ Text.quoted l.localIp ++
    ", local_port: " ++ toString l.localPort.toNat ++
    ", remote_ip: " ++ Text.quoted l.remoteIp ++
    ", remote_port: " ++ toString l.remotePort.toNat ++ " \x7d"

theorem port_eq_ok_iff (raw : UInt32) (p : UInt16) :
    port raw = .ok p ↔ raw.toNat = p.toNat := by
  unfold port
  split
  · rename_i h
    constructor
    · intro e
      injection e with e
      subst e
      simp [UInt32.toNat_toUInt16, Nat.mod_eq_of_lt h]
    · intro e
      congr 1
      apply UInt16.toNat_inj.mp
      simp [UInt32.toNat_toUInt16, e]
  · rename_i h
    constructor
    · intro e
      cases e
    · intro e
      have := p.toNat_lt
      omega

end LinkDirective

end PeeringAgent
