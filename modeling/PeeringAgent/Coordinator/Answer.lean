import PeeringAgent.Coordinator

/-!
# Answers to calls

A real coordinator answers one call after the other. Each answer becomes part of
the behaviour that is known of it; a call that is not answered yet is taken to
succeed. Port ranges of one VLAN share the first refusal.
-/

set_option autoImplicit false

namespace PeeringAgent

inductive Answer
  | done
  | complaints (texts : List String)
  | failed (error : TransportError)

namespace Behaviour

def learn (b : Behaviour) : Call → Answer → Behaviour
  | .connect _ _, .failed e => { b with connectError := some e }
  | .openStream, .failed e => { b with streamError := some e }
  | .send _, .failed e => { b with sendError := some e }
  | .setPortRange range, .failed e =>
    { b with portRangeErrors := b.portRangeErrors ++ [(range.interfaceVlan, e)] }
  | .setPolicies _, .failed e => { b with policiesError := some e }
  | .setPolicies _, .complaints texts => { b with policyErrors := texts }
  | _, _ => b

end Behaviour

namespace Coordinator

/-- The same coordinator with no call made and nothing known of its answers. -/
def renew (c : Coordinator) : Coordinator := { c with behaviour := .agreeable, calls := [] }

def learn (c : Coordinator) (call : Call) (a : Answer) : Coordinator :=
  { c with behaviour := c.behaviour.learn call a }

end Coordinator

end PeeringAgent
