import PeeringAgent.Wire.Message
import PeeringAgent.Text.Quoted
import PeeringAgent.Log

/-!
# Peering policies

A policy accepts or refuses peering on a VLAN, with everybody or with one peer.
Of several selectors the AS number counts before the owner and the owner before
the isolation domain; an empty selector selects nothing.
-/

set_option autoImplicit false

namespace PeeringAgent

structure Policy where
  vlan : String
  accept : Bool
  peerAsn : Option String
  peerOwner : Option String
  peerIsd : Option String
deriving DecidableEq

namespace Policy

def chosen (selector : Option String) : Option String :=
  selector.filter fun s => !s.isEmpty

def peer (p : Policy) : Option Wire.PeerSelector :=
  ((chosen p.peerAsn).map .asn).or <|
  ((chosen p.peerOwner).map .owner).or
  ((chosen p.peerIsd).map .isd)

def selectorCount (p : Policy) : Nat :=
  ([p.peerAsn, p.peerOwner, p.peerIsd].filter fun s => (chosen s).isSome).length

def isAmbiguous (p : Policy) : Bool := p.selectorCount > 1

def renderSelector : Wire.PeerSelector → String
  | .asn s => "Asn(" ++ Text.quoted s ++ ")"
  | .owner s => "Owner(" ++ Text.quoted s ++ ")"
  | .isd s => "Isd(" ++ Text.quoted s ++ ")"

def renderPeer : Option Wire.PeerSelector → String
  | none => "None"
  | some s => "Some(" ++ renderSelector s ++ ")"

/-- The warning for a policy that names more than one peer. -/
def ambiguity (p : Policy) : Log.Line :=
  Log.warn ("Policy for VLAN " ++ p.vlan ++ " names more than one peer, using " ++
    renderPeer p.peer)

def warnings (ps : List Policy) : List Log.Line := (ps.filter isAmbiguous).map ambiguity

/-- The record that the coordinator is given; the AS is always our own. -/
def toRecord (asn : String) (p : Policy) : Wire.PolicyRecord :=
  { vlan := p.vlan, asn, accept := p.accept, peer := p.peer }

def toRecords (asn : String) (ps : List Policy) : List Wire.PolicyRecord := ps.map (toRecord asn)

theorem peer_eq_none_iff (p : Policy) :
    p.peer = none ↔ chosen p.peerAsn = none ∧ chosen p.peerOwner = none ∧
      chosen p.peerIsd = none := by
  simp [peer, Option.or_eq_none_iff]

theorem toRecords_length (asn : String) (ps : List Policy) :
    (toRecords asn ps).length = ps.length := List.length_map _

/-- A record says what its policy says, of the first peer that the policy names. -/
structure Renders (asn : String) (p : Policy) (r : Wire.PolicyRecord) : Prop where
  vlan : r.vlan = p.vlan
  asn : r.asn = asn
  accept : r.accept = p.accept
  byAsn : ∀ s, chosen p.peerAsn = some s → r.peer = some (.asn s)
  byOwner : chosen p.peerAsn = none → ∀ s, chosen p.peerOwner = some s → r.peer = some (.owner s)
  byIsd : chosen p.peerAsn = none → chosen p.peerOwner = none →
    ∀ s, chosen p.peerIsd = some s → r.peer = some (.isd s)
  anybody : r.peer = none ↔
    chosen p.peerAsn = none ∧ chosen p.peerOwner = none ∧ chosen p.peerIsd = none

theorem toRecord_renders (asn : String) (p : Policy) : p.Renders asn (p.toRecord asn) where
  vlan := rfl
  asn := rfl
  accept := rfl
  byAsn := fun s named => by simp [toRecord, peer, named]
  byOwner := fun noAsn s named => by simp [toRecord, peer, noAsn, named]
  byIsd := fun noAsn noOwner s named => by simp [toRecord, peer, noAsn, noOwner, named]
  anybody := p.peer_eq_none_iff

/-- There is one record for each policy, in the order of the policies. -/
structure Translates (asn : String) (ps : List Policy) (records : List Wire.PolicyRecord) :
    Prop where
  length : records.length = ps.length
  each : ∀ (i : Nat) (p : Policy), ps[i]? = some p → ∃ r, records[i]? = some r ∧ p.Renders asn r

theorem toRecords_translates (asn : String) (ps : List Policy) :
    Translates asn ps (toRecords asn ps) where
  length := toRecords_length asn ps
  each := fun i p listed =>
    ⟨p.toRecord asn, by rw [toRecords, List.getElem?_map, listed]; rfl, p.toRecord_renders asn⟩

end Policy

end PeeringAgent
