/-!
# Peering links

A link joins a port of this AS to a port of a peer. Links are ordered by kind
first and then by their fields from left to right, texts by code points.
-/

set_option autoImplicit false

namespace PeeringAgent

inductive LinkKind
  | peering
  | core
  | provider
deriving DecidableEq

structure Link where
  kind : LinkKind
  peerAsn : String
  localIp : String
  localPort : UInt16
  remoteIp : String
  remotePort : UInt16
deriving DecidableEq

namespace LinkKind

def rank : LinkKind → Nat
  | peering => 0
  | core => 1
  | provider => 2

def title : LinkKind → String
  | peering => "Peering"
  | core => "Core"
  | provider => "Provider"

theorem rank_injective (a b : LinkKind) (h : a.rank = b.rank) : a = b := by
  cases a <;> cases b <;> simp_all [rank]

end LinkKind

namespace Link

def order (a b : Link) : Ordering :=
  (compare a.kind.rank b.kind.rank).then <|
  (compare a.peerAsn b.peerAsn).then <|
  (compare a.localIp b.localIp).then <|
  (compare a.localPort b.localPort).then <|
  (compare a.remoteIp b.remoteIp).then
  (compare a.remotePort b.remotePort)

instance : Ord Link := ⟨order⟩

def atMost (a b : Link) : Bool := (compare a b).isLE

/-- The links in increasing order. -/
def sort (links : List Link) : List Link := links.mergeSort atMost

/-- One line for an operator; a peer without an AS number shows as a dash. -/
def describe (l : Link) : String :=
  let peer := if l.peerAsn.isEmpty then "-" else l.peerAsn
  l.kind.title ++ " " ++ l.localIp ++ ":" ++ toString l.localPort.toNat ++ " -> " ++
  l.remoteIp ++ ":" ++ toString l.remotePort.toNat ++ " (peer " ++ peer ++ ")"

theorem mem_sort (links : List Link) (l : Link) : l ∈ sort links ↔ l ∈ links :=
  List.mem_mergeSort

theorem sort_perm (links : List Link) : (sort links).Perm links :=
  List.mergeSort_perm links atMost

end Link

end PeeringAgent
