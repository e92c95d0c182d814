import PeeringAgent.Dialogue.Run
import PeeringAgent.Link.History

/-!
# The account of a run

What the acts of a run read from the stream, take from the queues, do to the store, call
and make known of the role. Each of these is a list, in the order of the acts.
-/

set_option autoImplicit false

namespace PeeringAgent

/-- The message of an arrival. -/
def Arrival.message? : Arrival → Option Wire.StreamResponse
  | .message m => some m
  | .failure _ => none

/-- The records that a call pushes. -/
def Call.records? : Call → Option (List Wire.PolicyRecord)
  | setPolicies records => some records
  | _ => none

def Wire.ArbitrationUpdate.isPrimary (u : Wire.ArbitrationUpdate) : Bool := u.status == .primary

def LinkStore.Op.directive? : LinkStore.Op → Option LinkDirective
  | .direct directive => some directive
  | .reconcile => none

/-- The pushes that a dispatcher is about to call for. -/
def Session.pushesDue (s : Session) : Nat := if s.dispatcher = .promoted then 1 else 0

namespace Dialogue

/-- The pushes of policies so far. -/
def pushes (d : Dialogue) : List (List Wire.PolicyRecord) :=
  d.coordinator.calls.filterMap Call.records?

/-- The message that an act reads from the stream, one at most. -/
def reads (d : Dialogue) : Act → List Wire.StreamResponse
  | .move .receive => (d.coordinator.inbox.head?.bind Arrival.message?).toList
  | _ => []

/-- The arbitration updates that an act takes from the queue, one at most. -/
def takes (d : Dialogue) : Act → List Wire.ArbitrationUpdate
  | .move .dispatchArbitration => d.session.arbitrations.waiting.take 1
  | _ => []

/-- What an act does to the store. -/
def works (d : Dialogue) : Act → List LinkStore.Op
  | .move .dispatchDirective => (d.session.directives.waiting.take 1).map .direct
  | .reconcile => [.reconcile]
  | _ => []

/-- The directives that an act applies. -/
def applies (d : Dialogue) (a : Act) : List LinkDirective :=
  (d.works a).filterMap LinkStore.Op.directive?

/-- The roles that an act makes known: that of an update dispatched, or none when a release
is completed. -/
def settles (d : Dialogue) (a : Act) : List Role :=
  (d.takes a).map (fun u => Role.ofStatus u.status) ++
    if d.retires a then [.notPrimary] else []

/-- The messages that a run reads from the stream. -/
def received (acts : List Act) (d : Dialogue) : List Wire.StreamResponse := gather reads acts d

/-- The arbitration updates that are dispatched in a run. -/
def dispatched (acts : List Act) (d : Dialogue) : List Wire.ArbitrationUpdate :=
  gather takes acts d

/-- What a run does to the store. -/
def history (acts : List Act) (d : Dialogue) : List LinkStore.Op := gather works acts d

/-- The directives that a run applies to the store. -/
def applied (acts : List Act) (d : Dialogue) : List LinkDirective :=
  (history acts d).filterMap LinkStore.Op.directive?

/-- The roles that a run makes known. -/
def settled (acts : List Act) (d : Dialogue) : List Role := gather settles acts d

variable {d e : Dialogue} {a : Act} {as : List Act}

theorem received_cons (he : d.act? a = some e) :
    received (a :: as) d = d.reads a ++ received as e := gather_cons _ he

theorem dispatched_cons (he : d.act? a = some e) :
    dispatched (a :: as) d = d.takes a ++ dispatched as e := gather_cons _ he

theorem history_cons (he : d.act? a = some e) :
    history (a :: as) d = d.works a ++ history as e := gather_cons _ he

theorem applied_cons (he : d.act? a = some e) :
    applied (a :: as) d = d.applies a ++ applied as e := by
  rw [applied, history_cons he, List.filterMap_append]
  rfl

theorem settled_cons (he : d.act? a = some e) :
    settled (a :: as) d = d.settles a ++ settled as e := gather_cons _ he

theorem reads_of_message {m : Wire.StreamResponse} {rest : List Arrival}
    (next : d.coordinator.inbox = .message m :: rest) : d.reads (.move .receive) = [m] := by
  rw [reads, next]
  rfl

theorem takes_of_next {u : Wire.ArbitrationUpdate} {rest : List Wire.ArbitrationUpdate}
    (next : d.session.arbitrations.waiting = u :: rest) :
    d.takes (.move .dispatchArbitration) = [u] := by
  rw [takes, next]
  rfl

theorem applies_of_next {directive : LinkDirective} {rest : List LinkDirective}
    (next : d.session.directives.waiting = directive :: rest) :
    d.applies (.move .dispatchDirective) = [directive] := by
  rw [applies, works, next]
  rfl

end Dialogue

theorem Session.pushesDue_of_promoted {s : Session} (h : s.dispatcher = .promoted) :
    s.pushesDue = 1 := by
  rw [pushesDue, if_pos h]

theorem Session.pushesDue_of_other {s : Session} (h : s.dispatcher ≠ .promoted) :
    s.pushesDue = 0 := by
  rw [pushesDue, if_neg h]

end PeeringAgent
