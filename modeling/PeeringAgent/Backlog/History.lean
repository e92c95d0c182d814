import PeeringAgent.Backlog

/-!
# Histories of a watched queue

What the two ends of a queue do with it, one operation at a time and in any order. An
end that has been dropped does nothing more. What has gone into the queue and come out
of it is read off the answers that the ends were given.
-/

set_option autoImplicit false

namespace PeeringAgent.Backlog

variable {α β : Type}

inductive Op (α : Type)
  | send (item : α)
  | receive
  | dropSender
  | dropReceiver

def step? (q : Backlog α) : Op α → Option (Backlog α)
  | .send item => if q.senderOpen then some (q.send item).1 else none
  | .receive => if q.receiverOpen then some q.receive.1 else none
  | .dropSender => if q.senderOpen then some q.dropSender else none
  | .dropReceiver => if q.receiverOpen then some q.dropReceiver else none

def run? : List (Op α) → Backlog α → Option (Backlog α)
  | [], q => some q
  | op :: ops, q => (q.step? op).bind (run? ops)

/-- What the operations of a history contribute, in this order. -/
def gather (f : Backlog α → Op α → List β) : List (Op α) → Backlog α → List β
  | [], _ => []
  | op :: ops, q => f q op ++ ((q.step? op).map (gather f ops)).getD []

/-- The item that an operation brings into the queue. -/
def puts (q : Backlog α) : Op α → List α
  | .send item =>
    match (q.send item).2 with
    | .accepted _ => [item]
    | .returned _ => []
  | _ => []

/-- The item that an operation is given. -/
def gets (q : Backlog α) : Op α → List α
  | .receive =>
    match q.receive.2 with
    | .item value => [value]
    | .pending => []
    | .closed => []
  | _ => []

/-- From where to where a send takes the backlog. -/
def rises (q : Backlog α) : Op α → List (Nat × Nat)
  | .send item => [(q.size, (q.send item).1.size)]
  | _ => []

def accepted (ops : List (Op α)) (q : Backlog α) : List α := gather puts ops q

def received (ops : List (Op α)) (q : Backlog α) : List α := gather gets ops q

def sends (ops : List (Op α)) (q : Backlog α) : List (Nat × Nat) := gather rises ops q

theorem gather_cons (f : Backlog α → Op α → List β) {q e : Backlog α} {op : Op α}
    {ops : List (Op α)} (he : q.step? op = some e) :
    gather f (op :: ops) q = f q op ++ gather f ops e := by
  rw [gather, he]
  rfl

theorem run_append (ops more : List (Op α)) (q : Backlog α) :
    run? (ops ++ more) q = (run? ops q).bind (run? more) := by
  induction ops generalizing q with
  | nil => rfl
  | cons op ops ih =>
    rw [List.cons_append, run?, run?]
    cases q.step? op with
    | none => rfl
    | some e => exact ih e

end PeeringAgent.Backlog
