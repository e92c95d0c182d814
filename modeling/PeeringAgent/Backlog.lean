import PeeringAgent.Log

/-!
# Watched queues

An unbounded first-in first-out queue between one sender and one receiver. Beside
it stand counters: sending counts the depth up and receiving counts it down, the
largest depth is kept, and so is how often it rose past a high-water mark. Sending
never waits.
-/

set_option autoImplicit false

namespace PeeringAgent

structure Backlog (α : Type) where
  name : String
  highWater : Nat
  waiting : List α
  /-- Counted beside the queue, not read off it. -/
  depth : Nat
  peak : Nat
  crossings : Nat
  senderOpen : Bool
  receiverOpen : Bool

namespace Backlog

variable {α : Type}

def empty (name : String) (highWater : Nat) : Backlog α :=
  { name, highWater, waiting := [], depth := 0, peak := 0, crossings := 0
    senderOpen := true, receiverOpen := true }

/-- How many items wait. -/
def size (q : Backlog α) : Nat := q.waiting.length

/-- Nothing waits and nothing can come any more. -/
def isClosed (q : Backlog α) : Bool := q.waiting.isEmpty && !q.senderOpen

/-- What a send did: the item is in the queue, or it comes back because nobody
receives any more. -/
inductive Sent (α : Type)
  | accepted (crossed : Bool)
  | returned (item : α)

inductive Received (α : Type)
  | item (value : α)
  | pending
  | closed

def lagWarning (q : Backlog α) : Log.Line :=
  Log.warn (q.name ++ " queue backlog exceeds " ++ toString q.highWater ++
    " messages, dispatcher is lagging")

/-- The item is counted before it is known whether somebody receives it, and is not
counted any more when it comes back. -/
def send (q : Backlog α) (item : α) : Backlog α × Sent α :=
  let depth := q.depth + 1
  if q.receiverOpen then
    let crossed := depth == q.highWater + 1
    ({ q with
        waiting := q.waiting ++ [item]
        depth
        peak := max q.peak depth
        crossings := if crossed then q.crossings + 1 else q.crossings },
     .accepted crossed)
  else ({ q with depth := depth - 1 }, .returned item)

/-- Only a send that takes the backlog past the mark is worth a line. -/
def Sent.lines (q : Backlog α) : Sent α → List Log.Line
  | .accepted true => [q.lagWarning]
  | .accepted false => []
  | .returned _ => []

/-- The queue once its first item has been taken. -/
def taken (q : Backlog α) (rest : List α) : Backlog α :=
  { q with waiting := rest, depth := q.depth - 1 }

def receive (q : Backlog α) : Backlog α × Received α :=
  match q.waiting with
  | item :: rest => (q.taken rest, .item item)
  | [] => (q, if q.senderOpen then .pending else .closed)

def dropSender (q : Backlog α) : Backlog α := { q with senderOpen := false }

def dropReceiver (q : Backlog α) : Backlog α :=
  { q with waiting := [], receiverOpen := false }

theorem send_waiting (q : Backlog α) (item : α) (h : q.receiverOpen = true) :
    (q.send item).1.waiting = q.waiting ++ [item] := by
  simp [send, h]

theorem send_returned (q : Backlog α) (item : α) (h : q.receiverOpen = false) :
    q.send item = (q, .returned item) := by
  have closed : ¬q.receiverOpen = true := by simp [h]
  exact if_neg closed

theorem receive_cons (q : Backlog α) (item : α) (rest : List α)
    (h : q.waiting = item :: rest) :
    q.receive = (q.taken rest, .item item) := by
  simp [receive, h]

theorem exists_of_receive_item {q q' : Backlog α} {item : α} (h : q.receive = (q', .item item)) :
    ∃ rest, q.waiting = item :: rest ∧ q' = q.taken rest := by
  unfold receive at h
  split at h
  · rename_i next rest hw
    injection h with hq hi
    injection hi with hi
    exact ⟨rest, by rw [hw, hi], hq.symm⟩
  · injection h with _ hi
    split at hi <;> cases hi

end Backlog

end PeeringAgent
