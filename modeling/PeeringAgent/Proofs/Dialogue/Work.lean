import PeeringAgent.Dialogue.Settle
import PeeringAgent.Proofs.Dialogue.Change

/-!
# How much the tasks do

Every move leaves less to do, and only arrivals and connecting bring new work. So
the number of moves in a run is bounded by the number of arrivals, and two tasks
that take turns come to rest.
-/

set_option autoImplicit false

namespace PeeringAgent.Dialogue

open Coordinator

variable {d : Dialogue} {s : Session} {c : Coordinator} {g : List Errand}
  {ended : List StreamEnded}

theorem size_send_le {α : Type} (q : Backlog α) (x : α) : (q.send x).1.size ≤ q.size + 1 := by
  unfold Backlog.send
  split
  · simp [Backlog.size]
  · exact Nat.le_succ _

theorem size_dropReceiver {α : Type} (q : Backlog α) : q.dropReceiver.size = 0 := rfl

theorem inbox_dropStream_le (c : Coordinator) : c.dropStream.inbox.length ≤ c.inbox.length := by
  unfold dropStream
  split
  · exact Nat.zero_le _
  · exact Nat.le_refl _

/-- A receiver that ends has nothing more to read. -/
theorem work_deaf (now : d.session.receiver = .reading) (c : Coordinator)
    (shorter : c.inbox.length ≤ d.coordinator.inbox.length) :
    work d.deaf c.dropStream < work d.session d.coordinator := by
  have less := inbox_dropStream_le c
  have one : receiverWork d.session = 1 := by rw [receiverWork, if_pos now]
  have same : work d.deaf c.dropStream =
      4 * c.dropStream.inbox.length + 3 * d.session.arbitrations.size +
      d.session.directives.size + 0 + dispatcherWork d.session := rfl
  rw [same, work, one]
  omega

theorem work_taken (rest : List Wire.ArbitrationUpdate) (role : Role) (c : Coordinator) :
    work (d.taken rest role) c = 4 * c.inbox.length + 3 * rest.length +
      d.session.directives.size + receiverWork d.session + dispatcherWork d.session := rfl

/-- Every move leaves less to do. -/
theorem effect_work {m : Move} (effect : d.Effect m s c ended) :
    work s c < work d.session d.coordinator := by
  cases effect with
  | @queuedArbitration u rest now next listener =>
    have more := size_send_le d.session.arbitrations u
    simp only [work, receiverWork, dispatcherWork, next, List.length_cons]
    omega
  | @queuedDirective u directive rest now next valid listener =>
    have more := size_send_le d.session.directives directive
    simp only [work, receiverWork, dispatcherWork, next, List.length_cons]
    omega
  | ignored now next noArbitration noDirective =>
    simp only [work, next, List.length_cons]
    omega
  | orphaned now next alone => exact work_deaf now _ (by simp [next])
  | failed now next => exact work_deaf now _ (Nat.le_refl _)
  | finished now nothing finished => exact work_deaf now _ (Nat.le_refl _)
  | @demoted u rest waiting watched next role =>
    have size : d.session.arbitrations.size = rest.length + 1 := by rw [Backlog.size, next]; rfl
    rw [work_taken, work]
    omega
  | promoted waiting watched next role =>
    simp only [work, taken, Backlog.taken, receiverWork, dispatcherWork, waiting, Backlog.size,
      next, List.length_cons]
    omega
  | pushed promoted calm free =>
    simp only [work, record, receiverWork, dispatcherWork, promoted]
    omega
  | heldUp promoted calm held =>
    simp only [work, record, receiverWork, dispatcherWork, promoted]
    omega
  | panicked promoted fatal =>
    simp only [work, record, receiverWork, dispatcherWork, promoted, Session.panic,
      Session.dropReceivers, size_dropReceiver]
    omega
  | applied waiting watched next =>
    simp only [work, Backlog.taken, receiverWork, dispatcherWork, Backlog.size, next,
      List.length_cons]
    omega
  | resumed pushing free =>
    simp only [work, receiverWork, dispatcherWork, pushing]
    omega
  | arbitrationsClosed waiting watched closed =>
    simp only [work, receiverWork, dispatcherWork, waiting, watched, Bool.toNat_true,
      Bool.toNat_false]
    omega
  | directivesClosed waiting watched closed =>
    simp only [work, receiverWork, dispatcherWork, waiting, watched, Bool.toNat_true,
      Bool.toNat_false]
    omega
  | stopped waiting noArbitrations noDirectives =>
    simp only [work, receiverWork, dispatcherWork, waiting, Session.dropReceivers,
      size_dropReceiver]
    omega

theorem workLeft_move {m : Move} {d d' : Dialogue} (h : d.move? m = some d') :
    d'.workLeft < d.workLeft :=
  effect_work (move_moved h).effect

/-! ## Runs -/

/-- The work that an errand of connecting brings. -/
def errandWork : Errand → Nat
  | .openStream => 1
  | .startDispatcher => 3
  | _ => 0

def agendaWork : List Errand → Nat
  | [] => 0
  | errand :: rest => errandWork errand + agendaWork rest

/-- The work that an act brings. -/
def Act.work : Act → Nat
  | .arrive _ => 4
  | .beginConnect => 4
  | _ => 0

def workOf : List Act → Nat
  | [] => 0
  | a :: acts => a.work + workOf acts

def Act.isMove : Act → Bool
  | .move _ => true
  | _ => false

theorem agendaWork_cons (errand : Errand) (rest : List Errand) :
    agendaWork (errand :: rest) = errandWork errand + agendaWork rest := rfl

/-- Port ranges bring no work. -/
theorem agendaWork_ranges (ranges : List Wire.PortRange) (rest : List Errand) :
    agendaWork (ranges.map Errand.portRange ++ rest) = agendaWork rest := by
  induction ranges with
  | nil => rfl
  | cons range ranges ih =>
    rw [List.map_cons, List.cons_append, agendaWork_cons, ih]
    exact Nat.zero_add _

theorem agendaWork_errands (config : SessionConfig) : agendaWork config.errands = 4 := by
  simp only [SessionConfig.errands, List.cons_append, List.nil_append,
    agendaWork_cons, agendaWork_ranges]
  rfl

theorem work_startReceiver (c : Coordinator) :
    work d.session.startReceiver c ≤ work d.session c + 1 := by
  have same : work d.session.startReceiver c =
      4 * c.inbox.length + 3 * 0 + 0 + 1 + dispatcherWork d.session := rfl
  rw [same, work]
  omega

theorem work_startDispatcher (c : Coordinator) :
    work d.session.startDispatcher c ≤ work d.session c + 3 := by
  have same : work d.session.startDispatcher c = 4 * c.inbox.length +
      3 * d.session.arbitrations.size + d.session.directives.size + receiverWork d.session + 3 :=
    rfl
  rw [same, work]
  omega

/-- A release brings no work. -/
theorem agendaWork_departure (s : Session) : agendaWork s.departure = 0 := by
  cases connected : s.connected <;> simp [Session.departure, connected, agendaWork, errandWork]

/-- A task that stops leaves no work behind. -/
theorem work_cancelReceiver (now : d.session.receiver = .reading) :
    work d.session.cancelReceiver d.coordinator.dropStream ≤ work d.session d.coordinator := by
  have less := work_deaf now d.coordinator (Nat.le_refl _)
  have same : work d.session.cancelReceiver d.coordinator.dropStream =
      work d.deaf d.coordinator.dropStream := rfl
  omega

theorem work_cancelDispatcher (c : Coordinator) :
    work d.session.cancelDispatcher c ≤ work d.session c := by
  have same : work d.session.cancelDispatcher c = 4 * c.inbox.length + receiverWork d.session := rfl
  rw [same, work]
  omega

theorem inbox_put_le (c : Coordinator) (a : Arrival) :
    (c.put a).1.inbox.length ≤ c.inbox.length + 1 := by
  unfold put
  split
  · simp
  · exact Nat.le_succ _

theorem agendaWork_rest {errand : Errand} {rest : List Errand} (next : g = errand :: rest) :
    agendaWork rest ≤ agendaWork g := by
  rw [next, agendaWork_cons]
  exact Nat.le_add_left _ _

/-- A move takes work away; the other acts bring no more than they are said to. -/
theorem change_work {a : Act} (change : d.Change a s c g ended) :
    work s c + agendaWork g + a.isMove.toNat ≤
      work d.session d.coordinator + agendaWork d.agenda + a.work := by
  cases change with
  | began idle =>
    rw [idle, agendaWork_errands]
    exact Nat.le_refl _
  | refused => exact Nat.add_le_add_left (Nat.zero_le _) _
  | dialled next => exact Nat.add_le_add_left (agendaWork_rest next) _
  | streamless => exact Nat.add_le_add_left (Nat.zero_le _) _
  | opened next success =>
    have more := work_startReceiver (d := d) d.coordinator
    rw [next, agendaWork_cons]
    show work d.session.startReceiver d.coordinator + _ + 0 ≤ _ + (1 + _) + 0
    omega
  | asked next lenient made => exact Nat.add_le_add_left (agendaWork_rest next) _
  | started next =>
    have more := work_startDispatcher (d := d) d.coordinator
    rw [next, agendaWork_cons]
    show _ + _ + 0 ≤ _ + (3 + _) + 0
    omega
  | disconnected idle =>
    rw [agendaWork_departure]
    exact Nat.add_le_add_left (Nat.zero_le _) _
  | closed idle gone =>
    rw [agendaWork_departure]
    exact Nat.add_le_add_left (Nat.zero_le _) _
  | hungUp next | parted next | dismissed next | retired next =>
    exact Nat.add_le_add_left (agendaWork_rest next) _
  | receiverCancelled gone reading => exact Nat.add_le_add_right (work_cancelReceiver reading) _
  | dispatcherCancelled gone pauses => exact Nat.add_le_add_right (work_cancelDispatcher _) _
  | arrived a =>
    have more := inbox_put_le d.coordinator a
    show work d.session (d.coordinator.put a).1 + _ + 0 ≤ _ + _ + 4
    rw [work, work]
    omega
  | crashed pushing =>
    have less : work d.session.panic d.coordinator ≤ work d.session d.coordinator := by
      have same : work d.session.panic d.coordinator =
          4 * d.coordinator.inbox.length + receiverWork d.session := rfl
      rw [same, work]
      omega
    exact Nat.add_le_add_right less _
  | moved effect =>
    have less := effect_work effect
    show _ + _ + 1 ≤ _ + _ + 0
    omega
  | finished | behaved | heldBack | letGo | reconciled | unsupervised => exact Nat.le_refl _

theorem countP_cons_toNat {α : Type} (p : α → Bool) (x : α) (xs : List α) :
    (x :: xs).countP p = xs.countP p + (p x).toNat := by
  rw [List.countP_cons]
  cases p x <;> rfl

/-- How many moves a run makes is bounded by what arrives. -/
theorem moves_le (acts : List Act) {d d' : Dialogue} (run : run? acts d = some d') :
    acts.countP Act.isMove + d'.workLeft + agendaWork d'.agenda ≤
      d.workLeft + agendaWork d.agenda + workOf acts := by
  induction acts generalizing d with
  | nil =>
    cases run
    simp
  | cons a as ih =>
    obtain ⟨e, he, hr⟩ := Option.bind_eq_some_iff.mp run
    have first := change_work (act_change he)
    have rest := ih hr
    rw [countP_cons_toNat, workOf]
    rw [workLeft, workLeft] at *
    omega

/-! ## Taking turns -/

/-- Neither task has anything to do. -/
def Idle (d : Dialogue) : Prop := ∀ m, d.move? m = none

theorem taskStep_eq_none {moves : List Move} :
    taskStep? moves d = none ↔ moves.findSome? d.move? = none := Option.map_eq_none_iff

/-- A step of a task is a move, perhaps with the push that it calls for. -/
theorem exists_of_taskStep {moves : List Move} {e : Dialogue}
    (h : taskStep? moves d = some e) : ∃ m ∈ moves, ∃ first, d.move? m = some first ∧
      (e = first ∨ first.move? .startPush = some e) := by
  obtain ⟨first, found, rfl⟩ := Option.map_eq_some_iff.mp h
  obtain ⟨m, member, moved⟩ := List.exists_of_findSome?_eq_some found
  refine ⟨m, member, first, moved, ?_⟩
  cases pushes : first.startPush? with
  | none => exact .inl rfl
  | some e => exact .inr pushes

theorem workLeft_taskStep {moves : List Move} {e : Dialogue} (h : taskStep? moves d = some e) :
    e.workLeft < d.workLeft := by
  obtain ⟨m, -, first, moved, rfl | pushed⟩ := exists_of_taskStep h
  · exact workLeft_move moved
  · exact Nat.lt_trans (workLeft_move pushed) (workLeft_move moved)

theorem goOn_idle {moves : List Move} (n : Nat) (h : moves.findSome? d.move? = none) :
    goOn moves n d = d := by
  cases n with
  | zero => rfl
  | succ n => rw [goOn, taskStep_eq_none.mpr h]

/-- A task goes on until it has nothing to do, unless its turn is over. -/
theorem goOn_work (moves : List Move) (n : Nat) (d : Dialogue) :
    (goOn moves n d).workLeft ≤ d.workLeft ∧
      (moves.findSome? (goOn moves n d).move? = none ∨
        (goOn moves n d).workLeft + n ≤ d.workLeft) := by
  induction n generalizing d with
  | zero => exact ⟨Nat.le_refl _, .inr (Nat.le_refl _)⟩
  | succ n ih =>
    rw [goOn]
    cases h : taskStep? moves d with
    | none => exact ⟨Nat.le_refl _, .inl (taskStep_eq_none.mp h)⟩
    | some e =>
      have less := workLeft_taskStep h
      obtain ⟨bound, rest⟩ := ih e
      refine ⟨by dsimp only; omega, ?_⟩
      rcases rest with stuck | more
      · exact .inl stuck
      · right
        dsimp only
        omega

/-- The dispatcher leaves the receiver and its stream alone. -/
theorem effect_receiver {m : Move} (effect : d.Effect m s c ended) (other : m ≠ .receive) :
    s.receiver = d.session.receiver ∧ c.inbox = d.coordinator.inbox ∧
      c.finished = d.coordinator.finished := by
  cases effect <;> first | exact absurd rfl other | exact ⟨rfl, rfl, rfl⟩

theorem receive_none_iff : d.receive? = none ↔
    (d.session.receiver = .reading →
      d.coordinator.inbox = [] ∧ d.coordinator.finished = false) := by
  unfold receive?
  split
  case isFalse off => simp [off]
  case isTrue reading =>
    split
    case h_1 next => simp [reading, next]
    case h_2 next => simp [reading, next]
    case h_3 nothing => cases h : d.coordinator.finished <;> simp [reading, nothing]

theorem receive_none_of_dispatcher {m : Move} {d' : Dialogue} (other : m ≠ .receive)
    (h : d.move? m = some d') (nothing : d.receive? = none) : d'.receive? = none := by
  obtain ⟨receiver, inbox, finished⟩ := effect_receiver (move_moved h).effect other
  rw [receive_none_iff] at nothing ⊢
  rw [receiver, inbox, finished]
  exact nothing

theorem goOn_dispatcher (n : Nat) (nothing : d.receive? = none) :
    (goOn dispatcherMoves n d).receive? = none := by
  induction n generalizing d with
  | zero => exact nothing
  | succ n ih =>
    rw [goOn]
    cases h : taskStep? dispatcherMoves d with
    | none => exact nothing
    | some e =>
      obtain ⟨m, member, first, moved, last⟩ := exists_of_taskStep h
      have other : m ≠ .receive := by
        rintro rfl
        simp [dispatcherMoves] at member
      have still := receive_none_of_dispatcher other moved nothing
      rcases last with rfl | pushed
      · exact ih still
      · exact ih (receive_none_of_dispatcher (by simp) pushed still)

theorem idle_of_turns (receiver : d.receive? = none)
    (dispatcher : dispatcherMoves.findSome? d.move? = none) : Idle d := by
  intro m
  have stuck := List.findSome?_eq_none_iff.mp dispatcher
  cases m with
  | receive => exact receiver
  | _ => exact stuck _ (by simp [dispatcherMoves])

theorem takeTurns_idle (h : Idle d) : d.takeTurns = d := by
  have stuck (moves : List Move) : moves.findSome? d.move? = none :=
    List.findSome?_eq_none_iff.mpr fun m _ => h m
  rw [takeTurns, goOn_idle _ (stuck _), goOn_idle _ (stuck _)]

/-- After a turn each, the tasks are idle or a whole turn has been made. -/
theorem takeTurns_work (d : Dialogue) :
    Idle d.takeTurns ∨ d.takeTurns.workLeft + turnLength ≤ d.workLeft := by
  have receiver := goOn_work receiverMoves turnLength d
  have dispatcher := goOn_work dispatcherMoves turnLength (goOn receiverMoves turnLength d)
  rw [takeTurns]
  rcases dispatcher with ⟨less, stuck | more⟩
  · rcases receiver with ⟨-, still | more⟩
    · left
      have nothing : (goOn receiverMoves turnLength d).receive? = none :=
        List.findSome?_eq_none_iff.mp still .receive (by simp [receiverMoves])
      exact idle_of_turns (goOn_dispatcher _ nothing) stuck
    · right
      omega
  · right
    omega

theorem settleWithin_idle (n : Nat) (d : Dialogue) (enough : d.workLeft < turnLength * n) :
    Idle (settleWithin n d) := by
  induction n generalizing d with
  | zero => omega
  | succ n ih =>
    rw [settleWithin]
    rcases takeTurns_work d with idle | less
    · have still (k : Nat) : settleWithin k d.takeTurns = d.takeTurns := by
        induction k with
        | zero => rfl
        | succ k same => rw [settleWithin, takeTurns_idle idle, same]
      rw [still]
      exact idle
    · exact ih d.takeTurns (by rw [Nat.mul_succ] at enough; omega)

/-- The turns are enough for both tasks to come to rest. -/
theorem settle_idle (d : Dialogue) : Idle d.settle := by
  apply settleWithin_idle
  have bound := Nat.lt_mul_div_succ d.workLeft (show 0 < turnLength by decide)
  rw [show d.workLeft / turnLength + 2 = d.workLeft / turnLength + 1 + 1 from rfl, Nat.mul_succ]
  omega

/-! ## Settling is a run -/

theorem goOn_run (moves : List Move) (n : Nat) (d : Dialogue) :
    ∃ made : List Move, run? (made.map .move) d = some (goOn moves n d) := by
  induction n generalizing d with
  | zero => exact ⟨[], rfl⟩
  | succ n ih =>
    rw [goOn]
    cases h : taskStep? moves d with
    | none => exact ⟨[], rfl⟩
    | some e =>
      obtain ⟨m, -, first, moved, last⟩ := exists_of_taskStep h
      obtain ⟨made, run⟩ := ih e
      rcases last with rfl | pushed
      · refine ⟨m :: made, ?_⟩
        rw [List.map_cons, run?, act?, moved]
        exact run
      · refine ⟨m :: .startPush :: made, ?_⟩
        rw [List.map_cons, run?, act?, moved, Option.bind_some, List.map_cons, run?, act?, pushed]
        exact run

theorem takeTurns_run (d : Dialogue) :
    ∃ made : List Move, run? (made.map .move) d = some d.takeTurns := by
  obtain ⟨first, hf⟩ := goOn_run receiverMoves turnLength d
  obtain ⟨second, hs⟩ := goOn_run dispatcherMoves turnLength (goOn receiverMoves turnLength d)
  refine ⟨first ++ second, ?_⟩
  rw [List.map_append, run_append, hf]
  exact hs

theorem settleWithin_run (n : Nat) (d : Dialogue) :
    ∃ made : List Move, run? (made.map .move) d = some (settleWithin n d) := by
  induction n generalizing d with
  | zero => exact ⟨[], rfl⟩
  | succ n ih =>
    obtain ⟨first, hf⟩ := takeTurns_run d
    obtain ⟨second, hs⟩ := ih d.takeTurns
    refine ⟨first ++ second, ?_⟩
    rw [List.map_append, run_append, hf]
    exact hs

/-- To settle is to make some moves one after the other. -/
theorem settle_run (d : Dialogue) : ∃ made : List Move, run? (made.map .move) d = some d.settle :=
  settleWithin_run _ d

/-- The tasks leave it to the owner what is still to be done. -/
theorem settle_agenda (d : Dialogue) : d.settle.agenda = d.agenda := by
  obtain ⟨made, run⟩ := settle_run d
  refine run_keeps (fun e => e.agenda = d.agenda) (fun a => ∃ m, a = .move m) ?_ (made.map .move)
    d d.settle (fun a among => ?_) rfl run
  · rintro e a e' ⟨m, rfl⟩ same moved
    exact (move_moved moved).agenda.trans same
  · obtain ⟨m, -, rfl⟩ := List.mem_map.mp among
    exact ⟨m, rfl⟩

end PeeringAgent.Dialogue
