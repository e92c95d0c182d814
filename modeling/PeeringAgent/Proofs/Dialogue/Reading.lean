import PeeringAgent.Proofs.Dialogue.Noise

/-!
# What the receiver takes from the stream

The receiver takes what has been put on the stream, in order, up to the first receipt
that ends it. Each update before that is in its queue when the next one is taken.
-/

set_option autoImplicit false

namespace PeeringAgent

open Coordinator

/-- What a receiver can take from a stream. -/
inductive Receipt
  | message (m : Wire.StreamResponse)
  | failure (e : TransportError)
  /-- The end of the stream. -/
  | closed
deriving DecidableEq

def Arrival.receipt : Arrival → Receipt
  | .message m => .message m
  | .failure e => .failure e

/-- Why a receipt ends the receiver, if it does. Without a dispatcher all but noise does. -/
def Receipt.cause? (down : Bool) : Receipt → Option String
  | .message m => if down && !m.isNoise then some Dialogue.dispatcherGone else none
  | .failure e => some e.message
  | .closed => some "stream closed by coordinator"

namespace Coordinator

/-- What the stream holds, and what acts will put on it. -/
def upcoming (c : Coordinator) (coming : List Receipt) : List Receipt :=
  c.inbox.map Arrival.receipt ++ if c.finished then [.closed] else coming

/-- What a receiver would take now. -/
def next? (c : Coordinator) : Option Receipt := (c.upcoming []).head?

end Coordinator

namespace Dialogue

variable {d e d' : Dialogue} {s : Session} {c : Coordinator} {g : List Errand}
  {ended : List StreamEnded} {a : Act} {r : Receipt}

/-- A push has brought the dispatcher down, or it has been stopped. -/
def isDown (d : Dialogue) : Bool := !d.session.delivers

/-- What an act takes from the stream, and why that ends the receiver. -/
def receives (d : Dialogue) : Act → List (Receipt × Option String)
  | .move .receive => (d.coordinator.next?.map fun r => (r, r.cause? d.isDown)).toList
  | _ => []

/-- What a run takes from the stream. -/
def receipts (acts : List Act) (d : Dialogue) : List (Receipt × Option String) :=
  gather receives acts d

/-- What a run puts on the stream, up to its end. -/
def offered : List Act → List Receipt
  | [] => []
  | .arrive arrival :: as => arrival.receipt :: offered as
  | .finish :: _ => [.closed]
  | _ :: as => offered as

/-! ## Queues and stream -/

/-- How the ends of queues and stream go with the tasks. -/
structure Wired (s : Session) (c : Coordinator) (g : List Errand) : Prop where
  ledger : ∃ got dones adopted, Ledger s c g got dones adopted
  down : s.delivers = false →
    s.arbitrations.receiverOpen = false ∧ s.directives.receiverOpen = false
  reading : s.receiver = .reading → c.stream = .taken
  spent : s.receiver = .ended ∨ s.receiver = .cancelled → c.stream = .dropped

theorem Wired.attended (h : Wired s c g) : Attended s c g := by
  obtain ⟨_, _, _, ledger⟩ := h.ledger
  exact ledger.attended

/-- As long as the dispatcher is not down, a receiver finds both queues open. -/
theorem Wired.listened (h : Wired s c g) (reading : s.receiver = .reading)
    (on : s.delivers = true) :
    s.arbitrations.receiverOpen = true ∧ s.directives.receiverOpen = true := by
  obtain ⟨_, _, _, ledger⟩ := h.ledger
  exact ⟨(ledger.arbitrations.reading on reading).2, (ledger.directives.reading on reading).2⟩

theorem dropStream_of_taken (h : c.stream = .taken) : c.dropStream.stream = .dropped := by
  rw [dropStream, if_pos h]

theorem Wired.effect {m : Move} (h : Wired d.session d.coordinator d.agenda)
    (effect : d.Effect m s c ended)
    (ledger : ∃ got dones adopted, Ledger s c d.agenda got dones adopted) :
    Wired s c d.agenda := by
  have up_of_waiting (waiting : d.session.dispatcher = .waiting)
      (down : d.session.delivers = false) : False := not_waiting_of_lost down waiting
  cases effect with
  | queuedArbitration reading next listener =>
    -- A queue that takes an item is received from, so the dispatcher is not down.
    refine ⟨ledger, fun down => ?_, h.reading, h.spent⟩
    rw [(h.down down).1] at listener
    cases listener
  | queuedDirective reading next valid listener =>
    refine ⟨ledger, fun down => ?_, h.reading, h.spent⟩
    rw [(h.down down).2] at listener
    cases listener
  | ignored => exact ⟨ledger, h.down, h.reading, h.spent⟩
  | orphaned reading | failed reading | finished reading =>
    exact ⟨ledger, h.down, nofun, fun _ => dropStream_of_taken (h.reading reading)⟩
  | demoted waiting | applied waiting | arbitrationsClosed waiting | directivesClosed waiting =>
    exact ⟨ledger, fun down => (up_of_waiting waiting down).elim, h.reading, h.spent⟩
  | promoted | pushed | heldUp | resumed | stopped => exact ⟨ledger, nofun, h.reading, h.spent⟩
  | panicked => exact ⟨ledger, fun _ => ⟨rfl, rfl⟩, h.reading, h.spent⟩

theorem Wired.step (h : Wired d.session d.coordinator d.agenda)
    (change : d.Change a s c g ended) : Wired s c g := by
  have ledger : ∃ got dones adopted, Ledger s c g got dones adopted := by
    obtain ⟨_, _, _, ledger⟩ := h.ledger
    exact ⟨_, _, _, ledger.step change⟩
  cases change with
  | moved effect => exact h.effect effect ledger
  | opened next success =>
    have offered := offered_of_openable success
    refine ⟨ledger, fun down => ?_, fun _ => rfl, by simp [Session.startReceiver]⟩
    have down : d.session.delivers = false := down
    have present : d.session.dispatcher ≠ .absent := by
      intro absent
      rw [Session.delivers, absent] at down
      cases down
    exact absurd offered (h.attended.dispatcher present)
  | started =>
    exact ⟨ledger, by simp [Session.delivers, Session.startDispatcher], h.reading, h.spent⟩
  | crashed => exact ⟨ledger, fun _ => ⟨rfl, rfl⟩, h.reading, h.spent⟩
  | receiverCancelled gone reading =>
    exact ⟨ledger, h.down, by simp [Session.cancelReceiver],
      fun _ => dropStream_of_taken (h.reading reading)⟩
  | dispatcherCancelled => exact ⟨ledger, fun _ => ⟨rfl, rfl⟩, h.reading, h.spent⟩
  | arrived arrival =>
    exact ⟨ledger, h.down, fun now => (put_stream _ arrival).trans (h.reading now),
      fun now => (put_stream _ arrival).trans (h.spent now)⟩
  | began | refused | dialled | streamless | asked | disconnected | closed | hungUp | parted
  | dismissed | retired | finished | behaved | heldBack | letGo | reconciled | unsupervised =>
    exact ⟨ledger, h.down, h.reading, h.spent⟩

theorem Wired.run (acts : List Act) (h : Wired d.session d.coordinator d.agenda)
    (run : run? acts d = some d') : Wired d'.session d'.coordinator d'.agenda := by
  refine run_keeps (fun f => Wired f.session f.coordinator f.agenda) (fun _ => True) ?_ acts d d'
    (fun _ _ => trivial) h run
  intro f a f' _ hf act
  exact hf.step (act_change act)

theorem wired_new (config : SessionConfig) (behaviour : Behaviour) (store : LinkStore) :
    Wired ((new config behaviour).setStore store).session
      ((new config behaviour).setStore store).coordinator
      ((new config behaviour).setStore store).agenda :=
  ⟨⟨_, _, _, ledger_new config behaviour store⟩, nofun, nofun, nofun⟩

/-! ## One receipt -/

theorem next_of_message {m : Wire.StreamResponse} {rest : List Arrival}
    (next : c.inbox = .message m :: rest) : c.next? = some (.message m) := by
  rw [next?, upcoming, next]
  rfl

theorem next_of_failure {cause : TransportError} {rest : List Arrival}
    (next : c.inbox = .failure cause :: rest) : c.next? = some (.failure cause) := by
  rw [next?, upcoming, next]
  rfl

theorem next_of_finished (nothing : c.inbox = []) (gone : c.finished = true) :
    c.next? = some .closed := by
  rw [next?, upcoming, nothing, gone]
  rfl

theorem next_eq_none_iff : c.next? = none ↔ c.inbox = [] ∧ c.finished = false := by
  rw [next?, List.head?_eq_none_iff, upcoming, List.append_eq_nil_iff, List.map_eq_nil_iff]
  cases c.finished <;> simp

/-- A receiver waits only for a stream on which there is nothing. -/
theorem next_of_waiting (reading : d.session.receiver = .reading)
    (waits : d.act? (.move .receive) = none) : d.coordinator.next? = none :=
  next_eq_none_iff.mpr (receive_none_iff.mp waits reading)

/-- What a receiver that takes a receipt makes of its session. -/
structure Taking (d : Dialogue) (r : Receipt) (s : Session) (c : Coordinator)
    (ended : List StreamEnded) : Prop where
  next : d.coordinator.next? = some r
  /-- An update is in its queue before anything else is taken. -/
  arbitration : ∀ u, r = .message (.arbitration u) → d.isDown = false → ∃ q crossed,
    d.session.arbitrations.send u = (q, .accepted crossed) ∧
      s = { d.session with arbitrations := q }
  directive : ∀ u directive, r = .message (.linkUpdate u) →
    LinkDirective.ofUpdate u = .ok directive → d.isDown = false → ∃ q crossed,
      d.session.directives.send directive = (q, .accepted crossed) ∧
        s = { d.session with directives := q }
  noise : ∀ m, r = .message m → m.isNoise = true → s = d.session
  goesOn : r.cause? d.isDown = none → s.receiver = .reading ∧ ended = d.ended ∧
    c = { d.coordinator with inbox := d.coordinator.inbox.tail }
  ends : ∀ reason, r.cause? d.isDown = some reason →
    s = d.deaf ∧ c.stream = .dropped ∧ ended = d.told reason

theorem exists_accepted {α : Type} {q : Backlog α} (x : α) (listener : q.receiverOpen = true) :
    ∃ crossed, q.send x = ((q.send x).1, .accepted crossed) := by
  rw [Backlog.send, if_pos listener]
  exact ⟨_, rfl⟩

theorem isDown_of_closed (h : Wired d.session d.coordinator d.agenda)
    (reading : d.session.receiver = .reading)
    (closed : d.session.arbitrations.receiverOpen = false ∨
      d.session.directives.receiverOpen = false) : d.isDown = true := by
  rw [isDown, Bool.not_eq_true', Bool.eq_false_iff]
  intro on
  obtain ⟨first, second⟩ := h.listened reading on
  rcases closed with shut | shut
  · rw [first] at shut
    cases shut
  · rw [second] at shut
    cases shut

theorem isDown_of_open (h : Wired d.session d.coordinator d.agenda)
    (listener : d.session.arbitrations.receiverOpen = true ∨
      d.session.directives.receiverOpen = true) : d.isDown = false := by
  rw [isDown, Bool.not_eq_false', ← Bool.not_eq_false]
  intro down
  obtain ⟨first, second⟩ := h.down down
  rcases listener with on | on
  · rw [first] at on
    cases on
  · rw [second] at on
    cases on

theorem cause_message (down : Bool) (m : Wire.StreamResponse) :
    (Receipt.message m).cause? down =
      if down && !m.isNoise then some dispatcherGone else none := rfl

theorem cause_of_noise {m : Wire.StreamResponse} (noise : m.isNoise = true) (down : Bool) :
    (Receipt.message m).cause? down = none := by
  rw [cause_message, noise, Bool.not_true, Bool.and_false]
  rfl

/-- A receipt that is a cause is the last one, whatever it is. -/
theorem Taking.last {reason : String} (next : d.coordinator.next? = some r)
    (cause : r.cause? d.isDown = some reason) (dropped : c.stream = .dropped) :
    d.Taking r d.deaf c (d.told reason) := by
  have alive (m : Wire.StreamResponse) (same : r = .message m) (up : d.isDown = false) :
      False := by
    rw [same, up] at cause
    cases cause
  constructor
  case next => exact next
  case arbitration => exact fun u same up => (alive _ same up).elim
  case directive => exact fun u directive same _ up => (alive _ same up).elim
  case noise =>
    rintro m rfl noise
    rw [cause_of_noise noise] at cause
    cases cause
  case goesOn =>
    rw [cause]
    rintro ⟨⟩
  case ends =>
    rw [cause]
    rintro _ ⟨⟩
    exact ⟨rfl, dropped, rfl⟩

theorem Taking.arbitration_queued {u : Wire.ArbitrationUpdate} {rest : List Arrival}
    (reading : d.session.receiver = .reading)
    (next : d.coordinator.inbox = .message (.arbitration u) :: rest)
    (listener : d.session.arbitrations.receiverOpen = true) (up : d.isDown = false) :
    d.Taking (.message (.arbitration u))
      { d.session with arbitrations := (d.session.arbitrations.send u).1 }
      { d.coordinator with inbox := rest } d.ended := by
  obtain ⟨crossed, sent⟩ := exists_accepted u listener
  have cause : (Receipt.message (.arbitration u)).cause? d.isDown = none := by rw [up]; rfl
  constructor
  case next => exact next_of_message next
  case arbitration =>
    rintro _ ⟨⟩ -
    exact ⟨_, crossed, sent, rfl⟩
  case directive => rintro _ _ ⟨⟩
  case noise =>
    rintro _ ⟨⟩ noise
    cases noise
  case goesOn => exact fun _ => ⟨reading, rfl, by rw [next]; rfl⟩
  case ends =>
    rw [cause]
    rintro _ ⟨⟩

theorem Taking.directive_queued {u : Wire.LinkUpdate} {directive : LinkDirective}
    {rest : List Arrival} (reading : d.session.receiver = .reading)
    (next : d.coordinator.inbox = .message (.linkUpdate u) :: rest)
    (valid : LinkDirective.ofUpdate u = .ok directive)
    (listener : d.session.directives.receiverOpen = true) (up : d.isDown = false) :
    d.Taking (.message (.linkUpdate u))
      { d.session with directives := (d.session.directives.send directive).1 }
      { d.coordinator with inbox := rest } d.ended := by
  obtain ⟨crossed, sent⟩ := exists_accepted directive listener
  have cause : (Receipt.message (.linkUpdate u)).cause? d.isDown = none := by rw [up]; rfl
  constructor
  case next => exact next_of_message next
  case arbitration => rintro _ ⟨⟩
  case directive =>
    rintro _ other ⟨⟩ made -
    cases valid.symm.trans made
    exact ⟨_, crossed, sent, rfl⟩
  case noise =>
    rintro _ ⟨⟩ noise
    obtain ⟨-, none⟩ := (Wire.StreamResponse.isNoise_iff _).mp noise
    simp [Wire.StreamResponse.directive?, valid, Except.toOption] at none
  case goesOn => exact fun _ => ⟨reading, rfl, by rw [next]; rfl⟩
  case ends =>
    rw [cause]
    rintro _ ⟨⟩

theorem Taking.ignored {m : Wire.StreamResponse} {rest : List Arrival}
    (reading : d.session.receiver = .reading)
    (next : d.coordinator.inbox = .message m :: rest) (noArbitration : m.arbitration? = none)
    (noDirective : m.directive? = none) :
    d.Taking (.message m) d.session { d.coordinator with inbox := rest } d.ended := by
  constructor
  case next => exact next_of_message next
  case arbitration =>
    rintro u ⟨⟩
    cases noArbitration
  case directive =>
    rintro u directive ⟨⟩ made
    simp [Wire.StreamResponse.directive?, made, Except.toOption] at noDirective
  case noise => exact fun _ _ _ => rfl
  case goesOn => exact fun _ => ⟨reading, rfl, by rw [next]; rfl⟩
  case ends =>
    rw [cause_of_noise (m.isNoise_iff.mpr ⟨noArbitration, noDirective⟩)]
    rintro _ ⟨⟩

/-- All that a receiver can do is to take what is next. -/
theorem Effect.taking (wired : Wired d.session d.coordinator d.agenda)
    (h : d.Effect .receive s c ended) : ∃ r, d.Taking r s c ended := by
  cases h with
  | queuedArbitration reading next listener =>
    exact ⟨_, .arbitration_queued reading next listener (isDown_of_open wired (.inl listener))⟩
  | queuedDirective reading next valid listener =>
    exact ⟨_, .directive_queued reading next valid listener
      (isDown_of_open wired (.inr listener))⟩
  | ignored reading next noArbitration noDirective =>
    exact ⟨_, .ignored reading next noArbitration noDirective⟩
  | @orphaned m rest reading next alone =>
    have down := isDown_of_closed wired reading (alone.imp And.right And.right)
    have needed : m.isNoise = false := by
      refine Bool.eq_false_iff.mpr fun noise => ?_
      obtain ⟨noArbitration, noDirective⟩ := m.isNoise_iff.mp noise
      exact alone.elim (fun first => first.1 noArbitration) fun second => second.1 noDirective
    have cause : (Receipt.message m).cause? d.isDown = some dispatcherGone := by
      rw [cause_message, down, needed]
      rfl
    exact ⟨_, .last (next_of_message next) cause (dropStream_of_taken (wired.reading reading))⟩
  | failed reading next =>
    exact ⟨_, .last (next_of_failure next) rfl (dropStream_of_taken (wired.reading reading))⟩
  | finished reading nothing gone =>
    exact ⟨_, .last (next_of_finished nothing gone) rfl
      (dropStream_of_taken (wired.reading reading))⟩

theorem taking_of_receive (wired : Wired d.session d.coordinator d.agenda)
    (he : d.act? (.move .receive) = some e) :
    ∃ r, d.Taking r e.session e.coordinator e.ended := by
  have move : d.move? .receive = some e := he
  exact (move_moved move).effect.taking wired

theorem receives_of_next (next : d.coordinator.next? = some r) :
    d.receives (.move .receive) = [(r, r.cause? d.isDown)] := by
  rw [receives, next]
  rfl

theorem receives_of_other (other : a ≠ .move .receive) : d.receives a = [] := by
  cases a with
  | move m =>
    cases m with
    | receive => exact absurd rfl other
    | dispatchArbitration | startPush | dispatchDirective | resumePush | closeArbitrations
    | closeDirectives | stopDispatcher => rfl
  | _ => rfl

/-! ## Their order -/

theorem receipts_cons (he : d.act? a = some e) (acts : List Act) :
    receipts (a :: acts) d = d.receives a ++ receipts acts e := gather_cons _ he

/-- Nothing is taken from a stream that has been dropped. -/
theorem receives_of_dropped (wired : Wired d.session d.coordinator d.agenda)
    (dropped : d.coordinator.stream = .dropped) (he : d.act? a = some e) : d.receives a = [] := by
  refine receives_of_other fun receive => ?_
  subst receive
  have taken := wired.reading (reading_of_receive he)
  rw [dropped] at taken
  cases taken

theorem receipts_of_dropped (acts : List Act) (wired : Wired d.session d.coordinator d.agenda)
    (dropped : d.coordinator.stream = .dropped) (run : run? acts d = some d') :
    receipts acts d = [] := by
  induction acts generalizing d with
  | nil => rfl
  | cons a as ih =>
    obtain ⟨next, he, hr⟩ := Option.bind_eq_some_iff.mp run
    have change := act_change he
    rw [receipts_cons he, receives_of_dropped wired dropped he,
      ih (wired.step change) (change.dropped dropped) hr]
    rfl

theorem dropped_run (acts : List Act) (dropped : d.coordinator.stream = .dropped)
    (run : run? acts d = some d') : d'.coordinator.stream = .dropped :=
  run_keeps (fun f => f.coordinator.stream = .dropped) (fun _ => True)
    (fun _ _ _ _ gone hf => (act_change hf).dropped gone) acts d d' (fun _ _ => trivial)
    dropped run

theorem upcoming_of_next (next : c.next? = some r) (coming : List Receipt) :
    [r] <+: c.upcoming coming := by
  rw [next?, upcoming] at next
  rw [upcoming]
  cases inbox : c.inbox with
  | cons first rest =>
    rw [inbox] at next
    cases next
    exact ⟨_, rfl⟩
  | nil =>
    rw [inbox] at next
    cases gone : c.finished with
    | false =>
      rw [gone] at next
      cases next
    | true =>
      rw [gone] at next
      cases next
      exact List.prefix_rfl

theorem upcoming_of_message {m : Wire.StreamResponse} {rest : List Arrival}
    (next : c.inbox = .message m :: rest) (coming : List Receipt) :
    c.upcoming coming = .message m :: ({ c with inbox := rest } : Coordinator).upcoming coming := by
  rw [upcoming, next]
  rfl

theorem upcoming_put (arrival : Arrival) (on : c.stream ≠ .dropped) (coming : List Receipt) :
    (c.put arrival).1.upcoming coming = c.upcoming (arrival.receipt :: coming) := by
  cases gone : c.finished with
  | true =>
    have none : c.reaches = false := by rw [reaches, gone]; rfl
    rw [put_fst_of_not_reaches _ _ none, upcoming, upcoming, gone]
    rfl
  | false =>
    have reached : c.reaches = true := by simp [reaches, gone, on]
    simp [put, reached, upcoming, gone]

/-- An act takes from the front of what is coming, as long as the stream is there. -/
theorem Change.upcoming (wired : Wired d.session d.coordinator d.agenda)
    (on : d.coordinator.stream ≠ .dropped) (h : d.Change a s c g ended) (as : List Act) :
    c.stream = .dropped ∨ d.coordinator.upcoming (offered (a :: as)) =
      (d.receives a).map Prod.fst ++ c.upcoming (offered as) := by
  cases h with
  | moved effect =>
    cases effect with
    | queuedArbitration reading next | queuedDirective reading next | ignored reading next =>
      right
      rw [upcoming_of_message next, receives_of_next (next_of_message next)]
      rfl
    | orphaned reading | failed reading | finished reading =>
      exact .inl (dropStream_of_taken (wired.reading reading))
    | demoted | promoted | pushed | heldUp | panicked | applied | resumed | arbitrationsClosed
    | directivesClosed | stopped => exact .inr rfl
  | arrived arrival => exact .inr (upcoming_put arrival on _).symm
  | finished =>
    right
    show d.coordinator.upcoming [.closed] = d.coordinator.finish.1.upcoming (offered as)
    rw [Coordinator.upcoming, Coordinator.upcoming, finish]
    cases d.coordinator.finished <;> rfl
  | receiverCancelled gone reading => exact .inl (dropStream_of_taken (wired.reading reading))
  | began | refused | dialled | streamless | opened | asked | started | disconnected | closed
  | hungUp | parted | dismissed | retired | behaved | heldBack | letGo | crashed
  | dispatcherCancelled | reconciled | unsupervised => exact .inr rfl

/-- A run takes what is coming, in order and without a gap, until the stream is dropped. -/
theorem receipts_run (acts : List Act) (wired : Wired d.session d.coordinator d.agenda)
    (on : d.coordinator.stream ≠ .dropped) (run : run? acts d = some d') :
    (receipts acts d).map Prod.fst <+: d.coordinator.upcoming (offered acts) ∧
      (d'.coordinator.stream ≠ .dropped →
        (receipts acts d).map Prod.fst ++ d'.coordinator.upcoming [] =
          d.coordinator.upcoming (offered acts)) := by
  induction acts generalizing d with
  | nil =>
    cases run
    exact ⟨List.nil_prefix, fun _ => rfl⟩
  | cons a as ih =>
    obtain ⟨e, he, hr⟩ := Option.bind_eq_some_iff.mp run
    have change := act_change he
    have wired' := wired.step change
    rw [receipts_cons he, List.map_append]
    -- A stream that is dropped loses what was still coming: only a prefix has been taken.
    by_cases gone : e.coordinator.stream = .dropped
    · refine ⟨?_, fun still => absurd (dropped_run as gone hr) still⟩
      rw [receipts_of_dropped as wired' gone hr, List.map_nil, List.append_nil]
      by_cases receive : a = .move .receive
      · subst receive
        obtain ⟨r, taking⟩ := taking_of_receive wired he
        rw [receives_of_next taking.next]
        exact upcoming_of_next taking.next _
      · rw [receives_of_other receive]
        exact List.nil_prefix
    · obtain ⟨before, rest⟩ := ih wired' gone hr
      rw [(change.upcoming wired on as).resolve_left gone]
      refine ⟨(List.prefix_append_right_inj _).mpr before, fun still => ?_⟩
      rw [List.append_assoc, rest still]

end Dialogue

end PeeringAgent
