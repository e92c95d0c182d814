import PeeringAgent.Proofs.Dialogue.Gate

/-!
# One queue of a session

What the receiver has read for a queue against what the dispatcher has taken from it.
Both queues go through the same few turns, so this is argued once for any queue; the
effects of moves are then told apart for either of them.
-/

set_option autoImplicit false

namespace PeeringAgent

/-- Nothing has been lost of what the receiver has read: the dispatcher has not started
yet, runs, or has stopped of its own accord. -/
def Session.delivers (s : Session) : Bool :=
  match s.dispatcher with
  | .panicked => false
  | .cancelled => false
  | _ => true

namespace Dialogue

theorem delivers_of_same {s s' : Session} (same : s'.dispatcher = s.dispatcher) :
    s'.delivers = s.delivers := by
  rw [Session.delivers, Session.delivers, same]

/-! ## Any queue -/

section Queue

variable {α : Type} {s s' : Session} {q q' : Backlog α} {watched watched' : Bool}
  {received taken more done : List α}

/-- A queue between what has been received for it and what has been taken from it. -/
structure Pipe (s : Session) (q : Backlog α) (watched : Bool) (received taken : List α) :
    Prop where
  before : taken <+: received
  whole : s.delivers = true → taken ++ q.waiting = received
  reading : s.delivers = true → s.receiver = .reading →
    q.senderOpen = true ∧ q.receiverOpen = true
  /-- A queue is given up only behind a receiver that has ended. -/
  left : s.delivers = true → s.dispatcher ≠ .absent → watched = false →
    q.waiting = [] ∧ s.receiver ≠ .reading

/-- What can become of a queue, of its watch, and of what was received and taken. -/
inductive Turn (s : Session) (q : Backlog α) (watched : Bool) (s' : Session) :
    Backlog α → Bool → List α → List α → Prop
  | stays (receiver : s'.receiver = s.receiver)
      (present : s'.dispatcher ≠ .absent → s.dispatcher ≠ .absent) :
      Turn s q watched s' q watched [] []
  | put (x : α) (reading : s.receiver = .reading) (receiver : s'.receiver = s.receiver)
      (present : s'.dispatcher ≠ .absent → s.dispatcher ≠ .absent)
      (listener : q.receiverOpen = true) :
      Turn s q watched s' (q.send x).1 watched [x] []
  | took {x : α} {rest : List α} (next : q.waiting = x :: rest)
      (receiver : s'.receiver = s.receiver) (present : s.dispatcher ≠ .absent) :
      Turn s q watched s' (q.taken rest) watched [] [x]
  | deaf (reading : s.receiver = .reading) (spent : s'.receiver ≠ .reading)
      (present : s'.dispatcher ≠ .absent → s.dispatcher ≠ .absent) :
      Turn s q watched s' q.dropSender watched [] []
  /-- The dispatcher starts. -/
  | watch (receiver : s'.receiver = s.receiver) : Turn s q watched s' q true [] []
  | unwatch (receiver : s'.receiver = s.receiver) (closed : q.isClosed = true) :
      Turn s q watched s' q false [] []
  | stopped (unwatched : watched = false) (present : s.dispatcher ≠ .absent)
      (receiver : s'.receiver = s.receiver) :
      Turn s q watched s' q.dropReceiver watched [] []
  /-- From here on the queue does not matter any more. -/
  | lost {q' : Backlog α} {watched' : Bool} {more done : List α}
      (dead : s'.delivers = false) (first : done <+: q.waiting) :
      Turn s q watched s' q' watched' more done

theorem Turn.first (h : Turn s q watched s' q' watched' more done) : done <+: q.waiting := by
  cases h with
  | took next =>
    rw [next]
    exact ⟨_, rfl⟩
  | lost dead first => exact first
  | stays | put | deaf | watch | unwatch | stopped => exact List.nil_prefix

/-- Every turn keeps the account of a queue. -/
theorem Pipe.turn (h : Pipe s q watched received taken)
    (turn : Turn s q watched s' q' watched' more done)
    (still : s'.delivers = true → s.delivers = true) (idle : s.delivers = false → done = []) :
    Pipe s' q' watched' (received ++ more) (taken ++ done) := by
  have before : taken ++ done <+: received ++ more := by
    cases on : s.delivers with
    | false =>
      rw [idle on, List.append_nil]
      exact h.before.trans (List.prefix_append _ _)
    | true =>
      rw [← h.whole on, List.append_assoc]
      exact (List.prefix_append_right_inj _).mpr (turn.first.trans (List.prefix_append _ _))
  cases turn with
  | stays receiver present =>
    rw [List.append_nil, List.append_nil] at before ⊢
    exact ⟨before, fun on => h.whole (still on),
      fun on now => h.reading (still on) (receiver ▸ now),
      fun on here unwatched => receiver ▸ h.left (still on) (present here) unwatched⟩
  | put x reading receiver present listener =>
    obtain ⟨waiting, sender, stays⟩ := send_of_listener x listener
    constructor
    case before => exact before
    case whole =>
      intro on
      rw [waiting, List.append_nil, ← List.append_assoc, h.whole (still on)]
    case reading =>
      intro on now
      rw [sender, stays]
      exact h.reading (still on) reading
    case left =>
      intro on here unwatched
      exact absurd reading (h.left (still on) (present here) unwatched).2
  | took next receiver present =>
    constructor
    case before => exact before
    case whole =>
      intro on
      rw [List.append_nil, ← h.whole (still on), next, List.append_assoc]
      rfl
    case reading => exact fun on now => h.reading (still on) (receiver ▸ now)
    case left =>
      intro on here unwatched
      have nothing := (h.left (still on) present unwatched).1
      rw [next] at nothing
      cases nothing
  | deaf reading spent present =>
    rw [List.append_nil, List.append_nil] at before ⊢
    constructor
    case before => exact before
    case whole => exact fun on => h.whole (still on)
    case reading => exact fun _ now => absurd now spent
    case left =>
      intro on here unwatched
      exact absurd reading (h.left (still on) (present here) unwatched).2
  | watch receiver =>
    rw [List.append_nil, List.append_nil] at before ⊢
    exact ⟨before, fun on => h.whole (still on),
      fun on now => h.reading (still on) (receiver ▸ now), fun _ _ unwatched => by cases unwatched⟩
  | unwatch receiver closed =>
    obtain ⟨nothing, shut⟩ := (isClosed_iff q).mp closed
    rw [List.append_nil, List.append_nil] at before ⊢
    constructor
    case before => exact before
    case whole => exact fun on => h.whole (still on)
    case reading => exact fun on now => h.reading (still on) (receiver ▸ now)
    case left =>
      intro on _ _
      refine ⟨nothing, fun now => ?_⟩
      rw [receiver] at now
      rw [(h.reading (still on) now).1] at shut
      cases shut
  | stopped unwatched present receiver =>
    rw [List.append_nil, List.append_nil] at before ⊢
    have gone (on : s'.delivers = true) := h.left (still on) present unwatched
    constructor
    case before => exact before
    case whole =>
      intro on
      rw [← h.whole (still on), (gone on).1]
      rfl
    case reading => exact fun on now => absurd (receiver ▸ now) (gone on).2
    case left => exact fun on _ _ => ⟨rfl, receiver ▸ (gone on).2⟩
  | lost dead =>
    have off (on : s'.delivers = true) : False := by
      rw [dead] at on
      cases on
    exact ⟨before, fun on => (off on).elim, fun on => (off on).elim, fun on => (off on).elim⟩

/-- A turn at which nothing is received or taken. -/
theorem Pipe.quiet (h : Pipe s q watched received taken)
    (turn : Turn s q watched s' q' watched' [] [])
    (still : s'.delivers = true → s.delivers = true) : Pipe s' q' watched' received taken := by
  have turned := h.turn turn still fun _ => rfl
  rwa [List.append_nil, List.append_nil] at turned

theorem Pipe.same (h : Pipe s q watched received taken) (receiver : s'.receiver = s.receiver)
    (dispatcher : s'.dispatcher = s.dispatcher) : Pipe s' q watched received taken := by
  exact h.quiet (.stays receiver fun on => dispatcher ▸ on) fun on =>
    delivers_of_same dispatcher ▸ on

theorem pipe_empty (name : String) (highWater : Nat) (off : s.dispatcher = .absent) :
    Pipe s (Backlog.empty name highWater : Backlog α) watched [] [] :=
  ⟨List.nil_prefix, fun _ => rfl, fun _ _ => ⟨rfl, rfl⟩, fun _ on => absurd off on⟩

end Queue

/-! ## The two queues -/

variable {d : Dialogue} {s : Session} {c : Coordinator} {g : List Errand}
  {ended : List StreamEnded} {a : Act}

/-- A move does not bring a dispatcher back. -/
theorem Effect.still {m : Move} (h : d.Effect m s c ended) (on : s.delivers = true) :
    d.session.delivers = true := by
  cases off : d.session.delivers with
  | true => rfl
  | false =>
    have spent : d.session.dispatcher.isOver = true := by
      cases now : d.session.dispatcher <;> first | rfl | simp [Session.delivers, now] at off
    rw [delivers_of_same (h.frame.spent spent), off] at on
    cases on

theorem not_waiting_of_lost (off : d.session.delivers = false) :
    d.session.dispatcher ≠ .waiting := by
  intro waiting
  rw [Session.delivers, waiting] at off
  cases off

variable {received taken : List Wire.ArbitrationUpdate} {got done : List LinkDirective}

/-- A receiver that finds nobody at a queue has lost its dispatcher before. -/
theorem lost_of_alone {m : Wire.StreamResponse}
    (arbitrations : Pipe d.session d.session.arbitrations d.session.arbitrationsWatched
      received taken)
    (directives : Pipe d.session d.session.directives d.session.directivesWatched got done)
    (reading : d.session.receiver = .reading)
    (alone : m.arbitration? ≠ none ∧ d.session.arbitrations.receiverOpen = false ∨
      m.directive? ≠ none ∧ d.session.directives.receiverOpen = false) :
    d.deaf.delivers = false := by
  cases on : d.deaf.delivers with
  | false => rfl
  | true =>
    have before : d.session.delivers = true := on
    rcases alone with ⟨-, closed⟩ | ⟨-, closed⟩
    · rw [(arbitrations.reading before reading).2] at closed
      cases closed
    · rw [(directives.reading before reading).2] at closed
      cases closed

theorem Effect.directivesTurn {m : Move} (h : d.Effect m s c ended)
    (arbitrations : Pipe d.session d.session.arbitrations d.session.arbitrationsWatched
      received taken)
    (directives : Pipe d.session d.session.directives d.session.directivesWatched got done) :
    Turn d.session d.session.directives d.session.directivesWatched s s.directives
      s.directivesWatched ((d.reads (.move m)).filterMap (·.directive?))
      (d.applies (.move m)) := by
  have present : s.dispatcher ≠ .absent → d.session.dispatcher ≠ .absent :=
    fun here off => here (h.frame.dispatcher.mpr off)
  cases h with
  | queuedArbitration reading next =>
    rw [reads_of_message next]
    exact .stays rfl present
  | @queuedDirective u directive rest reading next valid listener =>
    have one : [Wire.StreamResponse.linkUpdate u].filterMap (·.directive?) = [directive] := by
      simp [Wire.StreamResponse.directive?, valid, Except.toOption]
    rw [reads_of_message next, one]
    exact .put directive reading rfl present listener
  | ignored reading next noArbitration noDirective =>
    rw [reads_of_message next, filterMap_singleton, noDirective]
    exact .stays rfl present
  | orphaned reading next alone =>
    exact .lost (lost_of_alone arbitrations directives reading alone) List.nil_prefix
  | failed reading next =>
    rw [reads, next]
    exact .deaf reading (by simp [Dialogue.deaf]) present
  | finished reading nothing =>
    rw [reads, nothing]
    exact .deaf reading (by simp [Dialogue.deaf]) present
  | demoted | promoted | pushed | heldUp | resumed | arbitrationsClosed =>
    exact .stays rfl present
  | panicked => exact .lost rfl List.nil_prefix
  | applied waiting watched next =>
    rw [applies_of_next next]
    exact .took next rfl (by simp [waiting])
  | directivesClosed waiting watched closed => exact .unwatch rfl closed
  | stopped waiting noArbitrations noDirectives =>
    exact .stopped noDirectives (by simp [waiting]) rfl

theorem Effect.arbitrationsTurn {m : Move} (h : d.Effect m s c ended)
    (arbitrations : Pipe d.session d.session.arbitrations d.session.arbitrationsWatched
      received taken)
    (directives : Pipe d.session d.session.directives d.session.directivesWatched got done) :
    Turn d.session d.session.arbitrations d.session.arbitrationsWatched s s.arbitrations
      s.arbitrationsWatched ((d.reads (.move m)).filterMap (·.arbitration?))
      (d.takes (.move m)) := by
  have present : s.dispatcher ≠ .absent → d.session.dispatcher ≠ .absent :=
    fun here off => here (h.frame.dispatcher.mpr off)
  cases h with
  | @queuedArbitration u rest reading next listener =>
    rw [reads_of_message next]
    exact .put u reading rfl present listener
  | queuedDirective reading next =>
    rw [reads_of_message next]
    exact .stays rfl present
  | ignored reading next noArbitration noDirective =>
    rw [reads_of_message next, filterMap_singleton, noArbitration]
    exact .stays rfl present
  | orphaned reading next alone =>
    exact .lost (lost_of_alone arbitrations directives reading alone) List.nil_prefix
  | failed reading next =>
    rw [reads, next]
    exact .deaf reading (by simp [Dialogue.deaf]) present
  | finished reading nothing =>
    rw [reads, nothing]
    exact .deaf reading (by simp [Dialogue.deaf]) present
  | demoted waiting watched next | promoted waiting watched next =>
    rw [takes_of_next next]
    exact .took next rfl (by simp [waiting])
  | panicked => exact .lost rfl List.nil_prefix
  | pushed | heldUp | applied | resumed | directivesClosed => exact .stays rfl present
  | arbitrationsClosed waiting watched closed => exact .unwatch rfl closed
  | stopped waiting noArbitrations noDirectives =>
    exact .stopped noArbitrations (by simp [waiting]) rfl

/-- What an act does to the store is in the history of the store. -/
theorem Change.store (h : d.Change a s c g ended) :
    s.store = LinkStore.run (d.works a) d.session.store := by
  cases h with
  | moved effect =>
    cases effect with
    | applied waiting watched next =>
      rw [works, next]
      rfl
    | queuedArbitration | queuedDirective | ignored | orphaned | failed | finished | demoted
    | promoted | pushed | heldUp | panicked | resumed | arbitrationsClosed | directivesClosed
    | stopped => rfl
  | began | refused | dialled | streamless | opened | asked | started | disconnected | closed
  | hungUp | parted | dismissed | retired | arrived | finished | behaved | heldBack | letGo
  | crashed | receiverCancelled | dispatcherCancelled | reconciled | unsupervised => rfl

end Dialogue

end PeeringAgent
