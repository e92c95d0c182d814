import PeeringAgent.Proofs.Dialogue.Notice
import PeeringAgent.Proofs.Dialogue.Reading

/-!
# The end of a receiver

A receiver ends at the first receipt that is a cause of it, and tells so once. Nothing
that comes later on the stream has an effect, and nobody has to listen. A receiver that is
stopped before it comes to a cause has nothing to tell.
-/

set_option autoImplicit false

namespace PeeringAgent.Dialogue

open Coordinator

variable {d e d' : Dialogue} {s : Session} {c : Coordinator} {g : List Errand}
  {ended : List StreamEnded} {a : Act} {known : List String}

/-- Why the receiver of a run has ended, if it has. -/
def causes (acts : List Act) (d : Dialogue) : List String :=
  (receipts acts d).filterMap Prod.snd

/-- What a run has to tell its supervisor: the client's name, and the cause. -/
def events (acts : List Act) (d : Dialogue) : List StreamEnded :=
  (causes acts d).map (⟨d.session.config.credentials.client, ·⟩)

/-! ## The end event -/

/-- Only what is taken from the stream brings an end event. -/
theorem Change.ended_of_other (h : d.Change a s c g ended) (other : a ≠ .move .receive) :
    ended = d.ended := by
  cases h with
  | moved effect =>
    cases effect with
    | queuedArbitration | queuedDirective | ignored | orphaned | failed | finished =>
      exact absurd rfl other
    | demoted | promoted | pushed | heldUp | panicked | applied | resumed | arbitrationsClosed
    | directivesClosed | stopped => rfl
  | began | refused | dialled | streamless | opened | asked | started | disconnected | closed
  | hungUp | parted | dismissed | retired | arrived | finished | behaved | heldBack | letGo
  | crashed | receiverCancelled | dispatcherCancelled | reconciled | unsupervised => rfl

/-- No other act ends a receiver; it can be stopped while it reads. -/
theorem Change.receiver_of_other (h : d.Change a s c g ended) (other : a ≠ .move .receive) :
    (s.receiver = .ended → d.session.receiver = .ended) ∧
      (s.receiver = .cancelled →
        d.session.receiver = .cancelled ∨ d.session.receiver = .reading) := by
  cases h with
  | moved effect =>
    cases effect with
    | queuedArbitration | queuedDirective | ignored | orphaned | failed | finished =>
      exact absurd rfl other
    | demoted | promoted | pushed | heldUp | panicked | applied | resumed | arbitrationsClosed
    | directivesClosed | stopped => exact ⟨id, .inl⟩
  | opened => exact ⟨nofun, nofun⟩
  | receiverCancelled gone reading => exact ⟨nofun, fun _ => .inr reading⟩
  | began | refused | dialled | streamless | asked | started | disconnected | closed | hungUp
  | parted | dismissed | retired | arrived | finished | behaved | heldBack | letGo | crashed
  | dispatcherCancelled | reconciled | unsupervised => exact ⟨id, .inl⟩

/-- The causes so far against the receiver and the end events. -/
structure Account (d : Dialogue) (causes : List String) : Prop where
  unfinished : d.coordinator.stream ≠ .dropped → causes = []
  one : causes.length ≤ 1
  caused : d.session.receiver = .ended → causes ≠ []
  spared : d.session.receiver = .cancelled → causes = []
  part : d.ended <+: causes.map (⟨d.name, ·⟩)
  told : d.supervised = true → d.ended = causes.map (⟨d.name, ·⟩)

theorem supervised_before (he : d.act? a = some e) (on : e.supervised = true) :
    d.supervised = true := by
  by_cases leaves : a = .unsupervise
  · subst leaves
    cases he
    cases on
  · rwa [← act_supervised he leaves]

theorem name_step (he : d.act? a = some e) : e.name = d.name := by
  have config := (act_change he).config
  rw [name, name, Session.name, Session.name, config]

/-- What is taken is no cause, or it is the first one. -/
theorem Account.take (h : Account d known) (wired : Wired d.session d.coordinator d.agenda)
    (he : d.act? (.move .receive) = some e) :
    Account e (known ++ (d.receives (.move .receive)).filterMap Prod.snd) := by
  obtain ⟨r, taking⟩ := taking_of_receive wired he
  -- A receiver that still reads holds the stream, so there has been no cause before.
  have taken := wired.reading (reading_of_receive he)
  have none : known = [] := h.unfinished (by simp [taken])
  have before : d.ended = [] := by simpa [none] using h.part
  have listens := act_supervised he nofun
  rw [receives_of_next taking.next, none, List.nil_append]
  cases cause : r.cause? d.isDown with
  | none =>
    obtain ⟨reading, quiet, stream⟩ := taking.goesOn cause
    have still : e.ended = [] := quiet.trans before
    refine ⟨fun _ => rfl, by simp, fun gone => ?_, fun _ => rfl, by simp [still],
      fun _ => by simp [still]⟩
    rw [reading] at gone
    cases gone
  | some reason =>
    obtain ⟨session, dropped, told⟩ := taking.ends reason cause
    rw [Dialogue.told, before, List.nil_append] at told
    have events : [reason].map (StreamEnded.mk e.name) = [⟨d.name, reason⟩] := by
      rw [name_step he]
      rfl
    refine ⟨fun on => absurd dropped on, by simp, fun _ => by simp, fun gone => ?_, ?_,
      fun on => ?_⟩
    · rw [session] at gone
      cases gone
    · show e.ended <+: [reason].map (StreamEnded.mk e.name)
      rw [events, told]
      split
      · exact List.prefix_rfl
      · exact List.nil_prefix
    · show e.ended = [reason].map (StreamEnded.mk e.name)
      rw [events, told, if_pos (listens ▸ on)]

theorem Account.step (h : Account d known) (wired : Wired d.session d.coordinator d.agenda)
    (he : d.act? a = some e) : Account e (known ++ (d.receives a).filterMap Prod.snd) := by
  by_cases receive : a = .move .receive
  · subst receive
    exact h.take wired he
  · have change := act_change he
    have events := change.ended_of_other receive
    rw [receives_of_other receive, List.filterMap_nil, List.append_nil]
    obtain ⟨ends, stops⟩ := change.receiver_of_other receive
    refine ⟨fun on => h.unfinished fun gone => on (change.dropped gone), h.one,
      fun gone => h.caused (ends gone), fun gone => ?_, ?_, fun on => ?_⟩
    · rcases stops gone with before | reading
      · exact h.spared before
      · exact h.unfinished (by simp [wired.reading reading])
    · rw [events, name_step he]
      exact h.part
    · rw [events, name_step he]
      exact h.told (supervised_before he on)

theorem Account.run (acts : List Act) (h : Account d known)
    (wired : Wired d.session d.coordinator d.agenda) (run : run? acts d = some d') :
    Account d' (known ++ causes acts d) := by
  induction acts generalizing d known with
  | nil =>
    cases run
    rwa [causes, receipts, gather, List.filterMap_nil, List.append_nil]
  | cons a as ih =>
    obtain ⟨e, he, hr⟩ := Option.bind_eq_some_iff.mp run
    rw [causes, receipts_cons he, List.filterMap_append, ← List.append_assoc]
    exact ih (h.step wired he) (wired.step (act_change he)) hr

theorem account_new (config : SessionConfig) (behaviour : Behaviour) (store : LinkStore) :
    Account ((new config behaviour).setStore store) [] :=
  ⟨fun _ => rfl, Nat.zero_le _, nofun, fun _ => rfl, List.prefix_rfl, fun _ => rfl⟩

/-- Behind a cause nothing more is taken. -/
theorem receipts_pairwise (acts : List Act) (wired : Wired d.session d.coordinator d.agenda)
    (run : run? acts d = some d') : (receipts acts d).Pairwise fun before _ => before.2 = none := by
  induction acts generalizing d with
  | nil => exact .nil
  | cons a as ih =>
    obtain ⟨e, he, hr⟩ := Option.bind_eq_some_iff.mp run
    have wired' := wired.step (act_change he)
    rw [receipts_cons he]
    by_cases receive : a = .move .receive
    · subst receive
      obtain ⟨r, taking⟩ := taking_of_receive wired he
      rw [receives_of_next taking.next]
      refine List.pairwise_cons.mpr ⟨fun later member => ?_, ih wired' hr⟩
      cases cause : r.cause? d.isDown with
      | none => rfl
      | some reason =>
        obtain ⟨-, dropped, -⟩ := taking.ends reason cause
        rw [receipts_of_dropped as wired' dropped hr] at member
        cases member
    · rw [receives_of_other receive]
      exact ih wired' hr

/-! ## Later on the stream -/

def Act.feeds : Act → Bool
  | .arrive _ => true
  | .finish => true
  | _ => false

/-- Whether the coordinator has ended the stream is not looked at. -/
def unclosed : View := { View.plain with finished := fun _ => true, nothing := rfl }

/-- Two dialogues behind the end of the stream, one of which may not know that it was ended. -/
structure Deafened (d e : Dialogue) : Prop where
  wired : Wired d.session d.coordinator d.agenda
  dropped : d.coordinator.stream = .dropped
  same : e.seen unclosed = d.seen unclosed

theorem Deafened.skip (h : Deafened d e) (he : d.act? a = some d') (feeds : a.feeds = true) :
    Deafened d' e ∧ d.receives a = [] := by
  have change := act_change he
  have wired := h.wired.step change
  have dropped := change.dropped h.dropped
  refine ⟨⟨wired, dropped, h.same.trans ?_⟩, receives_of_dropped h.wired h.dropped he⟩
  cases a with
  | arrive arrival =>
    have none : d.coordinator.reaches = false := by simp [reaches, h.dropped]
    cases he
    rw [put_fst_of_not_reaches _ _ none]
  | finish =>
    cases he
    rfl
  | _ => cases feeds

theorem Deafened.beside (h : Deafened d e) (he : d.act? a = some d')
    (other : a.feeds = false) :
    ∃ e', e.act? a = some e' ∧ Deafened d' e' ∧ e.receives a = d.receives a := by
  have change := act_change he
  have receive : a ≠ .move .receive := by
    rintro rfl
    have taken := h.wired.reading (reading_of_receive he)
    rw [h.dropped] at taken
    cases taken
  have act : ∃ e', e.act? a = some e' ∧ e'.seen unclosed = d'.seen unclosed := by
    cases outward : a.facesOut with
    | false => exact act_of_seen h.same he outward
    | true =>
      cases a with
      | unsupervise =>
        have same := congrArg (fun f : Dialogue => { f with supervised := false }) h.same
        cases he
        exact ⟨_, rfl, same⟩
      | arrive | finish => cases other
      | move m => cases m <;> first | exact absurd rfl receive | cases outward
      | _ => cases outward
  obtain ⟨e', act, same⟩ := act
  refine ⟨e', act, ⟨h.wired.step change, change.dropped h.dropped, same⟩, ?_⟩
  rw [receives_of_other receive, receives_of_other receive]

/-- When the stream has been dropped, it makes no difference what is put on it. -/
theorem run_dropped (acts : List Act) (wired : Wired d.session d.coordinator d.agenda)
    (dropped : d.coordinator.stream = .dropped) (run : run? acts d = some d') :
    ∃ e', run? (acts.filter (!·.feeds)) d = some e' ∧
      { e' with coordinator := { e'.coordinator with finished := d'.coordinator.finished } } =
        d' := by
  obtain ⟨e', rest, ⟨-, -, same⟩, -⟩ := run_without (fun _ a => a.feeds) Deafened
    receives receives (fun _ _ _ _ h he feeds => h.skip he feeds)
    (fun _ _ _ _ h he other => h.beside he other) acts ⟨wired, dropped, rfl⟩ run
  rw [without_eq_filter _ acts run] at rest
  have closed := congrArg (fun f : Dialogue =>
    { f with coordinator := { f.coordinator with finished := d'.coordinator.finished } }) same
  exact ⟨e', rest, closed⟩

/-! ## Without a supervisor -/

def Act.leaves : Act → Bool
  | .unsupervise => true
  | _ => false

/-- Nobody listens, and nothing has been told. -/
def unheard : View :=
  { View.plain with supervised := fun _ => false, ended := fun _ => [], nothing := rfl }

theorem unheard_tells : unheard.Tells := fun _ _ _ => rfl

/-- Whatever happens, apart from the leave of the supervisor, happens without one too. -/
theorem act_unheard (stays : a.leaves = false) (d : Dialogue) :
    (d.seen unheard).act? a = (d.act? a).map (seen unheard) := by
  cases outward : a.facesOut with
  | false => exact act_seen unheard d outward
  | true =>
    cases a with
    | arrive | finish => rfl
    | unsupervise => cases stays
    | move m =>
      cases m with
      | receive => exact receive_seen d unheard_tells (View.keepsNext_of_same rfl rfl _)
      | _ => cases outward
    | _ => cases outward

/-- Two dialogues that differ in what has been told, the second of them with a listener. -/
structure Overheard (d e : Dialogue) : Prop where
  same : e.seen unheard = d.seen unheard
  listens : e.supervised = true

theorem Overheard.skip (h : Overheard d e) (he : d.act? a = some d')
    (leaves : a.leaves = true) : Overheard d' e ∧ d.receives a = [] := by
  cases a with
  | unsupervise =>
    cases he
    exact ⟨⟨h.same, h.listens⟩, rfl⟩
  | _ => cases leaves

theorem receives_of_same (session : e.session = d.session)
    (coordinator : e.coordinator = d.coordinator) (a : Act) : e.receives a = d.receives a := by
  by_cases receive : a = .move .receive
  · rw [receive, receives, receives, isDown, isDown, session, coordinator]
  · rw [receives_of_other receive, receives_of_other receive]

theorem Overheard.beside (h : Overheard d e) (he : d.act? a = some d')
    (stays : a.leaves = false) :
    ∃ e', e.act? a = some e' ∧ Overheard d' e' ∧ e.receives a = d.receives a := by
  have goes := act_unheard stays e
  rw [h.same, act_unheard stays d, he] at goes
  obtain ⟨e', act, same⟩ := Option.map_eq_some_iff.mp goes.symm
  have session := congrArg Dialogue.session h.same
  have coordinator := congrArg Dialogue.coordinator h.same
  have listening : a ≠ .unsupervise := by
    rintro rfl
    cases stays
  exact ⟨e', act, ⟨same, (act_supervised act listening).trans h.listens⟩,
    receives_of_same session coordinator a⟩

/-- A run without a supervisor goes the same way with one. -/
theorem run_overheard (acts : List Act) (listens : d.supervised = true)
    (run : run? acts d = some d') :
    ∃ e', run? (acts.filter (!·.leaves)) d = some e' ∧ Overheard d' e' ∧
      receipts (acts.filter (!·.leaves)) d = receipts acts d := by
  rw [← without_eq_filter Act.leaves acts run]
  exact run_without _ Overheard receives receives
    (fun _ _ _ _ h he leaves => h.skip he leaves) (fun _ _ _ _ h he stays => h.beside he stays)
    acts ⟨rfl, listens⟩ run

/-- With a supervisor all the time a run tells every cause, and is otherwise the same. -/
theorem exists_overheard (acts : List Act) (start : Account d [])
    (wired : Wired d.session d.coordinator d.agenda) (listens : d.supervised = true)
    (run : run? acts d = some d') :
    ∃ e, run? (acts.filter (!·.leaves)) d = some e ∧ e.session = d'.session ∧
      e.coordinator = d'.coordinator ∧ e.agenda = d'.agenda ∧ e.log = d'.log ∧
      e.ended = events acts d := by
  obtain ⟨e, alone, overheard, taken⟩ := run_overheard acts listens run
  have session := congrArg Dialogue.session overheard.same
  have coordinator := congrArg Dialogue.coordinator overheard.same
  have agenda := congrArg Dialogue.agenda overheard.same
  have log := congrArg Dialogue.log overheard.same
  have name : e.name = d.session.config.credentials.client :=
    congrArg SessionConfig.name (run_config _ alone)
  have told : e.ended = (causes _ d).map (⟨e.name, ·⟩) :=
    (start.run _ wired alone).told overheard.listens
  rw [causes, taken, name] at told
  exact ⟨e, alone, session, coordinator, agenda, log, told⟩

/-! ## Stopped before -/

/-- A receiver that has been stopped before it came to a cause never has one. -/
theorem causes_of_cancelled (before after : List Act) (start : Account d [])
    (wired : Wired d.session d.coordinator d.agenda) (part : run? before d = some e)
    (stopped : e.session.receiver = .cancelled) (run : run? after e = some d') :
    causes (before ++ after) d = [] := by
  have account := start.run before wired part
  have wired' := wired.run before part
  have none : causes before d = [] := account.spared stopped
  have rest := receipts_of_dropped after wired' (wired'.spent (.inr stopped)) run
  rw [causes, receipts, gather_append receives before _ part, List.filterMap_append]
  show causes before d ++ (receipts after e).filterMap Prod.snd = []
  rw [none, rest]
  rfl

/-! ## The end of a run -/

/-- How the receiver of a run comes to its end, and what is told of it. -/
structure Ending (start : Dialogue) (acts : List Act) (d : Dialogue) : Prop where
  /-- The receiver takes what has been put on the stream, in order and without a gap. -/
  order : (receipts acts start).map Prod.fst <+: offered acts
  /-- It waits only when it has taken everything. -/
  waits : d.session.receiver = .reading → d.act? (.move .receive) = none →
    (receipts acts start).map Prod.fst = offered acts
  /-- Each receipt has this effect, and none is behind a cause. -/
  taking : ∀ before after e e', acts = before ++ .move .receive :: after →
    run? before start = some e → e.act? (.move .receive) = some e' →
    ∃ r, e.Taking r e'.session e'.coordinator e'.ended
  first : (receipts acts start).Pairwise fun before _ => before.2 = none
  reading : d.session.receiver = .reading → causes acts start = []
  caused : d.session.receiver = .ended → ∃ reason, causes acts start = [reason]
  /-- One end event is told at most, to whoever listens. -/
  one : (causes acts start).length ≤ 1
  part : d.ended <+: events acts start
  told : d.supervised = true → d.ended = events acts start
  /-- Behind the end it makes no difference what comes. -/
  later : ∀ before after e, acts = before ++ after → run? before start = some e →
    e.session.receiver = .ended ∨ e.session.receiver = .cancelled →
    ∃ e', run? (after.filter (!·.feeds)) e = some e' ∧
      { e' with coordinator := { e'.coordinator with finished := d.coordinator.finished } } = d
  /-- A receiver that is stopped before has nothing to tell. -/
  stopped : ∀ before after e, acts = before ++ after → run? before start = some e →
    e.session.receiver = .cancelled → causes acts start = [] ∧ d.ended = []
  /-- It can be stopped wherever it reads, once a release has come to that. -/
  stoppable : d.session.dismissed = true → d.session.receiver = .reading →
    ∃ e, d.act? .cancelReceiver = some e ∧ e.session.receiver = .cancelled ∧
      e.ended = d.ended
  /-- With a supervisor all the time, nothing but the end event is different. -/
  unheard : ∃ e, run? (acts.filter (!·.leaves)) start = some e ∧ e.session = d.session ∧
    e.coordinator = d.coordinator ∧ e.agenda = d.agenda ∧ e.log = d.log ∧
    e.ended = events acts start

/-- A receiver ends at the first cause, tells so once to whoever listens, and nothing that
comes later has an effect. -/
theorem ending_of_run (config : SessionConfig) (behaviour : Behaviour) (store : LinkStore)
    (acts : List Act) (d : Dialogue)
    (run : run? acts ((new config behaviour).setStore store) = some d) :
    Ending ((new config behaviour).setStore store) acts d := by
  have fresh := wired_new config behaviour store
  have opening := account_new config behaviour store
  have listens : ((new config behaviour).setStore store).supervised = true := rfl
  have there : ((new config behaviour).setStore store).coordinator.stream ≠ .dropped := nofun
  have all : ((new config behaviour).setStore store).coordinator.upcoming (offered acts) =
    offered acts := rfl
  generalize (new config behaviour).setStore store = start
    at run fresh opening listens there all ⊢
  have wired := fresh.run acts run
  have account : Account d (causes acts start) := opening.run acts fresh run
  have named : d.name = start.session.config.credentials.client :=
    congrArg SessionConfig.name (run_config acts run)
  obtain ⟨inOrder, whole⟩ := receipts_run acts fresh there run
  rw [all] at inOrder whole
  have stream (now : d.session.receiver = .reading) : d.coordinator.stream ≠ .dropped := by
    simp [wired.reading now]
  constructor
  case order => exact inOrder
  case waits =>
    intro now stuck
    have nothing := List.head?_eq_none_iff.mp (next_of_waiting now stuck)
    have taken := whole (stream now)
    rwa [nothing, List.append_nil] at taken
  case taking =>
    rintro before after e e' rfl part he
    exact taking_of_receive (fresh.run before part) he
  case first => exact receipts_pairwise acts fresh run
  case reading => exact fun now => account.unfinished (stream now)
  case caused =>
    intro gone
    exact List.length_eq_one_iff.mp
      (Nat.le_antisymm account.one (List.length_pos_iff.mpr (account.caused gone)))
  case one => exact account.one
  case part =>
    rw [events, ← named]
    exact account.part
  case told =>
    rw [events, ← named]
    exact account.told
  case later =>
    rintro before after e rfl part gone
    have wired := fresh.run before part
    exact run_dropped after wired (wired.spent gone) (run_split run part)
  case stopped =>
    rintro before after e rfl part now
    have none := causes_of_cancelled before after opening fresh part now (run_split run part)
    have told := account.part
    rw [none] at told
    exact ⟨none, List.prefix_nil.mp told⟩
  case stoppable =>
    intro dismissed reading
    exact ⟨_, if_pos ⟨dismissed, reading⟩, rfl, rfl⟩
  case unheard => exact exists_overheard acts opening fresh listens run

/-- A push brings the dispatcher down; noise comes, then an update, then more of them. -/
def exampleCollapse : List Act :=
  [.beginConnect, .carryOn, .carryOn, .carryOn, .carryOn, .carryOn, .hold,
   .arrive (.message (.arbitration ⟨none, 100, .primary⟩)), .move .receive,
   .move .dispatchArbitration, .move .startPush,
   .arrive (.message (.linkUpdate (exampleUpdate .create))), .move .receive, .crash,
   .arrive (.message (.error ⟨"overload"⟩)), .move .receive,
   .arrive (.message (.linkUpdate (exampleUpdate .destroy))), .move .receive,
   .arrive (.message (.arbitration ⟨none, 100, .primary⟩)), .finish, .closeEnded, .carryOn,
   .carryOn, .carryOn, .carryOn]

theorem exampleCollapse_ending :
    ∃ d, run? exampleCollapse ((new exampleConfig .agreeable).setStore .empty) = some d ∧
      Ending ((new exampleConfig .agreeable).setStore .empty) exampleCollapse d := by
  have possible :
      (run? exampleCollapse ((new exampleConfig .agreeable).setStore .empty)).isSome = true := by
    decide
  obtain ⟨d, run⟩ := Option.isSome_iff_exists.mp possible
  exact ⟨d, run, ending_of_run _ _ _ _ d run⟩

/-- A session is disconnected, and the coordinator ends the stream when it is told so. -/
def exampleFarewell : List Act :=
  [.beginConnect, .carryOn, .carryOn, .carryOn, .carryOn, .carryOn, .disconnect, .carryOn,
   .finish]

/-- The receiver comes to the end of the stream before it is told to stop. -/
theorem exampleFarewell_tells : ∃ e d,
    run? exampleFarewell ((new exampleConfig .agreeable).setStore .empty) = some e ∧
      e.session.receiver = .reading ∧ e.ended = [] ∧
      run? [.move .receive, .carryOn, .carryOn, .carryOn] e = some d ∧ d.agenda = [] ∧
      d.session.phase = .closed ∧ d.ended = [⟨"edge", "stream closed by coordinator"⟩] := by
  have possible :
      ((run? exampleFarewell ((new exampleConfig .agreeable).setStore .empty)).any fun e =>
        e.session.receiver == .reading && e.ended.isEmpty &&
        (run? [.move .receive, .carryOn, .carryOn, .carryOn] e).any fun d =>
          d.agenda.isEmpty && d.session.phase == .closed &&
          d.ended == [⟨"edge", "stream closed by coordinator"⟩]) = true := by decide
  obtain ⟨e, run, holds⟩ := (Option.any_eq_true _ _).mp possible
  simp only [Bool.and_eq_true, List.isEmpty_iff, beq_iff_eq] at holds
  obtain ⟨⟨reading, untold⟩, later⟩ := holds
  obtain ⟨d, rest, holds⟩ := (Option.any_eq_true _ _).mp later
  simp only [Bool.and_eq_true, List.isEmpty_iff, beq_iff_eq] at holds
  obtain ⟨⟨complete, closed⟩, told⟩ := holds
  exact ⟨e, d, run, reading, untold, rest, complete, closed, told⟩

end PeeringAgent.Dialogue
