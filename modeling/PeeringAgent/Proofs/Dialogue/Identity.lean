import PeeringAgent.Proofs.Dialogue.Conservation
import PeeringAgent.Proofs.Transport.Framing
import PeeringAgent.Proofs.Wire.LinkFrame

/-!
# From the wire to the store

What becomes of a link update from the line it is written on to the entry it changes:
the link that the frame names, and no other, or none at all and a reason.
-/

set_option autoImplicit false

namespace PeeringAgent.Dialogue

open Wire (LinkFrame)
open Json (Value)

variable {d e f : Dialogue} {directive : LinkDirective}

/-! ## From the line to the receiver -/

theorem arrival_of_frame {v : Value} {s : List Char} (text : v.Writes s) (unbroken : '\n' ∉ s)
    (behind : Frame.Bytes) :
    Arrival.ofNext?
        (Frame.next Wire.StreamResponse.ofJson? (Frame.writeLine s ++ behind)).1 =
      some (match Wire.StreamResponse.ofJson? v with
        | some m => .message m
        | none => .failure Frame.malformed) := by
  have parsed := Value.parse_of_writes text
  have visible : Text.allBlank s = false := by
    apply Bool.eq_false_iff.mpr
    intro blank
    rw [Value.parse_blank blank] at parsed
    cases parsed
  rw [Frame.next_writeLine _ unbroken visible, Frame.decodeLine, Frame.toText_ofText]
  simp only [Wire.StreamResponse.decode_of_writes text]
  cases Wire.StreamResponse.ofJson? v <;> rfl

/-! ## From the queue to the store -/

/-- What a run applies and leaves in the queue: what was there and what it reads. -/
theorem applied_waiting {got : List Wire.StreamResponse}
    {dones : List LinkDirective} {adopted : List Wire.ArbitrationUpdate} (acts : List Act)
    (ledger : Ledger d.session d.coordinator d.agenda got dones adopted)
    (run : run? acts d = some f) (on : d.session.delivers = true)
    (still : f.session.delivers = true) :
    applied acts d ++ f.session.directives.waiting =
      d.session.directives.waiting ++ (received acts d).filterMap (·.directive?) := by
  have before := ledger.directives.whole on
  have after := (ledger.run acts run).directives.whole still
  rw [List.filterMap_append, ← before, List.append_assoc, List.append_assoc] at after
  exact List.append_cancel_left after

/-- The dispatcher applies the first directive that waits. -/
theorem store_of_dispatch {first : LinkDirective} {rest : List LinkDirective}
    (next : d.session.directives.waiting = first :: rest)
    (he : d.act? (.move .dispatchDirective) = some e) :
    e.session.store = d.session.store.apply first := by
  have effect := (move_moved (m := .dispatchDirective) he).effect
  generalize e.session = s, e.coordinator = c, e.ended = ended at effect ⊢
  cases effect with
  | applied waiting watched there =>
    rw [next] at there
    cases there
    rfl

theorem delivers_of_dispatch (he : d.act? (.move .dispatchDirective) = some e) :
    d.session.delivers = true := by
  have effect := (move_moved (m := .dispatchDirective) he).effect
  generalize e.session = s, e.coordinator = c, e.ended = ended at effect
  cases effect with
  | applied waiting => rw [Session.delivers, waiting]

/-- A dispatcher that waits can apply all that waits for it. -/
theorem run_dispatch (directives more : List LinkDirective)
    (waiting : d.session.dispatcher = .waiting) (watched : d.session.directivesWatched = true)
    (queued : d.session.directives.waiting = directives ++ more) :
    ∃ f, run? (List.replicate directives.length (.move .dispatchDirective)) d = some f ∧
      applied (List.replicate directives.length (.move .dispatchDirective)) d = directives ∧
      f.session.dispatcher = .waiting ∧ f.session.directivesWatched = true ∧
      f.session.directives.waiting = more := by
  induction directives generalizing d with
  | nil => exact ⟨d, rfl, rfl, waiting, watched, queued⟩
  | cons first rest ih =>
    let e := d.setSession
      { d.session with
        directives := d.session.directives.taken (rest ++ more)
        store := d.session.store.apply first }
    have he : d.act? (.move .dispatchDirective) = some e := by
      rw [act?, move?, dispatchDirective?, if_pos ⟨waiting, watched⟩, Backlog.receive, queued]
      rfl
    obtain ⟨f, run, all, waits, watches, left⟩ := ih (d := e) waiting watched rfl
    refine ⟨f, ?_, ?_, waits, watches, left⟩
    · rw [List.length_cons, List.replicate_succ, run?, he]
      exact run
    · rw [List.length_cons, List.replicate_succ, applied_cons he, all, applies_of_next queued]
      rfl

/-- A directive has been queued, and changes its own link only, once, when its turn comes. -/
structure Handed (directive : LinkDirective) (d e : Dialogue) : Prop where
  store : e.session.store = d.session.store
  goesOn : e.session.receiver = .reading ∧ e.ended = d.ended
  queued : e.session.directives.waiting = d.session.directives.waiting ++ [directive]
  /-- What is applied after all that waited before is this directive. -/
  applied : ∀ acts f g, run? acts e = some f →
    (applied acts e).length = d.session.directives.waiting.length →
    f.act? (.move .dispatchDirective) = some g →
    g.session.store = f.session.store.apply directive ∧
      ∀ l, l ≠ directive.link → g.session.store.state? l = f.session.store.state? l
  /-- Until then it waits. -/
  waits : ∀ acts f, run? acts e = some f → f.session.delivers = true →
    (Dialogue.applied acts e).length ≤ d.session.directives.waiting.length →
    directive ∈ f.session.directives.waiting
  /-- A dispatcher that is free can do it at once. -/
  possible : e.session.dispatcher = .waiting → ∃ acts f g, run? acts e = some f ∧
    (Dialogue.applied acts e).length = d.session.directives.waiting.length ∧
    f.act? (.move .dispatchDirective) = some g

theorem state?_apply_of_ne (store : LinkStore) (directive : LinkDirective) {l : Link}
    (other : l ≠ directive.link) : (store.apply directive).state? l = store.state? l := by
  have step := LinkStore.state?_step store (.direct directive) l
  have apart : (LinkStore.Op.direct directive).concerns l = false :=
    decide_eq_false (Ne.symm other)
  rwa [LinkStore.evolve_of_other apart] at step

theorem handed_of_queued {got : List Wire.StreamResponse} {dones : List LinkDirective}
    {adopted : List Wire.ArbitrationUpdate}
    (ledger : Ledger e.session e.coordinator e.agenda got dones adopted)
    (on : e.session.delivers = true) (store : e.session.store = d.session.store)
    (goesOn : e.session.receiver = .reading ∧ e.ended = d.ended)
    (queued : e.session.directives.waiting = d.session.directives.waiting ++ [directive]) :
    Handed directive d e := by
  -- what is in the queue once as many directives have been applied as waited before
  have turn (acts : List Act) (f : Dialogue) (run : run? acts e = some f)
      (still : f.session.delivers = true) :
      ∃ more, applied acts e ++ f.session.directives.waiting =
        d.session.directives.waiting ++ directive :: more := by
    have whole := applied_waiting acts ledger run on still
    rw [queued, List.append_assoc] at whole
    exact ⟨_, whole⟩
  constructor
  case store => exact store
  case goesOn => exact goesOn
  case queued => exact queued
  case applied =>
    intro acts f g run count act
    obtain ⟨more, whole⟩ := turn acts f run (delivers_of_dispatch act)
    have same := store_of_dispatch (List.append_inj whole count).2 act
    refine ⟨same, fun l other => ?_⟩
    rw [same, state?_apply_of_ne _ _ other]
  case waits =>
    intro acts f run still count
    obtain ⟨more, whole⟩ := turn acts f run still
    rcases List.append_eq_append_iff.mp whole with ⟨before, -, same⟩ | ⟨beyond, same, rest⟩
    · rw [same]
      exact List.mem_append_right _ (List.mem_cons_self ..)
    · have nothing : beyond = [] := by
        rw [same, List.length_append] at count
        exact List.length_eq_zero_iff.mp (by omega)
      rw [nothing, List.nil_append] at rest
      rw [← rest]
      exact List.mem_cons_self ..
  case possible =>
    intro waiting
    have watched : e.session.directivesWatched = true := by
      refine Bool.not_eq_false _ ▸ fun off => ?_
      exact (ledger.directives.left on (by simp [waiting]) off).2 goesOn.1
    obtain ⟨f, run, all, waits, watches, left⟩ :=
      run_dispatch d.session.directives.waiting [directive] waiting watched queued
    have ready : (f.act? (.move .dispatchDirective)).isSome = true := by
      rw [act?, move?, dispatchDirective?, if_pos ⟨waits, watches⟩, Backlog.receive, left]
      rfl
    obtain ⟨g, act⟩ := Option.isSome_iff_exists.mp ready
    exact ⟨_, f, g, run, by rw [all], act⟩

theorem handed_of_message {u : Wire.LinkUpdate} {rest : List Arrival}
    {got : List Wire.StreamResponse} {dones : List LinkDirective}
    {adopted : List Wire.ArbitrationUpdate}
    (ledger : Ledger d.session d.coordinator d.agenda got dones adopted)
    (reading : d.session.receiver = .reading) (live : d.session.delivers = true)
    (next : d.coordinator.inbox = .message (.linkUpdate u) :: rest)
    (valid : LinkDirective.ofUpdate u = .ok directive) :
    ∃ e, d.act? (.move .receive) = some e ∧ Handed directive d e := by
  have first := (ledger.arbitrations.reading live reading).2
  have second := (ledger.directives.reading live reading).2
  have he := receive_of_message reading next
  obtain ⟨-, receiver, dispatcher, -, -⟩ :=
    hear_open (d := d.read rest) (.linkUpdate u) first second
  have same := queueDirective_of_listener (d := d.read rest) directive second
  have heard : (d.read rest).hear (.linkUpdate u) = (d.read rest).queueDirective directive := by
    simp only [hear, valid]
  rw [← heard] at same
  have session := congrArg Dialogue.session same
  have ended := congrArg Dialogue.ended same
  simp only [mute] at session ended
  have on : ((d.read rest).hear (.linkUpdate u)).session.delivers = true := by
    rw [delivers_of_same dispatcher]
    exact live
  refine ⟨_, he, handed_of_queued (ledger.step (act_change he)) on ?_ ⟨?_, ended⟩ ?_⟩
  · rw [session]
    rfl
  · exact receiver.trans reading
  · rw [session]
    exact (send_of_listener directive second).1

/-! ## Frames -/

/-- What a session does that reads a frame of a link update, with what is behind it on the
stream. -/
structure FrameRead (frame : LinkFrame) (d : Dialogue) (rest : List Arrival) : Prop where
  /-- Both ends are there, with ports of 16 bits. -/
  named : ∀ here there, frame.local? = some here → frame.remote? = some there →
    0 ≤ here.port ∧ here.port ≤ 65535 → 0 ≤ there.port ∧ there.port ≤ 65535 →
    ∃ directive e, d.act? (.move .receive) = some e ∧
      frame.Names here there directive ∧ Handed directive d e
  /-- The ports that are there have 32 bits, but something is missing or too large. -/
  dropped : ∀ reason, frame.InRange → frame.Fault reason →
    ∃ e, d.act? (.move .receive) = some e ∧ e.session = d.session ∧ e.ended = d.ended ∧
      e.coordinator = { d.coordinator with inbox := rest } ∧
      e.log = d.log ++ [Log.warn (d.tagged ("Dropping link update: " ++ reason))]
  malformed : ¬frame.InRange → ∃ e, d.act? (.move .receive) = some e ∧
    e.session.store = d.session.store ∧ e.session.receiver = .ended ∧
    e.ended = d.told Frame.malformed.message

/-- A frame of a link update, however it is written, is dealt with as the numbers in it and
the parts that it has demand. -/
theorem frameRead_of_run (config : SessionConfig) (behaviour : Behaviour) (store : LinkStore)
    (acts : List Act) (d : Dialogue) (frame : LinkFrame) (v : Value) (s : List Char)
    (behind : Frame.Bytes) (arrival : Arrival) (rest : List Arrival)
    (run : run? acts ((new config behaviour).setStore store) = some d)
    (reading : d.session.receiver = .reading) (live : d.session.delivers = true)
    (shown : frame.Shown v) (text : v.Writes s) (unbroken : '\n' ∉ s)
    (came : Arrival.ofNext?
      (Frame.next Wire.StreamResponse.ofJson? (Frame.writeLine s ++ behind)).1 = some arrival)
    (next : d.coordinator.inbox = arrival :: rest) :
    FrameRead frame d rest ∧ ∀ u u' directive, LinkDirective.ofUpdate u = .ok directive →
      LinkDirective.ofUpdate u' = .ok directive → u = u' := by
  have ledger := (ledger_new config behaviour store).run acts run
  rw [arrival_of_frame text unbroken] at came
  have message (inRange : frame.InRange) :
      d.coordinator.inbox = .message (.linkUpdate frame.update) :: rest := by
    rw [LinkFrame.ofJson_inRange shown inRange] at came
    rw [next, ← Option.some.inj came]
  refine ⟨⟨?_, ?_, ?_⟩, fun u u' directive h h' => ?_⟩
  · intro here there near far hereFits thereFits
    have inRange : frame.InRange := by
      refine ⟨fun s same => ?_, fun s same => ?_⟩
      · cases near.symm.trans same
        exact ⟨hereFits.1, by omega⟩
      · cases far.symm.trans same
        exact ⟨thereFits.1, by omega⟩
    obtain ⟨directive, valid, names⟩ :=
      LinkFrame.ofUpdate_names near far inRange hereFits.2 thereFits.2
    obtain ⟨e, he, handed⟩ := handed_of_message ledger reading live (message inRange) valid
    exact ⟨directive, e, he, names, handed⟩
  · intro reason inRange fault
    obtain ⟨cause, invalid, rfl⟩ := LinkFrame.ofUpdate_fault fault inRange
    refine ⟨_, receive_of_message reading (message inRange), ?_⟩
    simp only [hear, invalid]
    exact ⟨rfl, rfl, rfl, rfl⟩
  · intro out
    rw [LinkFrame.ofJson_outOfRange shown out] at came
    have failed : d.coordinator.inbox = .failure Frame.malformed :: rest := by
      rw [next, ← Option.some.inj came]
    refine ⟨d.endReceiver Frame.malformed.message, ?_, rfl, rfl, rfl⟩
    rw [act?, move?, receive?, if_pos reading, failed]
  · rw [Wire.eq_updateOf h, Wire.eq_updateOf h']

/-- A link update has come to a session that is connected. -/
def exampleArrival : List Act :=
  [.beginConnect, .carryOn, .carryOn, .carryOn, .carryOn, .carryOn,
   .arrive (.message (.linkUpdate (exampleUpdate .create)))]

theorem exampleArrival_read : ∃ d,
    run? exampleArrival ((new exampleConfig .agreeable).setStore .empty) = some d ∧
      FrameRead (.of (exampleUpdate .create)) d [] := by
  have possible :
      ((run? exampleArrival ((new exampleConfig .agreeable).setStore .empty)).any fun d =>
        d.session.receiver == .reading && d.session.delivers &&
        d.coordinator.inbox == [.message (.linkUpdate (exampleUpdate .create))]) = true := by
    decide
  obtain ⟨d, run, holds⟩ := (Option.any_eq_true _ _).mp possible
  simp only [Bool.and_eq_true, beq_iff_eq] at holds
  have legible := Wire.StreamResponse.legible (.linkUpdate (exampleUpdate .create))
  have text := Value.writes_render legible
  have unbroken := Value.newline_not_mem_render legible
  have came := arrival_of_frame text unbroken []
  rw [Wire.StreamResponse.ofJson_toJson] at came
  exact ⟨d, run, (frameRead_of_run exampleConfig .agreeable .empty exampleArrival d
    (.of (exampleUpdate .create)) _ _ [] _ [] run holds.1.1 holds.1.2 (LinkFrame.shown_toJson _)
    text unbroken came holds.2).1⟩

end PeeringAgent.Dialogue
