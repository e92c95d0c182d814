import PeeringAgent.Proofs.Dialogue.Beside
import PeeringAgent.Proofs.Dialogue.Preface

/-!
# Noise on the stream

Error notices are noise, and so are link updates that make no directive. A run in which
noise neither comes nor is read goes the same way: two runs are compared act by act, one
of them without the noise, and only log lines tell them apart.
-/

set_option autoImplicit false

namespace PeeringAgent

/-- A port number has sixteen bits. -/
def Wire.Endpoint.fits (e : Wire.Endpoint) : Bool := e.port.toNat ≤ 65535

/-- Both endpoints are there, with ports that fit. -/
def Wire.LinkUpdate.isComplete (u : Wire.LinkUpdate) : Bool :=
  u.local?.any (·.fits) && u.remote?.any (·.fits)

def Wire.StreamResponse.isNoise : Wire.StreamResponse → Bool
  | .arbitration _ => false
  | .linkUpdate u => !u.isComplete
  | .error _ => true

def Arrival.isNoise : Arrival → Bool
  | .message m => m.isNoise
  | .failure _ => false

theorem LinkDirective.port_toOption (raw : UInt32) :
    (port raw).toOption.isSome = decide (raw.toNat ≤ 65535) := by
  unfold port
  split
  case isTrue fits =>
    have bound : raw.toNat ≤ 65535 := by omega
    simp [Except.toOption, bound]
  case isFalse large =>
    have beyond : ¬raw.toNat ≤ 65535 := by omega
    simp [Except.toOption, beyond]

/-- Exactly the complete link updates make directives. -/
theorem LinkDirective.ofUpdate_isSome (u : Wire.LinkUpdate) :
    (ofUpdate u).toOption.isSome = u.isComplete := by
  unfold ofUpdate Wire.LinkUpdate.isComplete
  cases u.local? with
  | none => rfl
  | some here =>
    cases u.remote? with
    | none => simp [Except.toOption]
    | some there =>
      have first := port_toOption here.port
      have second := port_toOption there.port
      simp only [Option.any_some, Wire.Endpoint.fits, ← first, ← second]
      cases port here.port <;> cases port there.port <;> cases u.updateKind <;> rfl

/-- Noise carries nothing for either queue, and everything else does. -/
theorem Wire.StreamResponse.isNoise_iff (m : Wire.StreamResponse) :
    m.isNoise = true ↔ m.arbitration? = none ∧ m.directive? = none := by
  cases m with
  | arbitration u => simp [isNoise, arbitration?]
  | error notice => simp [isNoise, arbitration?, directive?]
  | linkUpdate u =>
    have made := LinkDirective.ofUpdate_isSome u
    simp [isNoise, arbitration?, directive?, ← made]

namespace Dialogue

variable {d d' e e' f f' : Dialogue} {a : Act}

/-! ## One act -/

/-- Only the log knows that noise has been heard. -/
theorem hear_noise {m : Wire.StreamResponse} (noise : m.isNoise = true) (d : Dialogue) :
    ∃ lines, d.hear m = d.say lines := by
  obtain ⟨noArbitration, noDirective⟩ := m.isNoise_iff.mp noise
  cases m with
  | arbitration u => cases noArbitration
  | error notice => exact ⟨_, rfl⟩
  | linkUpdate u =>
    cases made : LinkDirective.ofUpdate u with
    | error cause => exact ⟨_, by rw [hear, made]⟩
    | ok directive =>
      rw [Wire.StreamResponse.directive?, made] at noDirective
      cases noDirective

/-- Noise arrives, or it is what the receiver finds next. -/
def noisy (d : Dialogue) : Act → Bool
  | .arrive arrival => arrival.isNoise
  | .move .receive => d.coordinator.inbox.head?.any Arrival.isNoise
  | _ => false

/-- The stream without its noise. -/
def quiet : View := { View.plain with inbox := List.filter (!·.isNoise), nothing := rfl }

theorem quiet_inbox (arrivals : List Arrival) :
    quiet.inbox arrivals = arrivals.filter (!·.isNoise) := rfl

theorem quiet_tells : quiet.Tells := fun _ _ _ => rfl

theorem quiet_put (c : Coordinator) (arrival : Arrival) (calm : arrival.isNoise = false) :
    (c.seen quiet).put arrival = ((c.put arrival).1.seen quiet, (c.put arrival).2) := by
  have same : (c.seen quiet).reaches = c.reaches := rfl
  rw [Coordinator.put, Coordinator.put, same]
  cases c.reaches <;> simp [Coordinator.seen, quiet_inbox, calm]

theorem quiet_put_noise (c : Coordinator) (arrival : Arrival) (noise : arrival.isNoise = true) :
    (c.put arrival).1.seen quiet = c.seen quiet := by
  rw [Coordinator.put]
  cases c.reaches <;> simp [Coordinator.seen, quiet_inbox, noise]

/-- An act without noise does the same on the stream without noise. -/
theorem act_quiet (he : d.act? a = some e) (calm : d.noisy a = false) :
    (d.seen quiet).act? a = some (e.seen quiet) := by
  cases outward : a.facesOut with
  | false => rw [act_seen quiet d outward, he, Option.map_some]
  | true =>
    cases a with
    | arrive arrival =>
      cases he
      have put := quiet_put d.coordinator arrival calm
      simp only [act?, seen_coordinator, put]
      rfl
    | finish | unsupervise =>
      cases he
      rfl
    | move m =>
      cases m with
      | receive =>
        -- What is next is not noise, so both streams begin with it.
        have next : quiet.KeepsNext d.coordinator := by
          rw [View.KeepsNext]
          split
          case h_1 => rfl
          case h_2 first rest inbox =>
            have kept : first.isNoise = false := by simpa [noisy, inbox] using calm
            simp [quiet_inbox, kept]
        rw [act?, move?, receive_seen d quiet_tells next]
        exact congrArg (Option.map (seen quiet)) he
      | dispatchArbitration | startPush | dispatchDirective | resumePush | closeArbitrations
      | closeDirectives | stopDispatcher => cases outward
    | beginConnect | carryOn | disconnect | closeEnded | behave | hold | release | crash
    | cancelReceiver | cancelDispatcher | reconcile => cases outward

theorem act_noise (he : d.act? a = some e) (noise : d.noisy a = true) :
    ∃ lines, e.seen quiet = (d.seen quiet).say lines := by
  cases a with
  | arrive arrival =>
    cases he
    refine ⟨[], ?_⟩
    have put := quiet_put_noise d.coordinator arrival noise
    simp [seen, say, put]
  | move m =>
    cases m with
    | receive =>
      cases inbox : d.coordinator.inbox with
      | nil =>
        rw [noisy, inbox] at noise
        cases noise
      | cons first rest =>
        rw [noisy, inbox] at noise
        cases first with
        | failure cause => cases noise
        | message m =>
          obtain ⟨lines, heard⟩ := hear_noise noise (d.read rest)
          rw [receive_of_message (reading_of_receive he) inbox, heard] at he
          cases he
          have skipped : (Arrival.message m).isNoise = true := noise
          refine ⟨lines, ?_⟩
          simp [seen, say, read, Coordinator.seen, inbox, skipped, quiet, View.plain]
    | dispatchArbitration | startPush | dispatchDirective | resumePush | closeArbitrations
    | closeDirectives | stopDispatcher => cases noise
  | beginConnect | carryOn | disconnect | closeEnded | finish | behave | hold | release | crash
  | cancelReceiver | cancelDispatcher | reconcile | unsupervise => cases noise

/-! ## Two runs -/

/-- A run without its noise: none arrives, and none is read. -/
def hushed (acts : List Act) (d : Dialogue) : List Act := without noisy acts d

def Act.arrival? : Act → Option Arrival
  | .arrive arrival => some arrival
  | _ => none

/-- What is left of a dialogue without the noise on its stream: everything but log lines. -/
structure Alike (d e : Dialogue) : Prop where
  session : e.session = d.session
  coordinator : e.coordinator =
    { d.coordinator with inbox := d.coordinator.inbox.filter (!·.isNoise) }
  agenda : e.agenda = d.agenda
  supervised : e.supervised = d.supervised
  ended : e.ended = d.ended
  log : e.log.Sublist d.log

theorem alike_iff : Alike d e ↔ e.mute = (d.seen quiet).mute ∧ e.log.Sublist d.log := by
  constructor
  · rintro ⟨session, coordinator, agenda, supervised, ended, log⟩
    refine ⟨?_, log⟩
    rw [mute, mute, session, coordinator, agenda, supervised, ended]
    rfl
  · rintro ⟨same, log⟩
    have session := congrArg Dialogue.session same
    have coordinator := congrArg Dialogue.coordinator same
    have agenda := congrArg Dialogue.agenda same
    have supervised := congrArg Dialogue.supervised same
    have ended := congrArg Dialogue.ended same
    exact ⟨session, coordinator, agenda, supervised, ended, log⟩

theorem Alike.noise (h : Alike d e) (he : d.act? a = some d') (noise : d.noisy a = true) :
    Alike d' e := by
  obtain ⟨same, log⟩ := alike_iff.mp h
  obtain ⟨lines, seen⟩ := act_noise he noise
  have longer : d'.log = d.log ++ lines := congrArg Dialogue.log seen
  refine alike_iff.mpr ⟨?_, ?_⟩
  · rw [same, seen]
    rfl
  · rw [longer]
    exact log.trans (List.sublist_append_left _ _)

theorem Alike.calm (h : Alike d e) (he : d.act? a = some d') (calm : d.noisy a = false) :
    ∃ e', e.act? a = some e' ∧ Alike d' e' := by
  obtain ⟨same, log⟩ := alike_iff.mp h
  -- The logs differ, so the act is compared on the dialogues without them.
  obtain ⟨e', act, after, lines, longer, written⟩ := act_mute same (act_quiet he calm)
  refine ⟨e', act, alike_iff.mpr ⟨after, ?_⟩⟩
  have whole : d'.log = d.log ++ lines := longer
  rw [written, whole]
  exact log.append_right lines

/-- Only arrivals and readings can be left out. -/
def Act.isOfStream : Act → Bool
  | .arrive _ => true
  | .move .receive => true
  | _ => false

theorem calm_of_other (d : Dialogue) (a : Act) (other : (!a.isOfStream) = true) :
    d.noisy a = false := by
  cases a with
  | arrive arrival => cases other
  | move m => cases m <;> first | rfl | cases other
  | beginConnect | carryOn | disconnect | closeEnded | finish | behave | hold | release
  | crash | cancelReceiver | cancelDispatcher | reconcile | unsupervise => rfl

theorem hushed_arrivals (acts : List Act) (run : run? acts d = some d') :
    (hushed acts d).filterMap Act.arrival? =
      (acts.filterMap Act.arrival?).filter (!·.isNoise) := by
  induction acts generalizing d with
  | nil => rfl
  | cons a as ih =>
    obtain ⟨next, he, hr⟩ := Option.bind_eq_some_iff.mp run
    have one : (if d.noisy a then [] else [a]).filterMap Act.arrival? =
        a.arrival?.toList.filter (!·.isNoise) := by
      cases a with
      | arrive arrival => cases noise : arrival.isNoise <;> simp [noisy, Act.arrival?, noise]
      | move m => split <;> rfl
      | beginConnect | carryOn | disconnect | closeEnded | finish | behave | hold | release
      | crash | cancelReceiver | cancelDispatcher | reconcile | unsupervise => rfl
    have rest : (without noisy as next).filterMap Act.arrival? = _ := ih hr
    rw [hushed, without, gather_cons _ he, List.filterMap_append, one, ← without, rest,
      ← List.filter_append]
    cases a <;> rfl

theorem filter_message? (arrival : Arrival) :
    arrival.message?.toList.filter (!·.isNoise) =
      if arrival.isNoise then [] else arrival.message?.toList := by
  cases arrival with
  | failure cause => rfl
  | message m => cases noise : m.isNoise <;> simp [Arrival.message?, Arrival.isNoise, noise]

/-- A reading of noise is left out, and every other one finds the same. -/
theorem Alike.reads (h : Alike d e) (a : Act) :
    (if d.noisy a then [] else e.reads a) = (d.reads a).filter (!·.isNoise) := by
  cases a with
  | move m =>
    cases m with
    | receive =>
      simp only [noisy, Dialogue.reads, h.coordinator]
      cases d.coordinator.inbox with
      | nil => rfl
      | cons first rest =>
        have one := filter_message? first
        rw [List.head?_cons, Option.bind_some, one]
        cases noise : first.isNoise <;> simp [noise]
    | dispatchArbitration | startPush | dispatchDirective | resumePush | closeArbitrations
    | closeDirectives | stopDispatcher => rfl
  | arrive arrival => exact ite_self _
  | beginConnect | carryOn | disconnect | closeEnded | finish | behave | hold | release
  | crash | cancelReceiver | cancelDispatcher | reconcile | unsupervise => rfl

/-- The run without noise is possible, keeps beside the other one and reads what is left. -/
theorem Alike.run (acts : List Act) (h : Alike d e) (run : run? acts d = some d') :
    ∃ e', run? (hushed acts d) e = some e' ∧ Alike d' e' ∧
      received (hushed acts d) e = (received acts d).filter (!·.isNoise) := by
  rw [received, received, filter_gather]
  refine run_without noisy Alike _ Dialogue.reads ?_ ?_ acts h run
  · intro d d' e a h he noise
    have nothing := h.reads a
    rw [if_pos noise] at nothing
    exact ⟨h.noise he noise, nothing.symm⟩
  · intro d d' e a h he calm
    have same := h.reads a
    rw [if_neg (by simp [calm])] at same
    obtain ⟨e', act, alike⟩ := h.calm he calm
    exact ⟨e', act, alike, same⟩

/-- What a run is without its noise. -/
structure Undisturbed (start : Dialogue) (acts : List Act) : Prop where
  order : (hushed acts start).Sublist acts
  /-- Noise is left out as it arrives, and as it is read. -/
  arrivals : (hushed acts start).filterMap Act.arrival? =
    (acts.filterMap Act.arrival?).filter (!·.isNoise)
  readings : Dialogue.received (hushed acts start) start =
    (Dialogue.received acts start).filter (!·.isNoise)
  others : (hushed acts start).filter (!·.isOfStream) = acts.filter (!·.isOfStream)
  /-- At every point the run without noise is at a point of its own that is no different. -/
  points : ∀ before after d, acts = before ++ after → run? before start = some d →
    hushed acts start = hushed before start ++ hushed after d ∧
      ∃ e, run? (hushed before start) start = some e ∧ Alike d e

/-- Noise on the stream changes nothing but the log, whether or not a push is held up
or the dispatcher has gone down. -/
theorem undisturbed_of_run (config : SessionConfig) (behaviour : Behaviour) (store : LinkStore)
    (acts : List Act) (d : Dialogue)
    (run : run? acts ((new config behaviour).setStore store) = some d) :
    Undisturbed ((new config behaviour).setStore store) acts := by
  have alike : Alike ((new config behaviour).setStore store)
      ((new config behaviour).setStore store) := ⟨rfl, rfl, rfl, rfl, rfl, .refl _⟩
  generalize (new config behaviour).setStore store = start at run alike ⊢
  constructor
  case order => exact without_sublist acts run
  case arrivals => exact hushed_arrivals acts run
  case readings =>
    obtain ⟨-, -, -, same⟩ := alike.run acts run
    exact same
  case others => exact filter_without (!·.isOfStream) calm_of_other acts run
  case points =>
    rintro before after d rfl part
    obtain ⟨e, hushed, same, -⟩ := alike.run before part
    exact ⟨without_append before after part, e, hushed, same⟩

/-- Noise comes before the session is primary, while a push is held up and when the
dispatcher has gone down. -/
def exampleNoise : List Act :=
  [.arrive (.message (.error ⟨"overload"⟩)), .beginConnect, .carryOn, .carryOn,
   .move .receive, .carryOn, .carryOn, .carryOn,
   .arrive (.message (.arbitration ⟨none, 100, .primary⟩)), .hold, .move .receive,
   .move .dispatchArbitration, .move .startPush,
   .arrive (.message (.linkUpdate { exampleUpdate .create with local? := none })),
   .arrive (.message (.linkUpdate (exampleUpdate .create))), .move .receive, .move .receive,
   .crash,
   .arrive (.message (.linkUpdate
     { exampleUpdate .destroy with remote? := some ⟨"10.0.0.3", 70000⟩ })),
   .move .receive, .arrive (.message (.linkUpdate (exampleUpdate .destroy))), .move .receive,
   .closeEnded, .carryOn, .carryOn, .carryOn, .carryOn]

theorem exampleNoise_undisturbed :
    ∃ d, run? exampleNoise ((new exampleConfig .agreeable).setStore .empty) = some d ∧
      Undisturbed ((new exampleConfig .agreeable).setStore .empty) exampleNoise := by
  have possible :
      (run? exampleNoise ((new exampleConfig .agreeable).setStore .empty)).isSome = true := by
    decide
  obtain ⟨d, run⟩ := Option.isSome_iff_exists.mp possible
  exact ⟨d, run, undisturbed_of_run _ _ _ _ d run⟩

end Dialogue

end PeeringAgent
