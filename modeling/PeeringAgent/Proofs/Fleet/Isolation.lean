import PeeringAgent.Proofs.Dialogue.Pipeline
import PeeringAgent.Proofs.Fleet.Steps

/-!
# Isolation of sessions

What one session of a fleet does, and what can be seen of it, is what it would do alone
with the same ticks. The other sessions, the restarts that they cause and the end of the
common channel make no difference to it.
-/

set_option autoImplicit false

namespace PeeringAgent.Fleet

open Dialogue Reconciler

namespace Moment

variable {m m' v : Moment} {i : Nat}

/-! ## What an act can do -/

theorem session_cases {index : Nat} {a : Dialogue.Act} (h : m.session? index a = some m') :
    isAddressed a = true ∧ ∃ d d', m.dialogues[index]? = some d ∧ d.act? a = some d' ∧
      m' = m.put index d d' := by
  unfold session? at h
  split at h
  case isFalse => cases h
  case isTrue addressed =>
    obtain ⟨d, found, acted⟩ := Option.bind_eq_some_iff.mp h
    obtain ⟨d', he, rfl⟩ := Option.map_eq_some_iff.mp acted
    exact ⟨addressed, d, d', found, he, rfl⟩

theorem beginTick_cases (h : m.beginTick? = some m') :
    m.progress = .resting ∧ m' = { m with progress := .passing [] } := by
  unfold beginTick? at h
  split at h
  case h_1 now =>
    cases h
    exact ⟨now, rfl⟩
  case h_2 => cases h

theorem pass_cases {index : Nat} (h : m.pass? index = some m') : ∃ made d,
    m.progress = .passing made ∧ index = made.length ∧ m.dialogues[index]? = some d ∧
    m' = { m with
      dialogues := m.dialogues.set index (d.setSite d.site.pass.site)
      progress := .passing (made ++ [d.site.pass])
      log := m.log ++ d.site.pass.lines } := by
  unfold pass? at h
  split at h
  case h_2 => cases h
  case h_1 made now =>
    split at h
    case isFalse => cases h
    case isTrue turn =>
      obtain ⟨d, found, rfl⟩ := Option.map_eq_some_iff.mp h
      exact ⟨made, d, now, turn, found, rfl⟩

theorem conclude_cases (h : m.conclude? = some m') : ∃ made action runs log,
    m.progress = .passing made ∧ made.length = m.dialogues.length ∧
    m' = { m with progress := .concluding action, runs, log } := by
  unfold conclude? at h
  split at h
  case h_2 => cases h
  case h_1 made now =>
    split at h
    case isFalse => cases h
    case isTrue all =>
      cases h
      split
      · exact ⟨made, some m.restart, _, _, now, all, rfl⟩
      · exact ⟨made, none, m.runs, m.log, now, all, rfl⟩

theorem endTick_cases (h : m.endTick? = some m') : ∃ action log,
    m.progress = .concluding action ∧ m' = { m with progress := .resting, log } := by
  unfold endTick? at h
  split at h
  case h_1 action now =>
    cases h
    exact ⟨action, _, now, rfl⟩
  case h_2 => cases h

theorem told_put_other {j : Nat} (other : j ≠ i) (d d' : Dialogue) :
    (m.put j d d').told i = m.told i := by
  have none : (news j d d').filter (fun notice => notice.1 == i) = [] := by
    rw [List.filter_eq_nil_iff]
    intro notice member
    obtain ⟨e, -, rfl⟩ := List.mem_map.mp member
    simp [other]
  unfold told put
  split
  · rw [List.filter_append, none, List.append_nil]
  · rfl

theorem told_put_same (d d' : Dialogue) : (m.put i d d').told i =
    m.told i ++ if m.listening then d'.ended.drop d.ended.length else [] := by
  have all : (news i d d').filter (fun notice => notice.1 == i) = news i d d' := by
    rw [List.filter_eq_self]
    intro notice member
    obtain ⟨e, -, rfl⟩ := List.mem_map.mp member
    simp
  have names : (news i d d').map Prod.snd = d'.ended.drop d.ended.length := by
    simp [news, List.map_map, Function.comp_def]
  unfold told put
  split
  · rw [List.filter_append, List.map_append, all, names]
  · exact (List.append_nil _).symm

/-! ## A session in a fleet and alone -/

/-- The ticks of a fleet and of one of its sessions go together; alone, the session has had
its pass or not. -/
def Abreast (i : Nat) : Progress → Progress → Prop
  | .resting, .resting => True
  | .passing made, .passing alone => alone = made[i]?.toList
  | .concluding _, .concluding _ => True
  | _, _ => False

/-- One session of a fleet beside the same session alone. -/
structure Beside (i : Nat) (m v : Moment) : Prop where
  dialogue : ∃ d, m.dialogues[i]? = some d ∧ v.dialogues = [d]
  progress : Abreast i m.progress v.progress
  listening : v.listening = m.listening
  told : v.told 0 = m.told i

theorem Abreast.resting {p : Progress} (h : Abreast i .resting p) : p = .resting := by
  cases p with
  | resting => rfl
  | passing | concluding => exact h.elim

theorem Abreast.passing {made : List Pass} {p : Progress} (h : Abreast i (.passing made) p) :
    p = .passing made[i]?.toList := by
  cases p with
  | passing alone => exact congrArg Progress.passing h
  | resting | concluding => exact h.elim

theorem Abreast.concluding {action : Option RestartOutcome} {p : Progress}
    (h : Abreast i (.concluding action) p) : ∃ other, p = .concluding other := by
  cases p with
  | concluding other => exact ⟨other, rfl⟩
  | resting | passing => exact h.elim

/-- An act of another session leaves this one where it is. -/
theorem Beside.session_other {j : Nat} {a : Dialogue.Act} (h : Beside i m v) (other : j ≠ i)
    (he : m.session? j a = some m') : Beside i m' v := by
  obtain ⟨-, d, d', -, -, rfl⟩ := session_cases he
  obtain ⟨e, found, only⟩ := h.dialogue
  exact ⟨⟨e, (List.getElem?_set_ne other).trans found, only⟩, h.progress, h.listening,
    h.told.trans (told_put_other other d d').symm⟩

theorem Beside.session_own {a : Dialogue.Act} (h : Beside i m v)
    (he : m.session? i a = some m') : ∃ v', v.session? 0 a = some v' ∧ Beside i m' v' := by
  obtain ⟨addressed, d, d', found, acted, rfl⟩ := session_cases he
  obtain ⟨e, found', only⟩ := h.dialogue
  obtain rfl : d = e := Option.some.inj (found.symm.trans found')
  obtain ⟨bound, -⟩ := List.getElem?_eq_some_iff.mp found
  refine ⟨v.put 0 d d', ?_, ⟨d', List.getElem?_set_self bound, ?_⟩, h.progress, h.listening, ?_⟩
  · rw [session?, if_pos addressed, only]
    simp [acted]
  · show v.dialogues.set 0 d' = [d']
    rw [only]
    rfl
  · rw [told_put_same, told_put_same, h.told, h.listening]

/-- The pass over another store leaves this session where it is. -/
theorem Beside.pass_other {j : Nat} (h : Beside i m v) (other : j ≠ i)
    (he : m.pass? j = some m') : Beside i m' v := by
  obtain ⟨made, d, now, turn, -, rfl⟩ := pass_cases he
  obtain ⟨e, found, only⟩ := h.dialogue
  refine ⟨⟨e, (List.getElem?_set_ne other).trans found, only⟩, ?_, h.listening, h.told⟩
  have before := h.progress
  rw [now] at before
  rw [before.passing]
  have same : (made ++ [d.site.pass])[i]? = made[i]? := by
    subst turn
    rcases Nat.lt_or_ge i made.length with inside | outside
    · exact List.getElem?_append_left inside
    · rw [List.getElem?_eq_none outside, List.getElem?_eq_none]
      rw [List.length_append, List.length_singleton]
      omega
  exact congrArg Option.toList same.symm

theorem Beside.pass_own (h : Beside i m v) (he : m.pass? i = some m') :
    ∃ v', v.pass? 0 = some v' ∧ Beside i m' v' := by
  obtain ⟨made, d, now, turn, found, rfl⟩ := pass_cases he
  obtain ⟨e, found', only⟩ := h.dialogue
  obtain rfl : d = e := Option.some.inj (found.symm.trans found')
  obtain ⟨bound, -⟩ := List.getElem?_eq_some_iff.mp found
  have before := h.progress
  rw [now] at before
  have fresh : v.progress = .passing [] := by
    rw [before.passing, turn, List.getElem?_eq_none (Nat.le_refl _)]
    rfl
  have passed : v.pass? 0 = some { v with
      dialogues := [d.setSite d.site.pass.site]
      progress := .passing [d.site.pass]
      log := v.log ++ d.site.pass.lines } := by
    rw [pass?, fresh, only]
    rfl
  refine ⟨_, passed, ⟨_, List.getElem?_set_self bound, rfl⟩, ?_, h.listening, h.told⟩
  show [d.site.pass] = (made ++ [d.site.pass])[i]?.toList
  rw [turn, List.getElem?_concat_length]
  rfl

theorem Beside.other {a : Act} (h : Beside i m v) (he : m.act? a = some m')
    (none : only i a = none) : Beside i m' v := by
  cases a with
  | session j a =>
    refine h.session_other (fun same => ?_) he
    simp [only, same] at none
  | pass j =>
    refine h.pass_other (fun same => ?_) he
    simp [only, same] at none
  | deafen | setRestart | beginTick | conclude | endTick => cases none

theorem Beside.own {a b : Act} (h : Beside i m v) (he : m.act? a = some m')
    (same : only i a = some b) : ∃ v', v.act? b = some v' ∧ Beside i m' v' := by
  obtain ⟨d, found, only⟩ := h.dialogue
  cases a with
  | session j a =>
    obtain ⟨rfl, own⟩ := Option.ite_none_right_eq_some.mp same
    cases own
    exact h.session_own he
  | pass j =>
    obtain ⟨rfl, own⟩ := Option.ite_none_right_eq_some.mp same
    cases own
    exact h.pass_own he
  | deafen =>
    cases same
    cases he
    exact ⟨_, rfl, h.dialogue, h.progress, rfl, h.told⟩
  | setRestart outcome =>
    cases same
    cases he
    exact ⟨_, rfl, h.dialogue, h.progress, h.listening, h.told⟩
  | beginTick =>
    cases same
    obtain ⟨now, rfl⟩ := beginTick_cases he
    have before := h.progress
    rw [now] at before
    have begun : v.beginTick? = some { v with progress := .passing [] } := by
      rw [beginTick?, before.resting]
    exact ⟨_, begun, h.dialogue, rfl, h.listening, h.told⟩
  | conclude =>
    cases same
    obtain ⟨made, action, runs, log, now, all, rfl⟩ := conclude_cases he
    have before := h.progress
    rw [now] at before
    have passed : made[i]?.toList.length = v.dialogues.length := by
      obtain ⟨bound, -⟩ := List.getElem?_eq_some_iff.mp found
      rw [only, List.getElem?_eq_getElem (all ▸ bound)]
      rfl
    have possible : v.conclude?.isSome = true := by
      rw [conclude?, before.passing]
      dsimp only
      rw [if_pos passed]
      rfl
    obtain ⟨v', he'⟩ := Option.isSome_iff_exists.mp possible
    refine ⟨v', he', ?_⟩
    obtain ⟨-, -, -, -, -, -, rfl⟩ := conclude_cases he'
    exact ⟨h.dialogue, trivial, h.listening, h.told⟩
  | endTick =>
    cases same
    obtain ⟨action, log, now, rfl⟩ := endTick_cases he
    have before := h.progress
    rw [now] at before
    obtain ⟨other, also⟩ := before.concluding
    have possible : v.endTick?.isSome = true := by
      rw [endTick?, also]
      rfl
    obtain ⟨v', he'⟩ := Option.isSome_iff_exists.mp possible
    refine ⟨v', he', ?_⟩
    obtain ⟨-, -, -, rfl⟩ := endTick_cases he'
    exact ⟨h.dialogue, trivial, h.listening, h.told⟩

/-- A run of a fleet is a run of each session. -/
theorem Beside.run (acts : List Act) (h : Beside i m v) (run : run? acts m = some m') :
    ∃ v', run? (alone i acts) v = some v' ∧ Beside i m' v' := by
  induction acts generalizing m v with
  | nil =>
    cases run
    exact ⟨v, rfl, h⟩
  | cons a as ih =>
    obtain ⟨e, he, hr⟩ := Option.bind_eq_some_iff.mp run
    cases same : only i a with
    | none =>
      rw [alone, List.filterMap_cons_none same]
      exact ih (h.other he same) hr
    | some b =>
      obtain ⟨v₁, first, beside⟩ := h.own he same
      obtain ⟨v', rest, last⟩ := ih beside hr
      refine ⟨v', ?_, last⟩
      rw [alone, List.filterMap_cons_some same, run?, first]
      exact rest

theorem beside_start {sessions : List (SessionConfig × Behaviour)}
    {session : SessionConfig × Behaviour} (found : sessions[i]? = some session) :
    Beside i (start sessions) (start [session]) := by
  refine ⟨⟨.new session.1 session.2, ?_, rfl⟩, trivial, rfl, rfl⟩
  show (sessions.map _)[i]? = _
  rw [List.getElem?_map, found]
  rfl

/-! ## With and without a listener -/

/-- A moment with somebody listening who has heard this. -/
def heard (m : Moment) (notices : List (Nat × StreamEnded)) : Moment :=
  { m with listening := true, notices }

/-- What somebody hears who goes on listening. -/
structure Louder (m : Moment) (notices : List (Nat × StreamEnded)) : Prop where
  before : m.notices <+: notices
  whole : m.listening = true → notices = m.notices

/-- The acts that have to do with the common channel. -/
def Act.tells : Act → Bool
  | .session _ _ => true
  | .deafen => true
  | _ => false

theorem quiet_act {a : Act} (quiet : a.tells = false) (he : m.act? a = some m')
    (notices : List (Nat × StreamEnded)) :
    m'.listening = m.listening ∧ m'.notices = m.notices ∧
      (m.heard notices).act? a = some (m'.heard notices) := by
  cases a with
  | session index act => cases quiet
  | deafen => cases quiet
  | setRestart outcome =>
    cases he
    exact ⟨rfl, rfl, rfl⟩
  | beginTick =>
    obtain ⟨now, rfl⟩ := beginTick_cases he
    refine ⟨rfl, rfl, ?_⟩
    simp [act?, beginTick?, heard, now]
  | pass index =>
    obtain ⟨made, d, now, turn, found, rfl⟩ := pass_cases he
    refine ⟨rfl, rfl, ?_⟩
    simp [act?, pass?, heard, now, ← turn, found]
  | conclude =>
    change m.conclude? = some m' at he
    unfold conclude? at he
    split at he
    case h_2 => cases he
    case h_1 made now =>
      obtain ⟨all, he⟩ := Option.ite_none_right_eq_some.mp he
      cases he
      simp only [act?, conclude?, heard, now, if_pos all]
      split
      · exact ⟨rfl, rfl, rfl⟩
      · exact ⟨rfl, rfl, rfl⟩
  | endTick =>
    change m.endTick? = some m' at he
    unfold endTick? at he
    split at he
    case h_2 => cases he
    case h_1 action now =>
      cases he
      refine ⟨rfl, rfl, ?_⟩
      simp [act?, endTick?, heard, now]

theorem Louder.session {index : Nat} {a : Dialogue.Act} {notices : List (Nat × StreamEnded)}
    (h : Louder m notices) (he : m.session? index a = some m') :
    ∃ more, (m.heard notices).session? index a = some (m'.heard more) ∧ Louder m' more := by
  obtain ⟨addressed, d, d', found, acted, rfl⟩ := session_cases he
  refine ⟨notices ++ news index d d', ?_, ?_⟩
  · rw [session?, if_pos addressed]
    show (m.dialogues[index]?.bind _) = _
    rw [found, Option.bind_some, acted]
    rfl
  · cases on : m.listening with
    | true =>
      have same : (m.put index d d').notices = m.notices ++ news index d d' := by
        simp [put, on]
      rw [h.whole on]
      exact ⟨same ▸ List.prefix_rfl, fun _ => same.symm⟩
    | false =>
      have same : (m.put index d d').notices = m.notices := by simp [put, on]
      refine ⟨same ▸ h.before.trans (List.prefix_append _ _), fun off => ?_⟩
      rw [show m.listening = true from off] at on
      cases on

/-- Going on without the loss of the receiver, only more is heard. -/
theorem Louder.run (acts : List Act) {notices : List (Nat × StreamEnded)} (h : Louder m notices)
    (run : run? acts m = some m') :
    ∃ more, run? (acts.filter (!·.deafens)) (m.heard notices) = some (m'.heard more) ∧
      Louder m' more := by
  induction acts generalizing m notices with
  | nil =>
    cases run
    exact ⟨notices, rfl, h⟩
  | cons a as ih =>
    obtain ⟨e, he, hr⟩ := Option.bind_eq_some_iff.mp run
    cases deafens : a.deafens with
    | true =>
      rw [List.filter_cons_of_neg (by simp [deafens])]
      cases a with
      | deafen =>
        cases he
        have louder : Louder { m with listening := false } notices :=
          ⟨h.before, fun on => by cases on⟩
        have rest := ih louder hr
        exact rest
      | session | setRestart | beginTick | pass | conclude | endTick => cases deafens
    | false =>
      rw [List.filter_cons_of_pos (by simp [deafens]), run?]
      obtain ⟨more, first, louder⟩ : ∃ more,
          (m.heard notices).act? a = some (e.heard more) ∧ Louder e more := by
        cases tells : a.tells with
        | true =>
          cases a with
          | session index act => exact h.session he
          | deafen => cases deafens
          | setRestart | beginTick | pass | conclude | endTick => cases tells
        | false =>
          obtain ⟨listening, told, first⟩ := quiet_act tells he notices
          exact ⟨notices, first, told ▸ h.before, fun on => told ▸ h.whole (listening ▸ on)⟩
      obtain ⟨last, rest, more⟩ := ih louder hr
      exact ⟨last, by rw [first]; exact rest, more⟩

end Moment

/-! ## Steps -/

variable {f v : Fleet} {i : Nat} {d : Dialogue}

/-- A step of another session leaves this one where it is. -/
theorem step_other {s : Step} (here : f.dialogues[i]? = some d) (none : s.only i = none) :
    (f.step s).1.dialogues[i]? = some d := by
  cases s with
  | session j command =>
    have other : j ≠ i := by
      intro same
      simp [Step.only, same] at none
    cases found : f.dialogues[j]? with
    | none => simpa [step, found] using here
    | some e =>
      simp only [step, found]
      exact (List.getElem?_set_ne other).trans here
  | setRestart | tick => cases none

theorem step_own {s t : Step} (here : f.dialogues[i]? = some d) (only : v.dialogues = [d])
    (same : s.only i = some t) :
    ∃ d', (f.step s).1.dialogues[i]? = some d' ∧ (v.step t).1.dialogues = [d'] := by
  obtain ⟨bound, -⟩ := List.getElem?_eq_some_iff.mp here
  cases s with
  | session j command =>
    obtain ⟨rfl, own⟩ := Option.ite_none_right_eq_some.mp same
    cases own
    simp only [step, here, only, List.getElem?_cons_zero]
    exact ⟨_, List.getElem?_set_self bound, rfl⟩
  | setRestart outcome =>
    cases same
    exact ⟨d, here, only⟩
  | tick =>
    cases same
    refine ⟨d.setSite d.site.pass.site, ?_, ?_⟩
    · show f.tick.1.dialogues[i]? = _
      rw [tick_dialogues, List.getElem?_map, here]
      rfl
    · show v.tick.1.dialogues = _
      rw [tick_dialogues, only]
      rfl

theorem run_alone (steps : List Step) (here : f.dialogues[i]? = some d)
    (only : v.dialogues = [d]) :
    ∃ d', (f.run steps).dialogues[i]? = some d' ∧
      (v.run (steps.filterMap (Step.only i))).dialogues = [d'] := by
  induction steps generalizing f v d with
  | nil => exact ⟨d, here, only⟩
  | cons s ss ih =>
    cases same : s.only i with
    | none =>
      rw [List.filterMap_cons_none same]
      exact ih (step_other here same) only
    | some t =>
      rw [List.filterMap_cons_some same]
      obtain ⟨d', now, alone⟩ := step_own here only same
      exact ih now alone

/-! ## All runs -/

/-- What can be seen of a session among others is what could be seen of it alone. -/
structure Isolated (sessions : List (SessionConfig × Behaviour)) (index : Nat)
    (session : SessionConfig × Behaviour) : Prop where
  /-- Act by act, without what is addressed to others: the session comes to the same, and so
  do its end events that have arrived. -/
  acts : ∀ acts m, Moment.run? acts (.start sessions) = some m →
    ∃ v d, Moment.run? (Moment.alone index acts) (.start [session]) = some v ∧
      m.dialogues[index]? = some d ∧ v.dialogues = [d] ∧ m.told index = v.told 0
  /-- The same when alone the channel keeps its receiver; what has arrived before its loss is
  what has arrived first. -/
  heard : ∀ acts m, Moment.run? acts (.start sessions) = some m →
    ∃ v d, Moment.run? ((Moment.alone index acts).filter (!·.deafens)) (.start [session]) =
        some v ∧
      m.dialogues[index]? = some d ∧ v.dialogues = [d] ∧ m.told index <+: v.told 0 ∧
      (m.listening = true → m.told index = v.told 0)
  /-- Step by step, every task idle in between. -/
  steps : ∀ steps, ∃ d, (run steps (start sessions)).dialogues[index]? = some d ∧
    (run (steps.filterMap (Step.only index)) (start [session])).dialogues = [d]

/-- Whatever the other sessions do, and whatever restarts they cause, a session comes to what
it comes to alone. -/
theorem isolated (sessions : List (SessionConfig × Behaviour)) (index : Nat)
    (session : SessionConfig × Behaviour) (found : sessions[index]? = some session) :
    Isolated sessions index session := by
  constructor
  case acts =>
    intro acts m run
    obtain ⟨v, own, beside⟩ := (Moment.beside_start found).run acts run
    obtain ⟨d, here, only⟩ := beside.dialogue
    exact ⟨v, d, own, here, only, beside.told.symm⟩
  case heard =>
    intro acts m run
    obtain ⟨v, own, beside⟩ := (Moment.beside_start found).run acts run
    obtain ⟨d, here, only⟩ := beside.dialogue
    have fresh : Moment.Louder (.start [session]) [] := ⟨List.prefix_rfl, fun _ => rfl⟩
    obtain ⟨more, louder, hears⟩ := fresh.run _ own
    refine ⟨v.heard more, d, louder, here, only, ?_, fun on => ?_⟩
    · rw [← beside.told]
      exact (hears.before.filter _).map _
    · rw [← beside.told, Moment.told, Moment.told, Moment.heard,
        hears.whole (beside.listening.trans on)]
  case steps =>
    intro steps
    obtain ⟨d, here, only⟩ := (Moment.beside_start found).dialogue
    exact run_alone steps here only

def exampleSessions : List (SessionConfig × Behaviour) :=
  [(exampleConfig, .agreeable),
   (exampleConfig, { Behaviour.agreeable with streamError := some .closed })]

/-- One session gets a link during a tick, the other does not get its stream; the channel
loses its receiver before the first session ends. -/
def exampleTraffic : List Moment.Act :=
  [.session 0 .beginConnect, .session 0 .carryOn, .session 1 .beginConnect,
   .session 0 .carryOn, .session 0 .carryOn, .session 1 .carryOn, .session 0 .carryOn,
   .session 0 .carryOn, .session 1 .carryOn,
   .session 0 (.arrive (.message (.linkUpdate (exampleUpdate .create)))),
   .session 0 (.move .receive), .beginTick, .session 0 (.move .dispatchDirective), .pass 0,
   .session 1 .disconnect, .session 1 .carryOn, .pass 1, .session 1 .carryOn, .conclude,
   .setRestart (.error (.exit "restart" (.exited 1))), .deafen, .session 0 .finish,
   .session 0 (.move .receive), .endTick]

theorem exampleTraffic_isolated :
    (∃ m, Moment.run? exampleTraffic (.start exampleSessions) = some m) ∧
      exampleSessions[0]? = some (exampleConfig, .agreeable) ∧
      Isolated exampleSessions 0 (exampleConfig, .agreeable) := by
  have possible : (Moment.run? exampleTraffic (.start exampleSessions)).isSome = true := by
    decide
  exact ⟨Option.isSome_iff_exists.mp possible, rfl, isolated _ _ _ rfl⟩

end PeeringAgent.Fleet
