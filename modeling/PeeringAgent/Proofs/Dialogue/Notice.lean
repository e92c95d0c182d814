import PeeringAgent.Proofs.Dialogue.Stage

/-!
# What a session tells

A receiver tells its end once, to whoever listens, and has ended from then on; one that
is stopped tells nothing. No act of a task or a coordinator takes the listener away.
-/

set_option autoImplicit false

namespace PeeringAgent.Dialogue

variable {d d' : Dialogue} {s : Session} {c : Coordinator} {g : List Errand}
  {ended : List StreamEnded}

/-- A receiver that has ended stays so, and it tells its end once. -/
def Tells (d : Dialogue) (s : Session) (ended : List StreamEnded) : Prop :=
  ended = d.ended ∧ (d.session.receiver = .ended → s.receiver = .ended) ∨
  d.session.receiver = .reading ∧ s.receiver = .ended ∧ ∃ reason, ended = d.told reason

theorem Effect.tells {m : Move} (h : d.Effect m s c ended) : d.Tells s ended := by
  cases h with
  | orphaned reading => exact .inr ⟨reading, rfl, _, rfl⟩
  | failed reading => exact .inr ⟨reading, rfl, _, rfl⟩
  | finished reading => exact .inr ⟨reading, rfl, _, rfl⟩
  | _ => exact .inl ⟨rfl, id⟩

theorem Change.tells {a : Act} {f : Option SessionError} (h : d.Change a s c g ended)
    (stage : Stage d.session d.coordinator d.agenda f) : d.Tells s ended := by
  cases h with
  | moved effect => exact effect.tells
  | opened next =>
    rw [next] at stage
    have absent := stage.resting_of_openStream.receiver
    refine .inl ⟨rfl, fun gone => ?_⟩
    rw [absent] at gone
    cases gone
  | receiverCancelled gone reading =>
    refine .inl ⟨rfl, fun spent => ?_⟩
    rw [reading] at spent
    cases spent
  | _ => exact .inl ⟨rfl, id⟩

/-- A receiver that has ended sends nothing more. -/
def Shut (s : Session) : Prop :=
  s.receiver = .ended → s.arbitrations.senderOpen = false ∧ s.directives.senderOpen = false

theorem Effect.shut {m : Move} (h : d.Effect m s c ended) (shut : Shut d.session) : Shut s := by
  cases h with
  | queuedArbitration reading | queuedDirective reading =>
    intro gone
    rw [show d.session.receiver = .ended from gone] at reading
    cases reading
  | orphaned | failed | finished => exact fun _ => ⟨rfl, rfl⟩
  | _ => exact shut

theorem Change.shut {a : Act} (h : d.Change a s c g ended) (shut : Shut d.session) : Shut s := by
  cases h with
  | moved effect => exact effect.shut shut
  | opened | receiverCancelled => exact fun gone => by cases gone
  | _ => exact shut

theorem dial_supervised (d : Dialogue) : d.dial.1.supervised = d.supervised := by
  unfold dial
  dsimp only
  split <;> rfl

theorem openStream_supervised (d : Dialogue) : d.openStream.1.supervised = d.supervised := by
  unfold openStream
  dsimp only
  split <;> rfl

theorem perform_supervised (d : Dialogue) (errand : Errand) :
    (d.perform errand).1.supervised = d.supervised := by
  cases errand with
  | dial => exact d.dial_supervised
  | openStream => exact d.openStream_supervised
  | bid =>
    simp only [perform, sendBid]
    split <;> rfl
  | portRange range =>
    simp only [perform, setPortRange]
    split <;> rfl
  | retire =>
    simp only [perform, retire]
    split <;> rfl
  | startDispatcher | closeSend | close | dismiss => rfl

/-- Only the supervisor itself stops listening. -/
theorem act_supervised {a : Act} (h : d.act? a = some d') (listening : a ≠ .unsupervise) :
    d'.supervised = d.supervised := by
  cases a with
  | carryOn =>
    obtain ⟨⟨e, result⟩, he, rfl⟩ := Option.map_eq_some_iff.mp h
    unfold carryOn? at he
    split at he
    case h_1 => cases he
    case h_2 errand rest next =>
      have same := perform_supervised { d with agenda := rest } errand
      rw [Option.some.inj he] at same
      exact same
  | beginConnect =>
    obtain ⟨-, rfl⟩ := Option.ite_none_right_eq_some.mp h |>.imp_right Option.some.inj
    rfl
  | closeEnded =>
    obtain ⟨-, he⟩ := Option.ite_none_right_eq_some.mp h
    obtain ⟨e, waited, rfl⟩ := Option.map_eq_some_iff.mp he
    obtain ⟨-, before, rfl⟩ := exists_of_awaitTasks waited
    rfl
  | disconnect | crash | cancelReceiver | cancelDispatcher =>
    obtain ⟨-, rfl⟩ := Option.ite_none_right_eq_some.mp h |>.imp_right Option.some.inj
    rfl
  | move m => exact (move_moved h).supervised
  | unsupervise => exact absurd rfl listening
  | arrive | finish | behave | hold | release | reconcile =>
    cases h
    rfl

end PeeringAgent.Dialogue
