import PeeringAgent.Proofs.Dialogue.Attended

/-!
# Errands in one go

Errands done one after the other, with nothing in between, are a run of the session.
Connecting goes like this, and so does a release behind which the tasks stop at once.
-/

set_option autoImplicit false

namespace PeeringAgent.Dialogue

variable {d d' : Dialogue}

theorem perform_ended (d : Dialogue) (errand : Errand) :
    (d.perform errand).1.ended = d.ended := by
  cases errand with
  | dial =>
    simp only [perform, dial]
    split <;> rfl
  | openStream =>
    simp only [perform, openStream]
    split <;> rfl
  | bid =>
    simp only [perform, sendBid]
    split <;> rfl
  | portRange range =>
    simp only [perform, setPortRange]
    split <;> rfl
  | retire =>
    simp only [perform, retire]
    split <;> rfl
  | startDispatcher | closeSend | close | dismiss => rfl

/-- An errand that succeeds leaves the others to do. -/
theorem perform_agenda (errand : Errand) (success : d.perform errand = (d', .ok ())) :
    d'.agenda = d.agenda := by
  cases errand with
  | dial =>
    simp only [perform, dial] at success
    split at success <;> cases success
    rfl
  | openStream =>
    simp only [perform, openStream] at success
    split at success <;> cases success
    rfl
  | bid =>
    simp only [perform, sendBid] at success
    split at success <;> cases success <;> rfl
  | portRange range =>
    simp only [perform, setPortRange] at success
    split at success <;> cases success <;> rfl
  | retire =>
    simp only [perform, retire] at success
    split at success <;> cases success <;> rfl
  | startDispatcher | closeSend | close | dismiss =>
    cases success
    rfl

/-- An errand that fails ends connecting. -/
theorem perform_failed {errand : Errand} {error : SessionError}
    (failed : d.perform errand = (d', .error error)) : d'.agenda = [] := by
  cases errand with
  | dial =>
    simp only [perform, dial] at failed
    split at failed <;> cases failed
    rfl
  | openStream =>
    simp only [perform, openStream] at failed
    split at failed <;> cases failed
    rfl
  | bid | portRange | startDispatcher | closeSend | close | dismiss | retire => cases failed

theorem attempt_ended (errands : List Errand) (d : Dialogue) :
    (attempt errands d).1.ended = d.ended := by
  induction errands generalizing d with
  | nil => rfl
  | cons errand rest ih =>
    have silent := perform_ended { d with agenda := rest } errand
    rw [attempt]
    cases result : ({ d with agenda := rest } : Dialogue).perform errand with
    | mk d' outcome =>
      rw [result] at silent
      cases outcome with
      | error e => exact silent
      | ok success => exact (ih d').trans silent

/-- The errands of a release do not fail. -/
theorem perform_departing {errand : Errand} (departs : errand.departs = true) (d : Dialogue) :
    d.perform errand = ((d.perform errand).1, .ok ()) := by
  cases errand with
  | closeSend | close | dismiss | retire => rfl
  | dial | openStream | bid | portRange | startDispatcher => cases departs

/-! ## Runs of errands -/

theorem run_attempt (errands : List Errand) (agenda : d.agenda = errands) :
    ∃ n, run? (List.replicate n .carryOn) d = some (attempt errands d).1 ∧
      (attempt errands d).1.agenda = [] := by
  induction errands generalizing d with
  | nil => exact ⟨0, rfl, agenda⟩
  | cons errand rest ih =>
    rw [attempt]
    cases result : ({ d with agenda := rest } : Dialogue).perform errand with
    | mk e outcome =>
      have he : d.act? .carryOn = some e := by
        rw [act?, carryOn?, agenda]
        exact congrArg (fun r => some r.1) result
      cases outcome with
      | error error =>
        refine ⟨1, ?_, perform_failed result⟩
        rw [List.replicate_one, run?, he]
        rfl
      | ok success =>
        obtain ⟨n, run, idle⟩ := ih (perform_agenda errand result)
        refine ⟨n + 1, ?_, idle⟩
        rw [List.replicate_succ, run?, he]
        exact run

/-- The acts by which tasks stop because they were told to. -/
def Act.isCancel : Act → Bool
  | .cancelReceiver => true
  | .cancelDispatcher => true
  | _ => false

/-- What still runs stops, one task after the other. -/
theorem run_cancelTasks (d : Dialogue) :
    ∃ acts, run? acts d = some d.cancelTasks ∧ ∀ a ∈ acts, a.isCancel = true := by
  have stops (a : Act) (cancels : a.isCancel = true) (d : Dialogue) :
      ∃ acts, run? acts d = some ((d.act? a).getD d) ∧ ∀ b ∈ acts, b.isCancel = true := by
    cases he : d.act? a with
    | none => exact ⟨[], rfl, by simp⟩
    | some e =>
      refine ⟨[a], ?_, by simpa using cancels⟩
      rw [run?, he]
      rfl
  obtain ⟨first, run, cancels⟩ := stops .cancelReceiver rfl d
  obtain ⟨second, rest, more⟩ := stops .cancelDispatcher rfl (d.cancelReceiver?.getD d)
  refine ⟨first ++ second, ?_, fun a among => ?_⟩
  · rw [run_append, run]
    exact rest
  · exact (List.mem_append.mp among).elim (cancels a) (more a)

theorem cancelTasks_agenda (d : Dialogue) : d.cancelTasks.agenda = d.agenda := by
  unfold cancelTasks cancelReceiver? cancelDispatcher?
  dsimp only
  split <;> split <;> rfl

theorem cancelTasks_ended (d : Dialogue) : d.cancelTasks.ended = d.ended := by
  unfold cancelTasks cancelReceiver? cancelDispatcher?
  dsimp only
  split <;> split <;> rfl

theorem disconnect_ended (d : Dialogue) : d.disconnect.ended = d.ended :=
  (cancelTasks_ended _).trans (attempt_ended _ _)

/-- A release in one go goes on from where it has begun. -/
theorem run_release (d : Dialogue) : ∃ n acts,
    run? (List.replicate n .carryOn ++ acts) d.beginRelease = some d.disconnect ∧
      (∀ a ∈ acts, a.isCancel = true) ∧ d.disconnect.agenda = [] := by
  obtain ⟨n, departs, idle⟩ := run_attempt (d := d.beginRelease) d.session.departure rfl
  obtain ⟨acts, stops, cancels⟩ :=
    run_cancelTasks (attempt d.session.departure d.beginRelease).1
  refine ⟨n, acts, ?_, cancels, (cancelTasks_agenda _).trans idle⟩
  rw [run_append, departs]
  exact stops

end PeeringAgent.Dialogue
