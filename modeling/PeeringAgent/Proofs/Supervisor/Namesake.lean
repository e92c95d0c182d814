import PeeringAgent.Proofs.Settings.Names
import PeeringAgent.Proofs.Supervisor.Release
import PeeringAgent.Proofs.Supervisor.Startup

/-!
# Namesakes

Settings may give two connections the same client name. Then the end of one session
can begin the release of the other, whose stream is still open. Distinct names are
exactly what releases depend on.
-/

set_option autoImplicit false

namespace PeeringAgent.Supervisor

open Dialogue

variable {d : Dialogue} {s : Supervisor}

theorem receive_of_finished (h : Attentive d) (finished : d.coordinator.finished = true) :
    d.act? (.move .receive) = some (d.endReceiver "stream closed by coordinator") := by
  simp only [Dialogue.act?, move?, receive?, h.receiver, if_true, h.inbox, finished]

/-- A stream that ends is noticed, and no other session changes. -/
theorem exists_run_end {j : Nat} (h : Attentive d)
    (found : s.dialogues[j]? = some d) : ∃ acts s' reason, run? acts s = some s' ∧
      s'.mode = s.mode ∧ s'.notices = s.notices ++ [(j, ⟨d.name, reason⟩)] ∧
      ∀ i, i ≠ j → s'.dialogues[i]? = s.dialogues[i]? := by
  obtain ⟨gone, same⟩ : ∃ gone : Dialogue,
    gone = { d with coordinator := d.coordinator.finish.1 } := ⟨_, rfl⟩
  have ends : s.act? (.session j .finish) = some (s.update j gone) := by
    rw [act?, session?, if_pos (show isForeign .finish = true from rfl), found, same]
    rfl
  have attentive : Attentive gone.clear := by
    rw [same]
    exact ⟨h.receiver, h.phase, h.inbox, h.supervised, rfl⟩
  have finished : gone.coordinator.finished = true := by
    rw [same]
    rfl
  have receives := receive_of_finished attentive finished
  obtain ⟨deaf, ended⟩ : ∃ deaf : Dialogue, deaf = Dialogue.endReceiver
    gone.clear "stream closed by coordinator" := ⟨_, rfl⟩
  have tells : (s.update j gone).act? (.session j (.move .receive)) =
      some ((s.update j gone).update j deaf) := by
    rw [act?, session?, if_pos (show isForeign (.move .receive) = true from rfl),
      update_same found, Option.bind_some, receives, ended]
    rfl
  refine ⟨[.session j .finish, .session j (.move .receive)], (s.update j gone).update j deaf,
    "stream closed by coordinator", ?_, rfl, ?_, ?_⟩
  · rw [run?, ends, Option.bind_some, run?, tells]
    rfl
  · have told : deaf.ended = [⟨d.name, "stream closed by coordinator"⟩] := by
      rw [ended, same]
      simp [Dialogue.endReceiver, h.supervised]
      rfl
    have silent : gone.ended = [] := by
      rw [same]
      exact h.told
    show (s.notices ++ gone.ended.map _) ++ deaf.ended.map _ = _
    rw [silent, told, List.map_nil, List.append_nil, List.map_singleton]
  · exact fun i other => (update_other other).trans (update_other other)

/-- The first session of a name is taken for each of its namesakes. -/
theorem sourceIndex_le {i : Nat} {e : StreamEnded} (found : s.dialogues[i]? = some d)
    (named : e.session = d.name) (streaming : d.session.phase = .streaming) :
    ∃ k, s.sourceIndex? e = some k ∧ k ≤ i := by
  obtain ⟨bound, rfl⟩ := List.getElem?_eq_some_iff.mp found
  have taken : (s.dialogues[i].name == e.session && s.dialogues[i].session.phase == .streaming) =
      true := by
    rw [named, streaming]
    simp
  refine ⟨_, List.findIdx?_eq_some_of_exists ⟨_, List.getElem_mem bound, taken⟩, ?_⟩
  exact Nat.le_of_not_lt fun less => Bool.eq_false_iff.mp (List.not_of_lt_findIdx less) taken

/-- Of two sessions of one name, the first is released when the stream of the second
ends, while its own stream is open. -/
theorem exists_run_misled {i j : Nat} {first second : Dialogue} (mode : s.mode = .watching)
    (silent : s.notices = []) (attentive : ∀ d ∈ s.dialogues, Attentive d)
    (at_i : s.dialogues[i]? = some first) (at_j : s.dialogues[j]? = some second)
    (less : i < j) (same : first.name = second.name) :
    ∃ acts s' k, run? acts s = some s' ∧ s'.mode = .releasing k ∧
      ∃ d, s'.dialogues[k]? = some d ∧ d.session.receiver = .reading := by
  obtain ⟨acts, s₁, reason, run₁, mode₁, notices₁, others⟩ :=
    exists_run_end (attentive second (List.mem_of_getElem? at_j)) at_j
  have at_i₁ := (others i (by omega)).trans at_i
  obtain ⟨k, source, le⟩ := sourceIndex_le (e := ⟨second.name, reason⟩) at_i₁ same.symm
    (attentive first (List.mem_of_getElem? at_i)).phase
  have bound : k < s.dialogues.length := by
    have := (List.getElem?_eq_some_iff.mp at_i).1
    omega
  rw [mode] at mode₁
  rw [silent, List.nil_append] at notices₁
  refine ⟨acts ++ [.hear], { ({ s₁ with notices := [] } : Supervisor).say
    [endedLine ⟨second.name, reason⟩] with mode := .releasing k }, k, ?_, rfl, s.dialogues[k],
    ?_, ?_⟩
  · rw [run_append, run₁, Option.bind_some, run?, act?, hear_of_source mode₁ notices₁ source]
    rfl
  · exact (others k (by omega)).trans (List.getElem?_eq_getElem bound)
  · exact (attentive _ (List.getElem_mem bound)).receiver

/-- Each event is handled for the session that it comes from, whatever happens, exactly
when the names of the sessions are distinct. -/
theorem faithful_iff_distinct (sessions : List SessionConfig) :
    (∀ acts s, run? acts (begin sessions) = some s → Faithful s) ↔
      (sessions.map SessionConfig.name).Nodup := by
  constructor
  · intro faithful
    refine List.pairwise_iff_getElem.mpr fun i j hi hj less same => ?_
    obtain ⟨acts, s, run, mode, silent, names, attentive⟩ :=
      exists_run_watching sessions
    have session (n : Nat) (hn : n < (sessions.map SessionConfig.name).length) :
        ∃ d, s.dialogues[n]? = some d ∧ d.name = (sessions.map SessionConfig.name)[n] := by
      have at_n : (s.dialogues.map Dialogue.name)[n]? =
          some (sessions.map SessionConfig.name)[n] := by
        rw [names]
        exact List.getElem?_eq_getElem hn
      rw [List.getElem?_map] at at_n
      exact Option.map_eq_some_iff.mp at_n
    obtain ⟨first, at_i, name_i⟩ := session i hi
    obtain ⟨second, at_j, name_j⟩ := session j hj
    obtain ⟨more, s', k, run', releasing, d, found, reading⟩ := exists_run_misled mode silent
      attentive at_i at_j less (by rw [name_i, name_j]; exact same)
    have whole : run? (acts ++ more) (begin sessions) = some s' := by
      rw [run_append, run]
      exact run'
    obtain ⟨d₀, found₀, gone⟩ := (faithful _ s' whole).gone k releasing
    cases found.symm.trans found₀
    rw [reading] at gone
    cases gone
  · intro distinct acts s run
    exact faithful_of_orderly (orderly_of_run acts (orderly_begin sessions distinct) run)

/-- Nothing but distinct client names is needed of accepted settings for each event to be
handled for the session that it comes from, and nothing less will do. -/
theorem faithful_iff_distinct_clients (files : Files Id) (arguments : List String)
    (environment : List (String × String)) (lines : List Log.Line) (p : Program.Prepared)
    (accepted : Program.prepare files arguments environment = (lines, .ok p)) :
    (∀ acts s, run? acts (begin p.sessions) = some s → Faithful s) ↔
      (p.settings.connections.map Connection.clientName).Nodup := by
  rw [faithful_iff_distinct, names_of_prepare accepted]

/-- For two connections of one client name this is an agent that goes wrong. -/
theorem twins_faithful_iff : ∃ lines,
    Program.prepare twinFiles [] twinEnvironment = (lines, .ok ⟨twinSettings, twinSessions⟩) ∧
    ((∀ acts s, run? acts (begin twinSessions) = some s → Faithful s) ↔
      (twinSettings.connections.map Connection.clientName).Nodup) := by
  obtain ⟨lines, accepted⟩ := prepare_twin
  exact ⟨lines, accepted, faithful_iff_distinct_clients _ _ _ _ _ accepted⟩

/-- Both sessions connect, and the stream of the second one ends. -/
def twinEnding : List Act :=
  List.replicate 11 .carryOn ++ [.session 1 .finish, .session 1 (.move .receive), .hear]

/-- The end of one of two sessions of the same name makes the supervisor wait for the
tasks of the other, whose stream is open. -/
theorem twins_misled : ∃ lines,
    Program.prepare twinFiles [] twinEnvironment = (lines, .ok ⟨twinSettings, twinSessions⟩) ∧
    ∃ s d, run? twinEnding (begin twinSessions) = some s ∧ s.mode = .releasing 0 ∧
      s.dialogues[0]? = some d ∧ d.session.receiver = .reading ∧ d.closeEnded? = none ∧
      ¬Faithful s := by
  have seen : (run? twinEnding (begin twinSessions)).map (fun s =>
      (s.mode, s.dialogues.map fun d => (d.session.receiver, d.session.dismissed))) =
      some (.releasing 0, [(.reading, false), (.ended, false)]) := by decide
  obtain ⟨lines, accepted⟩ := prepare_twin
  obtain ⟨s, run, facts⟩ := Option.map_eq_some_iff.mp seen
  obtain ⟨mode, receivers⟩ := Prod.mk.inj facts
  obtain ⟨d, rest, dialogues, first, -⟩ := List.map_eq_cons_iff.mp receivers
  obtain ⟨reading, kept⟩ := Prod.mk.inj first
  have found : s.dialogues[0]? = some d := by
    rw [dialogues]
    rfl
  have waits : d.closeEnded? = none := by
    simp [closeEnded?, awaitTasks?, Session.tasksOver, reading, kept]
  refine ⟨lines, accepted, s, d, run, mode, found, reading, waits, fun faithful => ?_⟩
  obtain ⟨d₀, found₀, gone⟩ := faithful.gone 0 mode
  cases found.symm.trans found₀
  rw [reading] at gone
  cases gone

end PeeringAgent.Supervisor
