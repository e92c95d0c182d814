import PeeringAgent.Program

/-!
# Policies of an agent

Every connection has its policy file, and all of them are loaded before the first
session is connected. The first file that cannot be loaded ends the agent, wherever
it is among the connections.
-/

set_option autoImplicit false

namespace PeeringAgent

open Settings

variable {files : Files Id}

/-- Why the policies of a connection cannot be loaded, if so. -/
def Connection.flaw? (files : Files Id) (c : Connection) : Option Policy.FileError :=
  match Policy.load files c.policies with
  | .error e => some e
  | .ok _ => none

theorem Connection.flaw_eq_some {c : Connection} {e : Policy.FileError} :
    c.flaw? files = some e ↔ Policy.load files c.policies = .error e := by
  rw [flaw?]
  cases Policy.load files c.policies with
  | error cause =>
    exact ⟨fun h => congrArg Except.error (Option.some.inj h),
      fun h => congrArg some (Except.error.inj h)⟩
  | ok policies => constructor <;> (intro h; cases h)

/-- The sessions of some connections are missing for the first flaw among them. -/
theorem sessionsOf_of_flaw {settings : Settings} {e : Policy.FileError}
    (connections : List Connection)
    (flaw : connections.findSome? (Connection.flaw? files) = some e) :
    (sessionsOf files settings connections).2 = .error e := by
  induction connections with
  | nil => cases flaw
  | cons c connections ih =>
    rw [List.findSome?_cons, Connection.flaw?] at flaw
    rw [sessionsOf]
    simp only [bind, pure]
    cases loaded : Policy.load files c.policies with
    | error cause =>
      rw [loaded] at flaw
      obtain rfl := Option.some.inj flaw
      rfl
    | ok policies =>
      rw [loaded] at flaw
      have later := ih flaw
      generalize sessionsOf files settings connections = made at later
      obtain ⟨lines, result⟩ := made
      obtain rfl : result = .error e := later
      rfl

/-- A connection whose policies cannot be loaded is preceded by a first one, or is it. -/
theorem exists_flaw {c : Connection} {connections : List Connection} {cause : Policy.FileError}
    (among : c ∈ connections) (broken : Policy.load files c.policies = .error cause) :
    ∃ e, connections.findSome? (Connection.flaw? files) = some e := by
  refine Option.isSome_iff_exists.mp (List.findSome?_isSome_iff.mpr ⟨c, among, ?_⟩)
  rw [Connection.flaw_eq_some.mpr broken]
  rfl

namespace Program

variable {arguments : List String} {environment : List (String × String)} {settings : Settings}

/-- What an agent has to work with once its settings are accepted. -/
theorem prepare_of_accepted
    (accepted : Settings.load files (settingsPath arguments environment) environment =
      .ok settings) :
    prepare files arguments environment = (banner settings :: (settings.sessions files).1,
      match (settings.sessions files).2 with
      | .error e => .error (.policies e)
      | .ok sessions => .ok ⟨settings, sessions⟩) := by
  simp only [prepare, accepted, bind, pure]
  cases settings.sessions files with
  | mk lines result => cases result <;> rfl

/-- An agent that lacks a policy file has no session. -/
theorem start_of_flaw {e : Policy.FileError} (behaviour : SessionConfig → Behaviour)
    (accepted : Settings.load files (settingsPath arguments environment) environment =
      .ok settings)
    (flaw : settings.connections.findSome? (Connection.flaw? files) = some e) :
    (start files arguments environment behaviour).dialogues = [] ∧
      (start files arguments environment behaviour).result = .error (.policies e) := by
  have missing : (settings.sessions files).2 = .error e := sessionsOf_of_flaw _ flaw
  constructor <;> simp only [start, prepare_of_accepted accepted, missing, bind, pure]

/-- An agent that has its policies connects its sessions. -/
theorem start_of_sessions {sessions : List SessionConfig} (behaviour : SessionConfig → Behaviour)
    (accepted : Settings.load files (settingsPath arguments environment) environment =
      .ok settings)
    (loaded : (settings.sessions files).2 = .ok sessions) :
    ∃ lines up, up = Supervisor.startUp lines (sessions.map fun c => .new c (behaviour c)) ∧
      start files arguments environment behaviour = {
        dialogues := up.dialogues, log := up.log
        result := match up.error with
          | some e => .error (.session e)
          | none => .ok settings } := by
  simp only [start, prepare_of_accepted accepted, loaded, bind, pure]
  exact ⟨_, _, rfl, rfl⟩

end Program

end PeeringAgent
