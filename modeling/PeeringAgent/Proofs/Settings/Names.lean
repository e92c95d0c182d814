import Mathlib
import PeeringAgent.Program

/-!
# Names of sessions

Each session has the client name of its connection. No check of the settings looks
at these names, and two connections may have the same one.
-/

set_option autoImplicit false

namespace PeeringAgent

open Settings

/-- The same connection under another client name. -/
def Connection.rename (f : String → String) (c : Connection) : Connection :=
  { c with clientName := f c.clientName }

theorem Connection.violation_rename (f : String → String) (c : Connection) :
    Connection.violation? (c.rename f) = none ↔ Connection.violation? c = none := by
  have same (i : Interface) : Interface.violation? (f c.clientName) i = none ↔
      Interface.violation? c.clientName i = none := by
    by_cases reversed : i.firstPort > i.lastPort <;> simp [Interface.violation?, reversed]
  simp [Connection.violation?, Connection.rename, same]

/-- Settings that pass the checks still pass them under any other client names. -/
theorem violation_rename (f : String → String) (s : Settings) :
    violation? { s with connections := s.connections.map (Connection.rename f) } = none ↔
      violation? s = none := by
  have same : (s.connections.map (Connection.rename f)).findSome? Connection.violation? = none ↔
      s.connections.findSome? Connection.violation? = none := by
    simp [Connection.violation_rename]
  by_cases asn : s.asn = ""
  · simp [violation?, asn]
  by_cases delay : s.delay = 0
  · simp [violation?, asn, delay]
  by_cases connections : s.connections = []
  · simp [violation?, asn, delay, connections]
  · simpa [violation?, asn, delay, connections] using same

section Names

variable {files : Files Id} {lines : List Log.Line}

theorem names_of_sessionsOf {settings : Settings} (connections : List Connection)
    {lines : List Log.Line} {sessions : List SessionConfig}
    (h : sessionsOf files settings connections = (lines, .ok sessions)) :
    sessions.map SessionConfig.name = connections.map Connection.clientName := by
  induction connections generalizing lines sessions with
  | nil =>
    cases h
    rfl
  | cons c connections ih =>
    rw [sessionsOf] at h
    simp only [bind, pure] at h
    split at h
    case h_1 => cases h
    case h_2 policies loaded =>
      cases made : sessionsOf files settings connections with
      | mk more result =>
        rw [made] at h
        cases result with
        | error e => cases h
        | ok rest =>
          cases h
          rw [List.map_cons, List.map_cons, ih made]
          rfl

/-- The sessions of an agent are named as its settings say. -/
theorem names_of_prepare {arguments : List String} {environment : List (String × String)}
    {p : Program.Prepared} (h : Program.prepare files arguments environment = (lines, .ok p)) :
    p.sessions.map SessionConfig.name = p.settings.connections.map Connection.clientName := by
  simp only [Program.prepare, bind, pure] at h
  split at h
  case h_1 => cases h
  case h_2 settings loaded =>
    cases made : settings.sessions files with
    | mk more result =>
      rw [made] at h
      cases result with
      | error e => cases h
      | ok sessions =>
        cases h
        exact names_of_sessionsOf settings.connections made

end Names

/-! ## Two connections of one name -/

def twinEnvironment : List (String × String) :=
  [("COORD_CLIENT_ASN", "a"),
   ("COORD_CLIENT_CONNECTIONS",
    "[\x7bcoord=a,clientName=e,policies=p\x7d,\x7bcoord=b,clientName=e,policies=p\x7d]")]

/-- No settings file, and a policy file without policies. -/
def twinFiles : Files Id :=
  { read := fun _ => .ok ByteArray.empty, isFile := fun _ => false, depth := 0 }

def twinConnection (coordinator : String) : Connection :=
  { coordinator, clientName := "e", secret := "", secretFile := none, policies := "p"
    interfaces := [] }

def twinSettings : Settings :=
  { asn := "a", restartScript := "./restart-as.sh", delay := 5, backlogWarn := 8
    connections := [twinConnection "a", twinConnection "b"] }

def twinSessions : List SessionConfig :=
  twinSettings.connections.map (Settings.Connection.session twinSettings [])

def twinValue (coordinator : String) : Value :=
  .dict [("coord", .text coordinator), ("clientName", .text "e"), ("policies", .text "p")]

def twinLayer : Value :=
  .dict [("asn", .text "a"), ("connections", .array [twinValue "a", twinValue "b"])]

theorem layer_twin : Variable.layer twinEnvironment = twinLayer := by
  have asn : Variable.keys? "COORD_CLIENT_ASN" = some ["asn"] := by decide +kernel
  have connections : Variable.keys? "COORD_CLIENT_CONNECTIONS" = some ["connections"] := by
    decide +kernel
  have text : Variable.parse "a" = .text "a" := by cbv
  have array : Variable.parse
      "[\x7bcoord=a,clientName=e,policies=p\x7d,\x7bcoord=b,clientName=e,policies=p\x7d]" =
      .array [twinValue "a", twinValue "b"] := by cbv
  simp only [Variable.layer, twinEnvironment, List.foldl_cons, List.foldl_nil, asn, connections,
    text, array, Variable.nest]
  cbv

theorem load_twin : Settings.load twinFiles "./config.yaml" twinEnvironment = .ok twinSettings := by
  have noFile : twinFiles.locate "./config.yaml" = none := rfl
  have spelled : ofLayers? (.dict []) twinLayer = some twinSettings := by cbv
  have secrets : withSecrets twinFiles twinSettings.connections =
      .ok twinSettings.connections := rfl
  have lawful : twinSettings.violation? = none := by decide +kernel
  simp only [Settings.load, fileLayer, noFile, layer_twin, spelled, secrets, bind, pure]
  rw [check, lawful]

theorem policies_twin : Policy.load twinFiles "p" = .ok [] := by
  have text : twinFiles.readText "p" = .ok "" := rfl
  have none : Policy.ofText? "" = some [] := by decide +kernel
  simp only [Policy.load, text, none, bind, pure]

/-- Settings with two connections of one client name are accepted. -/
theorem prepare_twin : ∃ lines, Program.prepare twinFiles [] twinEnvironment =
    (lines, .ok ⟨twinSettings, twinSessions⟩) := by
  have path : Program.settingsPath [] twinEnvironment = "./config.yaml" := by decide
  have made : Settings.sessions twinFiles twinSettings = ([], .ok twinSessions) := by
    simp only [Settings.sessions, twinSettings, sessionsOf, twinConnection, policies_twin, bind,
      pure]
    rfl
  simp only [Program.prepare, path, load_twin, made, bind, pure]
  exact ⟨_, rfl⟩

end PeeringAgent
