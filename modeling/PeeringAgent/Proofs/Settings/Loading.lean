import Mathlib
import PeeringAgent.Proofs.Settings.Policies
import PeeringAgent.Proofs.Settings.Secrets

/-!
# Loading settings

Settings that a file and an environment spell are refused for the first secret file that
cannot be read, then for the first rule that they break, and are accepted otherwise. Accepted
settings make one session for each connection, or none for the first policy file that
cannot be loaded.
-/

set_option autoImplicit false

namespace PeeringAgent

open Settings

namespace Settings

variable {files : Files Id} {path : String} {environment : List (String × String)}
  {s : Settings}

/-- The settings that a file and an environment spell together. -/
def extract? (files : Files Id) (path : String) (environment : List (String × String)) :
    Option Settings :=
  match (fileLayer files path : Option Value) with
  | none => none
  | some file => ofLayers? file (Variable.layer environment)

/-- What becomes of settings once they are spelled. -/
def conclude (files : Files Id) : Option Settings → Except LoadError Settings
  | none => .error .malformed
  | some s =>
    match (withSecrets files s.connections : Except LoadError (List Connection)) with
    | .error e => .error e
    | .ok connections => check { s with connections }

theorem load_eq (files : Files Id) (path : String) (environment : List (String × String)) :
    load files path environment = conclude files (extract? files path environment) := by
  rw [load, extract?]
  show (match (fileLayer files path : Option Value) with
    | none => Except.error LoadError.malformed
    | some file => _) = _
  cases (fileLayer files path : Option Value) with
  | none => rfl
  | some file =>
    dsimp only
    cases ofLayers? file (Variable.layer environment) with
    | none => rfl
    | some s => rfl

theorem run_load (extracted : extract? files path environment = some s) (log : List String) :
    (load files.watched path environment).run log = (load files path environment,
      log ++ (files.locate path : Option String).toList ++
        files.tried (secretFiles s.connections)) := by
  rw [load_eq, extracted, load, StateT.run_bind, run_fileLayer]
  rw [extract?] at extracted
  cases spelled : (fileLayer files path : Option Value) with
  | none =>
    rw [spelled] at extracted
    cases extracted
  | some file =>
    rw [spelled] at extracted
    show StateT.run (match ofLayers? file (Variable.layer environment) with
      | none => _
      | some s => _) _ = _
    rw [show ofLayers? file (Variable.layer environment) = some s from extracted]
    show ((withSecrets files.watched s.connections) >>= _).run _ = _
    rw [StateT.run_bind, run_withSecrets, conclude]
    dsimp only
    cases (withSecrets files s.connections : Except LoadError (List Connection)) with
    | error e => rfl
    | ok connections => rfl

end Settings

/-! ## The rules -/

/-- The ports of an interface are in order. -/
def Interface.Orderly (i : Interface) : Prop := i.firstPort ≤ i.lastPort

def Connection.Orderly (c : Connection) : Prop := ∀ i ∈ c.interfaces, i.Orderly

namespace Settings

variable {s : Settings}

/-- The first rule that settings break: of several interfaces with reversed ports it is the
first of the first connection that has one. -/
inductive Breaks (s : Settings) : Violation → Prop
  | noAsn (asn : s.asn = "") : Breaks s .noAsn
  | noDelay (asn : s.asn ≠ "") (delay : s.delay = 0) : Breaks s .noDelay
  | noConnections (asn : s.asn ≠ "") (delay : s.delay ≠ 0) (none : s.connections = []) :
    Breaks s .noConnections
  | portRange {before after : List Connection} {front back : List Interface} {c : Connection}
    {i : Interface} (asn : s.asn ≠ "") (delay : s.delay ≠ 0)
    (connection : s.connections = before ++ c :: after) (earlier : ∀ d ∈ before, d.Orderly)
    (interface : c.interfaces = front ++ i :: back) (above : ∀ j ∈ front, j.Orderly)
    (reversed : ¬i.Orderly) :
    Breaks s (.portRange i.firstPort i.lastPort i.vlan c.clientName)

theorem interface_violation_eq_none_iff {client : String} {i : Interface} :
    Interface.violation? client i = none ↔ i.Orderly := by
  unfold Interface.violation? Interface.Orderly
  split
  case isTrue reversed => simpa using reversed
  case isFalse ordered => simpa using ordered

theorem connection_violation_eq_none_iff {c : Connection} :
    Connection.violation? c = none ↔ c.Orderly := by
  simp only [Connection.violation?, List.findSome?_eq_none_iff, interface_violation_eq_none_iff,
    Connection.Orderly]

theorem violation_eq_some_iff {v : Violation} : s.violation? = some v ↔ Breaks s v := by
  constructor
  · intro broken
    unfold violation? at broken
    split_ifs at broken with asn delay connections
    · cases broken
      exact .noAsn (by simpa using asn)
    · cases broken
      exact .noDelay (by simpa using asn) delay
    · cases broken
      exact .noConnections (by simpa using asn) delay (by simpa using connections)
    · obtain ⟨before, c, after, connection, broken, earlier⟩ :=
        List.findSome?_eq_some_iff.mp broken
      obtain ⟨front, i, back, interface, broken, above⟩ := List.findSome?_eq_some_iff.mp broken
      unfold Interface.violation? at broken
      split_ifs at broken with reversed
      cases broken
      exact .portRange (by simpa using asn) delay connection
        (fun d among => connection_violation_eq_none_iff.mp (earlier d among)) interface
        (fun j among => interface_violation_eq_none_iff.mp (above j among))
        (by simpa [Interface.Orderly] using reversed)
  · intro broken
    cases broken with
    | noAsn asn => simp [violation?, asn]
    | noDelay asn delay => simp [violation?, asn, delay]
    | noConnections asn delay none => simp [violation?, asn, delay, none]
    | @portRange before after front back c i asn delay connection earlier interface above
        reversed =>
      have first : Interface.violation? c.clientName i =
          some (.portRange i.firstPort i.lastPort i.vlan c.clientName) := by
        rw [Interface.violation?, if_pos (by simpa [Interface.Orderly] using reversed)]
      have own : Connection.violation? c =
          some (.portRange i.firstPort i.lastPort i.vlan c.clientName) := by
        refine List.findSome?_eq_some_iff.mpr ⟨front, i, back, interface, first, ?_⟩
        exact fun j among => interface_violation_eq_none_iff.mpr (above j among)
      have found : s.connections.findSome? Connection.violation? =
          some (.portRange i.firstPort i.lastPort i.vlan c.clientName) := by
        refine List.findSome?_eq_some_iff.mpr ⟨before, c, after, connection, own, ?_⟩
        exact fun d among => connection_violation_eq_none_iff.mpr (earlier d among)
      rw [violation?, if_neg (by simpa using asn), if_neg delay, if_neg (by simp [connection]),
        found]

theorem violation_eq_none_iff : s.violation? = none ↔
    s.asn ≠ "" ∧ s.delay ≠ 0 ∧ s.connections ≠ [] ∧ ∀ c ∈ s.connections, c.Orderly := by
  by_cases asn : s.asn = ""
  · simp [violation?, asn]
  by_cases delay : s.delay = 0
  · simp [violation?, asn, delay]
  by_cases connections : s.connections = []
  · simp [violation?, asn, delay, connections]
  · simp [violation?, asn, delay, connections, connection_violation_eq_none_iff]

theorem exists_breaks_iff : (∃ v, Breaks s v) ↔ s.asn = "" ∨ s.delay = 0 ∨ s.connections = [] ∨
    ∃ c ∈ s.connections, ∃ i ∈ c.interfaces, i.lastPort < i.firstPort := by
  have broken : (∃ v, Breaks s v) ↔ ¬s.violation? = none := by
    simp only [← violation_eq_some_iff, ← Option.ne_none_iff_exists', ne_eq]
  rw [broken, violation_eq_none_iff]
  simp only [not_and_or, not_not, ne_eq, Connection.Orderly, Interface.Orderly, not_forall,
    UInt16.not_le, exists_prop]

/-- Secrets have no part in the rules. -/
theorem violation_of_secured {files : Files Id} {connections : List Connection}
    (secured : List.Forall₂ (Connection.Secured files) s.connections connections) :
    violation? { s with connections } = s.violation? := by
  have one {c d : Connection} (h : c.Secured files d) :
      Connection.violation? d = Connection.violation? c := by
    rw [← h.rest]
    rfl
  have all : connections.findSome? Connection.violation? =
      s.connections.findSome? Connection.violation? := by
    generalize s.connections = given at secured
    induction secured with
    | nil => rfl
    | cons first _ ih => rw [List.findSome?_cons, List.findSome?_cons, one first, ih]
  have none : connections.isEmpty = s.connections.isEmpty := by
    generalize s.connections = given at secured
    cases secured <;> rfl
  simp only [violation?, all, none]

end Settings

/-! ## Sessions -/

/-- What a session offers for an interface of its connection. -/
structure Interface.Offers (i : Interface) (range : Wire.PortRange) : Prop where
  vlan : range.interfaceVlan = i.vlan
  ip : range.interfaceIp = i.ip
  first : range.firstPort.toNat = i.firstPort.toNat
  last : range.lastPort.toNat = i.lastPort.toNat
  ordered : range.firstPort ≤ range.lastPort

/-- What a session has from its connection, and what all sessions share. -/
structure Connection.Serves (files : Files Id) (s : Settings) (c : Connection)
    (session : SessionConfig) : Prop where
  address : session.address = c.coordinator
  asn : session.credentials.asn = s.asn
  client : session.credentials.client = c.clientName
  token : session.credentials.token = c.secret
  interfaces : List.Forall₂ Interface.Offers c.interfaces session.interfaces
  policies : Policy.load files c.policies = .ok session.policies
  backlogWarn : session.backlogWarn = s.backlogWarn.toNat

theorem Interface.offers_range {i : Interface} (ordered : i.Orderly) :
    i.Offers (Settings.Interface.range i) where
  vlan := rfl
  ip := rfl
  first := UInt16.toNat_toUInt32 _
  last := UInt16.toNat_toUInt32 _
  ordered := by
    rw [UInt32.le_iff_toNat_le]
    exact ordered

theorem Connection.offers_ranges {c : Connection} (orderly : c.Orderly) :
    List.Forall₂ Interface.Offers c.interfaces (c.interfaces.map Settings.Interface.range) := by
  rw [List.forall₂_map_right_iff, List.forall₂_same]
  exact fun i among => i.offers_range (orderly i among)

namespace Settings

variable {files : Files Id} {s : Settings}

theorem sessionsOf_of_policies {connections : List Connection}
    (orderly : ∀ c ∈ connections, c.Orderly)
    (loaded : ∀ c ∈ connections, ∃ policies, Policy.load files c.policies = .ok policies) :
    ∃ sessions, (sessionsOf files s connections).2 = .ok sessions ∧
      List.Forall₂ (Connection.Serves files s) connections sessions := by
  induction connections with
  | nil => exact ⟨[], rfl, .nil⟩
  | cons c connections ih =>
    obtain ⟨⟨policies, loaded⟩, others⟩ := List.forall_mem_cons.mp loaded
    obtain ⟨own, orderly⟩ := List.forall_mem_cons.mp orderly
    obtain ⟨sessions, made, each⟩ := ih orderly others
    refine ⟨Settings.Connection.session s policies c :: sessions, ?_, .cons ?_ each⟩
    · simp only [sessionsOf, loaded, bind, pure]
      generalize sessionsOf files s connections = rest at made
      obtain ⟨lines, result⟩ := rest
      obtain rfl : result = .ok sessions := made
      rfl
    · exact ⟨rfl, rfl, rfl, rfl, c.offers_ranges own, loaded, rfl⟩

theorem sessionsOf_of_missing {front back : List Connection} {c : Connection}
    {e : Policy.FileError}
    (loaded : ∀ d ∈ front, ∃ policies, Policy.load files d.policies = .ok policies)
    (missing : Policy.load files c.policies = .error e) :
    (sessionsOf files s (front ++ c :: back)).2 = .error e := by
  refine sessionsOf_of_flaw _ (List.findSome?_eq_some_iff.mpr ⟨front, c, back, rfl, ?_, ?_⟩)
  · exact Connection.flaw_eq_some.mpr missing
  · intro d among
    obtain ⟨policies, loaded⟩ := loaded d among
    rw [Connection.flaw?, loaded]

/-! ## Loading and its sessions -/

variable {path : String} {environment : List (String × String)}

/-- The outcome of loading, and the files that are read for it in their order. -/
def account (files : Files Id) (path : String) (environment : List (String × String)) :
    Except LoadError Settings × List String :=
  (load files.watched path environment).run []

/-- What becomes of settings that are spelled, and of those that are accepted. -/
structure Loads (files : Files Id) (path : String) (environment : List (String × String))
    (s : Settings) : Prop where
  /-- Reading is watched without a change to what comes of it. -/
  outcome : (account files path environment).1 = load files path environment
  /-- The first secret file that cannot be read is the last one read, and the error. -/
  unreadable : ∀ front p back cause, secretFiles s.connections = front ++ p :: back →
    (∀ q ∈ front, files.Readable q) → files.readText p = .error cause →
    account files path environment = (.error (.secret p cause),
      (files.locate path : Option String).toList ++ front ++ [p])
  /-- Otherwise all of them are read, in the order of the connections. -/
  read : (∀ p ∈ secretFiles s.connections, files.Readable p) →
    (account files path environment).2 =
      (files.locate path : Option String).toList ++ secretFiles s.connections
  /-- Then the first broken rule is the error. -/
  refused : (∀ p ∈ secretFiles s.connections, files.Readable p) →
    ∀ v, load files path environment = .error (.invalid v) ↔ Breaks s v
  faulty : (∃ v, Breaks s v) ↔ s.asn = "" ∨ s.delay = 0 ∨ s.connections = [] ∨
    ∃ c ∈ s.connections, ∃ i ∈ c.interfaces, i.lastPort < i.firstPort
  /-- Without a broken rule the settings are accepted, with the secrets from the files. -/
  accepted : (∀ p ∈ secretFiles s.connections, files.Readable p) → (∀ v, ¬Breaks s v) →
    ∃ connections, load files path environment = .ok { s with connections } ∧
      List.Forall₂ (Connection.Secured files) s.connections connections
  /-- The first policy file that cannot be loaded leaves accepted settings without sessions. -/
  missing : ∀ t front c back e, load files path environment = .ok t →
    t.connections = front ++ c :: back →
    (∀ d ∈ front, ∃ policies, Policy.load files d.policies = .ok policies) →
    Policy.load files c.policies = .error e → (t.sessions files).2 = .error e
  /-- Otherwise they make one session for each connection, in order. -/
  served : ∀ t, load files path environment = .ok t →
    (∀ c ∈ t.connections, ∃ policies, Policy.load files c.policies = .ok policies) →
    ∃ sessions, (t.sessions files).2 = .ok sessions ∧
      List.Forall₂ (Connection.Serves files t) t.connections sessions

/-- Accepted settings break no rule, and are as they were spelled but for the secrets. -/
theorem exists_of_conclude {found : Option Settings} {t : Settings}
    (accepted : conclude files found = .ok t) :
    ∃ connections, found = some { t with connections } ∧ t.violation? = none := by
  cases found with
  | none => cases accepted
  | some s =>
    rw [conclude] at accepted
    split at accepted
    case h_1 => cases accepted
    case h_2 connections _ =>
      rw [check] at accepted
      split at accepted
      case h_1 => cases accepted
      case h_2 lawful =>
        cases accepted
        exact ⟨s.connections, rfl, lawful⟩

theorem orderly_of_load {t : Settings} (loaded : load files path environment = .ok t) :
    ∀ c ∈ t.connections, c.Orderly := by
  rw [load_eq] at loaded
  obtain ⟨-, -, lawful⟩ := exists_of_conclude loaded
  exact (violation_eq_none_iff.mp lawful).2.2.2

theorem loads_of_extracted (extracted : extract? files path environment = some s) :
    Loads files path environment s := by
  have watched := run_load extracted []
  rw [List.nil_append] at watched
  constructor
  case outcome => exact congrArg Prod.fst watched
  case unreadable =>
    intro front p back cause place readable unreadable
    rw [account, watched, load_eq, extracted, conclude,
      withSecrets_of_unreadable place readable unreadable, place,
      files.tried_of_unreadable readable unreadable, List.append_assoc]
  case read =>
    intro readable
    rw [account, watched, files.tried_of_readable readable]
  case refused =>
    intro readable v
    obtain ⟨connections, secrets, secured⟩ := withSecrets_of_readable readable
    rw [load_eq, extracted, conclude, secrets, ← violation_eq_some_iff]
    dsimp only
    rw [check, violation_of_secured secured]
    cases s.violation? with
    | none => simp
    | some first =>
      rw [Option.some.injEq]
      exact ⟨fun same => LoadError.invalid.inj (Except.error.inj same), fun same => by rw [same]⟩
  case faulty => exact exists_breaks_iff
  case accepted =>
    intro readable lawful
    obtain ⟨connections, secrets, secured⟩ := withSecrets_of_readable readable
    have none : s.violation? = none := by
      refine Option.eq_none_iff_forall_ne_some.mpr fun v broken => lawful v ?_
      exact violation_eq_some_iff.mp broken
    refine ⟨connections, ?_, secured⟩
    rw [load_eq, extracted, conclude, secrets]
    dsimp only
    rw [check, violation_of_secured secured, none]
  case missing =>
    intro t front c back e loaded place others missing
    rw [Settings.sessions, place]
    exact sessionsOf_of_missing others missing
  case served =>
    intro t loaded policies
    exact sessionsOf_of_policies (orderly_of_load loaded) policies

/-! ## A token from a file -/

def exampleText : String :=
  "[\x7bcoord=a,clientName=e,secret=s,secretFile=k,policies=p,interfaces=[[v,i,1,2]]\x7d," ++
  "\x7bcoord=b,clientName=f,policies=q\x7d]"

def exampleVariables : List (String × String) :=
  [("COORD_CLIENT_ASN", "a"), ("COORD_CLIENT_CONNECTIONS", exampleText)]

/-- No settings file, a secret and one of the two policy files. -/
def exampleHost : Files Id :=
  { read := fun path =>
      if path = "k" then .ok " t\n".toUTF8
      else if path = "p" then .ok .empty
      else .error .notFound
    isFile := fun _ => false
    depth := 0 }

def exampleSettings (secret : String) : Settings :=
  { asn := "a", restartScript := "./restart-as.sh", delay := 5, backlogWarn := 8
    connections :=
      [{ coordinator := "a", clientName := "e", secret, secretFile := some "k", policies := "p"
         interfaces := [⟨"v", "i", 1, 2⟩] },
       { coordinator := "b", clientName := "f", secret := "", secretFile := none
         policies := "q", interfaces := [] }] }

def exampleValue : Value :=
  .array
    [.dict [("coord", .text "a"), ("clientName", .text "e"), ("secret", .text "s"),
      ("secretFile", .text "k"), ("policies", .text "p"),
      ("interfaces", .array [.array [.text "v", .text "i", .int 1, .int 2]])],
     .dict [("coord", .text "b"), ("clientName", .text "f"), ("policies", .text "q")]]

theorem layer_exampleVariables : Variable.layer exampleVariables =
    .dict [("asn", .text "a"), ("connections", exampleValue)] := by
  have asn : Variable.keys? "COORD_CLIENT_ASN" = some ["asn"] := by decide +kernel
  have connections : Variable.keys? "COORD_CLIENT_CONNECTIONS" = some ["connections"] := by
    decide +kernel
  have text : Variable.parse "a" = .text "a" := by cbv
  have array : Variable.parse exampleText = exampleValue := by cbv
  simp only [Variable.layer, exampleVariables, List.foldl_cons, List.foldl_nil, asn, connections,
    text, array, Variable.nest]
  cbv

theorem extract_exampleHost :
    extract? exampleHost "c" exampleVariables = some (exampleSettings "s") := by
  have spelled : ofLayers? (.dict []) (.dict [("asn", .text "a"), ("connections", exampleValue)]) =
      some (exampleSettings "s") := by cbv
  have noFile : fileLayer exampleHost "c" = some (.dict []) := rfl
  simp only [extract?, noFile, layer_exampleVariables, spelled]

/-- The token is the secret of the file. -/
theorem load_exampleHost : load exampleHost "c" exampleVariables = .ok (exampleSettings "t") := by
  have token : exampleHost.readText "k" = .ok " t\n" := rfl
  have secrets : withSecrets exampleHost (exampleSettings "s").connections =
      .ok (exampleSettings "t").connections := by
    rw [exampleSettings, withSecrets_cons, withSecret_of_readable _ rfl token]
    rfl
  rw [load_eq, extract_exampleHost, conclude, secrets]
  rfl

/-- The missing policies leave no session. -/
theorem exampleHost_loads :
    extract? exampleHost "c" exampleVariables = some (exampleSettings "s") ∧
    Loads exampleHost "c" exampleVariables (exampleSettings "s") ∧
    load exampleHost "c" exampleVariables = .ok (exampleSettings "t") ∧
    ((exampleSettings "t").sessions exampleHost).2 = .error (.read "q" .notFound) := by
  have loads := loads_of_extracted extract_exampleHost
  have policies : Policy.load exampleHost "p" = .ok [] := by
    have text : exampleHost.readText "p" = .ok "" := rfl
    have none : Policy.ofText? "" = some [] := by decide +kernel
    simp only [Policy.load, text, none, bind, pure]
  refine ⟨extract_exampleHost, loads, load_exampleHost, ?_⟩
  refine loads.missing _ [_] _ [] _ load_exampleHost rfl ?_ rfl
  intro d among
  rw [List.mem_singleton.mp among]
  exact ⟨[], policies⟩

end Settings

end PeeringAgent
