import PeeringAgent.Host.Files
import PeeringAgent.Settings.Document
import PeeringAgent.Settings.Variable

/-!
# Settings of the agent

Settings are read from three layers: defaults, a file, the environment. Secrets
kept in files of their own are read next, and only then are the settings
checked; the first fault in reading order is the reported one.
-/

set_option autoImplicit false

namespace PeeringAgent

structure Interface where
  vlan : String
  ip : String
  firstPort : UInt16
  lastPort : UInt16
deriving DecidableEq

structure Connection where
  coordinator : String
  clientName : String
  secret : String
  secretFile : Option String
  policies : String
  interfaces : List Interface
deriving DecidableEq

structure Settings where
  asn : String
  restartScript : String
  /-- Seconds between two reconciliation passes. -/
  delay : UInt64
  backlogWarn : UInt64
  connections : List Connection
deriving DecidableEq

namespace Settings

inductive Violation
  | noAsn
  | noDelay
  | noConnections
  | portRange (first last : UInt16) (vlan client : String)
deriving DecidableEq

def Violation.message : Violation → String
  | noAsn => "Invalid configuration: `asn` is required"
  | noDelay => "Invalid configuration: `asConfigDelay` must be positive"
  | noConnections => "Invalid configuration: no coordinator connections"
  | portRange first last vlan client =>
    "Invalid port range " ++ toString first.toNat ++ "-" ++ toString last.toNat ++
    " on VLAN " ++ vlan ++ " of " ++ client

inductive LoadError
  | malformed
  | secret (path : String) (cause : IoError)
  | invalid (violation : Violation)
deriving DecidableEq

def LoadError.message : LoadError → String
  | malformed => "Failed to load configuration"
  | secret path cause => "Failed to read secret file " ++ path ++ ": " ++ cause.message
  | invalid violation => violation.message

/-! ## From values -/

def text? : Value → Option String
  | .text s => some s
  | _ => none

def natural? (bound : Nat) : Value → Option Nat
  | .int n => if 0 ≤ n ∧ n < bound then some n.toNat else none
  | _ => none

def port? (v : Value) : Option UInt16 := (natural? UInt16.size v).map .ofNat

def word64? (v : Value) : Option UInt64 := (natural? UInt64.size v).map .ofNat

def list? {α : Type} (item? : Value → Option α) : Value → Option (List α)
  | .array vs => vs.mapM item?
  | _ => none

/-- What a record gives for each of its fields: a dictionary by key, an array by
position. What belongs to no field is left aside. -/
def fields? (names : List String) : Value → Option (List (Option Value))
  | .dict es => some (names.map fun name => es.lookup name)
  | .array vs => some (names.mapIdx fun i _ => vs[i]?)
  | _ => none

def required {α : Type} (f : Value → Option α) (v : Option Value) : Option α := v >>= f

def defaulted {α : Type} (default : α) (f : Value → Option α) : Option Value → Option α
  | none => some default
  | some v => f v

def optional {α : Type} (f : Value → Option α) : Option Value → Option (Option α)
  | none => some none
  | some .null => some none
  | some v => (f v).map some

def interface? (v : Value) : Option Interface := do
  let [vlan, ip, first, last] ← fields? ["vlan", "ip", "firstPort", "lastPort"] v | none
  return { vlan := ← required text? vlan, ip := ← required text? ip
           firstPort := ← required port? first, lastPort := ← required port? last }

def connection? (v : Value) : Option Connection := do
  let [coordinator, clientName, secret, secretFile, policies, interfaces] ←
    fields? ["coord", "clientName", "secret", "secretFile", "policies", "interfaces"] v | none
  return { coordinator := ← required text? coordinator
           clientName := ← required text? clientName
           secret := ← defaulted "" text? secret
           secretFile := ← optional text? secretFile
           policies := ← required text? policies
           interfaces := ← defaulted [] (list? interface?) interfaces }

def ofValue? (v : Value) : Option Settings := do
  return { asn := ← required text? (v.get? "asn")
           restartScript := ← required text? (v.get? "asConfigScript")
           delay := ← required word64? (v.get? "asConfigDelay")
           backlogWarn := ← required word64? (v.get? "backlogWarn")
           connections := ← required (list? connection?) (v.get? "connections") }

def defaults : Value :=
  .dict [("asn", .text ""), ("asConfigScript", .text "./restart-as.sh"),
    ("asConfigDelay", .int 5), ("backlogWarn", .int 8), ("connections", .array [])]

/-- The settings that the layers spell, before secrets and checks. -/
def ofLayers? (file environment : Value) : Option Settings :=
  ofValue? ((defaults.cover file).cover environment)

/-! ## Checks -/

def Interface.violation? (client : String) (i : Interface) : Option Violation :=
  if i.firstPort > i.lastPort then some (.portRange i.firstPort i.lastPort i.vlan client)
  else none

def Connection.violation? (c : Connection) : Option Violation :=
  c.interfaces.findSome? (Interface.violation? c.clientName)

/-- The first rule that settings break. -/
def violation? (s : Settings) : Option Violation :=
  if s.asn.isEmpty then some .noAsn
  else if s.delay = 0 then some .noDelay
  else if s.connections.isEmpty then some .noConnections
  else s.connections.findSome? Connection.violation?

def check (s : Settings) : Except LoadError Settings :=
  match s.violation? with
  | some v => .error (.invalid v)
  | none => .ok s

/-! ## Files -/

variable {m : Type → Type} [Monad m]

/-- The layer of the file; without a file it is empty. -/
def fileLayer (files : Files m) (path : String) : m (Option Value) := do
  match ← files.locate path with
  | none => return some (.dict [])
  | some path =>
    match ← files.readText path with
    | .error _ => return none
    | .ok s => return layerOfText? s

def Connection.withSecret (files : Files m) (c : Connection) :
    m (Except LoadError Connection) := do
  match c.secretFile with
  | none => return .ok c
  | some path =>
    match ← files.readText path with
    | .error cause => return .error (.secret path cause)
    | .ok s => return .ok { c with secret := String.ofList (Text.trim s.toList) }

/-- Secrets in connection order, up to the first that cannot be read. -/
def withSecrets (files : Files m) : List Connection → m (Except LoadError (List Connection))
  | [] => return .ok []
  | c :: cs => do
    match ← Connection.withSecret files c with
    | .error e => return .error e
    | .ok c =>
      match ← withSecrets files cs with
      | .error e => return .error e
      | .ok cs => return .ok (c :: cs)

def load (files : Files m) (path : String) (environment : List (String × String)) :
    m (Except LoadError Settings) := do
  match ← fileLayer files path with
  | none => return .error .malformed
  | some file =>
    match ofLayers? file (Variable.layer environment) with
    | none => return .error .malformed
    | some s =>
      match ← withSecrets files s.connections with
      | .error e => return .error e
      | .ok connections => return { s with connections }.check

/-- Where the settings are when nobody says. -/
def defaultPath : String := "./config.yaml"

end Settings

end PeeringAgent
