import PeeringAgent.Settings.Sessions
import PeeringAgent.Supervisor

/-!
# The agent as a program

From a path and an environment to connected sessions, or to the error that ends
the program. No coordinator is contacted before every policy file is loaded.
-/

set_option autoImplicit false

namespace PeeringAgent.Program

inductive Failure
  | settings (error : Settings.LoadError)
  | policies (error : Policy.FileError)
  | session (error : SessionError)

def transportCauses : TransportError → List String
  | .connect _ cause => [cause]
  | .io cause => [cause]
  | .codec cause => [cause]
  | .rejected _ => []
  | .closed => []

def Failure.message : Failure → String
  | settings e => e.message
  | policies e => e.message
  | session e => e.message

/-- What a failure goes back to, nearest first. -/
def Failure.causes : Failure → List String
  | settings _ => []
  | policies (.read _ cause) => [cause.message]
  | policies (.malformed _) => []
  | session (.connect _ cause) => cause.message :: transportCauses cause
  | session (.openStream cause) => cause.message :: transportCauses cause

def numbered : Nat → List String → List String
  | _, [] => []
  | n, cause :: causes =>
    ("    " ++ toString n ++ ": " ++ Log.indented "       " cause) :: numbered (n + 1) causes

def causeLines : List String → List String
  | [] => []
  | [cause] => ["", "Caused by:", "    " ++ Log.indented "    " cause]
  | causes => ["", "Caused by:"] ++ numbered 0 causes

/-- The last that a failing program writes. -/
def Failure.written (f : Failure) : String :=
  String.join ((("Error: " ++ f.message) :: causeLines f.causes).map (· ++ "\n"))

/-- Where the settings are: the first argument, a variable, or the usual place. -/
def settingsPath (arguments : List String) (environment : List (String × String)) : String :=
  (arguments.head?.or (environment.lookup "COORD_CLIENT_CONFIG")).getD Settings.defaultPath

def banner (s : Settings) : Log.Line :=
  Log.info ("Starting peering client for AS " ++ s.asn ++ " with " ++
    toString s.connections.length ++ " connection(s)")

/-- What the program has to work with once its files are read. -/
structure Prepared where
  settings : Settings
  sessions : List SessionConfig

variable {m : Type → Type} [Monad m]

/-- Reads settings and policies. -/
def prepare (files : Files m) (arguments : List String) (environment : List (String × String)) :
    m (List Log.Line × Except Failure Prepared) := do
  match ← Settings.load files (settingsPath arguments environment) environment with
  | .error e => return ([], .error (.settings e))
  | .ok settings =>
    let (lines, sessions) ← settings.sessions files
    match sessions with
    | .error e => return (banner settings :: lines, .error (.policies e))
    | .ok sessions => return (banner settings :: lines, .ok ⟨settings, sessions⟩)

/-- A program that is up, or why it is not. -/
structure Start where
  dialogues : List Dialogue
  log : List Log.Line
  result : Except Failure Settings

/-- Reads settings and policies and connects every session to the coordinator
that answers to its configuration. -/
def start (files : Files m) (arguments : List String) (environment : List (String × String))
    (behaviour : SessionConfig → Behaviour) : m Start := do
  match ← prepare files arguments environment with
  | (lines, .error e) => return { dialogues := [], log := lines, result := .error e }
  | (lines, .ok p) =>
    let up := Supervisor.startUp lines (p.sessions.map fun c => Dialogue.new c (behaviour c))
    return { dialogues := up.dialogues, log := up.log
             result := match up.error with
               | some e => .error (.session e)
               | none => .ok p.settings }

end PeeringAgent.Program
