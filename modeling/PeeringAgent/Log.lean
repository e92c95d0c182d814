import PeeringAgent.Text.Terminal

/-!
# Log lines

What the agent reports while it runs. A line has a level and a text; nothing
in the agent depends on a line once it is written.
-/

set_option autoImplicit false

namespace PeeringAgent.Log

inductive Level
  | debug
  | info
  | warn
  | error
deriving DecidableEq

def Level.name : Level → String
  | .debug => "DEBUG"
  | .info => "INFO"
  | .warn => "WARN"
  | .error => "ERROR"

structure Line where
  level : Level
  text : String
deriving DecidableEq

def debug (text : String) : Line := ⟨.debug, text⟩
def info (text : String) : Line := ⟨.info, text⟩
def warn (text : String) : Line := ⟨.warn, text⟩
def error (text : String) : Line := ⟨.error, text⟩

/-- Debug lines stay out of the agent's own report. -/
def Line.shown (l : Line) : Bool := l.level != .debug

def Line.render (l : Line) : String := l.level.name ++ " " ++ l.text

/-- Lines of a text behind its first one stand further in. -/
def indented (margin text : String) : String :=
  String.intercalate ("\n" ++ margin) (text.splitOn "\n")

/-- A line as the agent's report holds it, with its line end. -/
def Line.written (l : Line) : String :=
  Text.Terminal.strip (indented "    " l.render ++ "\n")

/-- A line about one session starts with the session's name in brackets. -/
def tagged (session text : String) : String := "[" ++ session ++ "] " ++ text

end PeeringAgent.Log
