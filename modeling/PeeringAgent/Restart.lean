import PeeringAgent.Host.Files

/-!
# Restarting the managed AS

The restart action ends with an exit status, is killed or stopped by a signal, or
cannot be launched at all. Only exit status zero counts as success. What a script
does between its launch and its end is up to the host.
-/

set_option autoImplicit false

namespace PeeringAgent

inductive ExitStatus
  | exited (code : Nat)
  | killed (signal : Nat) (coreDumped : Bool)
  | stopped (signal : Nat)
  | continued
  /-- A word that says nothing of the above. -/
  | unknown (word : UInt32)
deriving DecidableEq

namespace ExitStatus

def success (s : ExitStatus) : Bool := s = exited 0

def signalNames : List (Nat × String) :=
  [(1, "SIGHUP"), (2, "SIGINT"), (3, "SIGQUIT"), (4, "SIGILL"), (5, "SIGTRAP"), (6, "SIGABRT"),
   (7, "SIGBUS"), (8, "SIGFPE"), (9, "SIGKILL"), (10, "SIGUSR1"), (11, "SIGSEGV"),
   (12, "SIGUSR2"), (13, "SIGPIPE"), (14, "SIGALRM"), (15, "SIGTERM"), (16, "SIGSTKFLT"),
   (17, "SIGCHLD"), (18, "SIGCONT"), (19, "SIGSTOP"), (20, "SIGTSTP"), (21, "SIGTTIN"),
   (22, "SIGTTOU"), (23, "SIGURG"), (24, "SIGXCPU"), (25, "SIGXFSZ"), (26, "SIGVTALRM"),
   (27, "SIGPROF"), (28, "SIGWINCH"), (29, "SIGIO"), (30, "SIGPWR"), (31, "SIGSYS")]

/-- The status in the word that waiting for a process gives. Its low seven bits are
zero after an exit and else a signal, with all of them set for a stop; the eighth
tells of a core dump, and the next eight hold an exit code or a stop signal. -/
def ofWord (word : UInt32) : ExitStatus :=
  let n := word.toNat
  if n % 128 = 0 then exited (n / 256 % 256)
  else if n % 128 < 127 then killed (n % 128) (n / 128 % 2 = 1)
  else if n % 256 = 127 then stopped (n / 256 % 256)
  else if n = 0xffff then continued
  else unknown word

def nameOf (signal : Nat) : String :=
  match signalNames.lookup signal with
  | some name => " (" ++ name ++ ")"
  | none => ""

def hexadecimal (n : Nat) : String := "0x" ++ String.ofList (Nat.toDigits 16 n)

def describe : ExitStatus → String
  | exited code => "exit status: " ++ toString code
  | killed signal coreDumped =>
    "signal: " ++ toString signal ++ nameOf signal ++
    (if coreDumped then " (core dumped)" else "")
  | stopped signal =>
    "stopped (not terminated) by signal: " ++ toString signal ++ nameOf signal
  | continued => "continued (WIFCONTINUED)"
  | unknown word =>
    "unrecognised wait status: " ++ toString word.toInt32.toInt ++ " " ++
    hexadecimal word.toNat

end ExitStatus

inductive RestartError
  | launch (path cause : String)
  | exit (path : String) (status : ExitStatus)
deriving DecidableEq

def RestartError.message : RestartError → String
  | launch path cause => "could not launch " ++ path ++ ": " ++ cause
  | exit path status => path ++ " exited with " ++ status.describe

/-- How one run of the restart action ends. -/
abbrev RestartOutcome := Except RestartError Unit

/-- The outcome of a run that ended with a status. -/
def RestartOutcome.ofStatus (path : String) (status : ExitStatus) : RestartOutcome :=
  if status.success then .ok () else .error (.exit path status)

/-- Launches the script behind a path, without arguments and without input, and waits for
its end. -/
def RestartOutcome.run {m : Type → Type} [Monad m]
    (execute : String → m (Except IoError ExitStatus)) (path : String) : m RestartOutcome := do
  match ← execute path with
  | .ok status => return .ofStatus path status
  | .error cause => return .error (.launch path cause.message)

end PeeringAgent
