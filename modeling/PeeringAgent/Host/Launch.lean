import PeeringAgent.Host.Tree
import PeeringAgent.Restart

/-!
# Launching programs

A file with permission to run is executed by the interpreter that its first line names, and
that may be such a file again; at the end of the chain stands a program of the host. What
programs do is a parameter: how one ends, and what it leaves of the tree.
-/

set_option autoImplicit false

namespace PeeringAgent.Launch

/-- A program of the host with the name it is called by and its arguments. -/
structure Image where
  program : String
  calledAs : String
  arguments : List String
deriving DecidableEq

/-! ## Interpreters -/

/-- As much of a file as is looked at to find its interpreter. -/
def leadSize : Nat := 256

def isBlank (b : UInt8) : Bool := b == 32 || b == 9

def endsName (b : UInt8) : Bool := isBlank b || b == 0

def trimEnd (bytes : List UInt8) : List UInt8 := (bytes.reverse.dropWhile isBlank).reverse

def text (bytes : List UInt8) : String :=
  let bytes : ByteArray := ⟨(bytes.takeWhile (· != 0)).toArray⟩
  (String.fromUTF8? bytes).getD (String.ofList (bytes.data.toList.map fun b => Char.ofNat b.toNat))

/-- The name and the one argument in what stands behind the mark of a script. -/
def nameAndArgument (line : List UInt8) : String × Option String :=
  let name := line.takeWhile fun b => !endsName b
  let behind := line.drop name.length
  let argument := behind.dropWhile isBlank
  (text name,
   if behind.head?.all (· == 0) || argument.isEmpty then none else some (text argument))

/-- The interpreter in the lead of a script, which is filled up with zeros; a name
that may go on behind the lead does not count. -/
def interpreter? (content : ByteArray) : Option (String × Option String) :=
  let lead := content.data.toList.take leadSize
  let lead := lead ++ List.replicate (leadSize - lead.length) 0
  match lead with
  | 35 :: 33 :: rest =>
    let line := rest.takeWhile fun b => b != 10 && b != 0
    if (rest.drop line.length).head? == some 10 then
      let line := (trimEnd line).dropWhile isBlank
      if line.isEmpty then none else some (nameAndArgument line)
    else
      let line := (rest.take (leadSize - 3)).dropWhile isBlank
      if line.any endsName then some (nameAndArgument (trimEnd line)) else none
  | _ => none

/-! ## What a path leads to -/

def mayRun (mode : Nat) : Bool := mode &&& 0o111 != 0

/-- A file that may be executed: a program, or the content of another file. -/
def executable (t : Tree) (path : String) : Except IoError (String ⊕ ByteArray) := do
  if path.isEmpty then .error .permissionDenied
  match ← t.find path with
  | .program name => return .inl name
  | .file content mode => if mayRun mode then return .inr content else .error .permissionDenied
  | _ => .error .permissionDenied

/-- Follows interpreters up to a depth. -/
def follow (t : Tree) : Nat → String → List String → Except IoError Image
  | 0, path, _ => do
    discard <| executable t path
    .error .tooManyLinks
  | n + 1, path, arguments => do
    match ← executable t path with
    | .inl program => return ⟨program, path, arguments⟩
    | .inr content =>
      match interpreter? content with
      | none => .error .notExecutable
      | some (name, argument) => follow t n name (argument.toList ++ path :: arguments)

/-- How many files may follow one another. -/
def chainLimit : Nat := 6

def ofPath (t : Tree) (path : String) (arguments : List String) : Except IoError Image := do
  if path.isEmpty then .error .notFound
  follow t chainLimit path arguments

/-- Where a name without a slash is looked for. -/
def directories : List String :=
  ["/usr/local/sbin", "/usr/local/bin", "/usr/sbin", "/usr/bin", "/sbin", "/bin"]

/-- The first place that does not lack a program of a name. A place that may not be
executed is passed over, but remembered. -/
def search (t : Tree) (name : String) (arguments : List String) :
    List String → Bool → Except IoError Image
  | [], refused => .error (if refused then .permissionDenied else .notFound)
  | d :: ds, refused =>
    match ofPath t (d ++ "/" ++ name) arguments with
    | .ok image => .ok { image with calledAs := name }
    | .error .notFound | .error .notDirectory => search t name arguments ds refused
    | .error .permissionDenied => search t name arguments ds true
    | .error e => .error e

/-- What a path or a name leads to when it is launched. -/
def image? (t : Tree) (path : String) (arguments : List String) : Except IoError Image :=
  if path.toList.any fun c => c.toNat == 0 then
    .error (.other "nul byte found in provided data")
  else if path.toList.contains '/' then ofPath t path arguments
  else if path.isEmpty then .error .notFound
  else if path.utf8ByteSize > Tree.nameLimit then .error .nameTooLong
  else search t path arguments directories false

/-! ## Running it -/

/-- What the programs of a host do. -/
abbrev Programs := Image → Tree → ExitStatus × Tree

/-- Launches a program without arguments and waits for its end; its own changes of
directory are its own. -/
def execute (programs : Programs) (path : String) : StateM Tree (Except IoError ExitStatus) := do
  let t ← get
  match image? t path [] with
  | .error cause => return .error cause
  | .ok image =>
    let (status, after) := programs image t
    set { after with workingDirectory := t.workingDirectory }
    return .ok status

/-- The outcome of a restart on a host with these programs. -/
def restart (programs : Programs) (path : String) (t : Tree) : RestartOutcome × Tree :=
  (RestartOutcome.run (execute programs) path).run t

variable {programs : Programs} {path : String} {t : Tree}

/-- Nothing is done where nothing can be launched, whatever the programs of the host do. -/
theorem restart_of_error {cause : IoError} (fails : image? t path [] = .error cause) :
    restart programs path t = (.error (.launch path cause.message), t) := by
  simp only [restart, RestartOutcome.run, execute, StateT.run_bind, StateT.run_get, pure_bind,
    bind_assoc, fails, StateT.run_pure]
  rfl

/-- The status of the program that a path leads to decides on the restart. -/
theorem restart_of_image {image : Image} (found : image? t path [] = .ok image) :
    restart programs path t =
      (.ofStatus path (programs image t).1,
        { (programs image t).2 with workingDirectory := t.workingDirectory }) := by
  simp only [restart, RestartOutcome.run, execute, StateT.run_bind, StateT.run_get, pure_bind,
    bind_assoc, found, StateT.run_pure]
  rfl

end PeeringAgent.Launch
