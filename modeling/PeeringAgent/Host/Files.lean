/-!
# Files of the host

What the agent needs of a file system: the bytes behind a path, or why there
are none.
-/

set_option autoImplicit false

namespace PeeringAgent

inductive IoError
  | notFound
  | notExecutable
  | permissionDenied
  | notDirectory
  | isDirectory
  | nameTooLong
  | tooManyLinks
  | nulInPath
  | notUtf8
  | other (text : String)
deriving DecidableEq

def IoError.message : IoError → String
  | notFound => "No such file or directory (os error 2)"
  | notExecutable => "Exec format error (os error 8)"
  | permissionDenied => "Permission denied (os error 13)"
  | notDirectory => "Not a directory (os error 20)"
  | isDirectory => "Is a directory (os error 21)"
  | nameTooLong => "File name too long (os error 36)"
  | tooManyLinks => "Too many levels of symbolic links (os error 40)"
  | nulInPath => "file name contained an unexpected NUL byte"
  | notUtf8 => "stream did not contain valid UTF-8"
  | other text => text

/-- Files behind paths, looked up in some order of effects. -/
structure Files (m : Type → Type) where
  read : String → m (Except IoError ByteArray)
  /-- Whether a path leads to a file that is no directory. -/
  isFile : String → m Bool
  /-- How many directories enclose the working directory. -/
  depth : Nat

namespace Files

def decode (bytes : ByteArray) : Except IoError String :=
  match String.fromUTF8? bytes with
  | some s => .ok s
  | none => .error .notUtf8

def readText {m : Type → Type} [Monad m] (files : Files m) (path : String) :
    m (Except IoError String) := do
  return (← files.read path) >>= decode

def isAbsolute (path : String) : Bool := path.toList.head? == some '/'

/-- The path seen from the working directory and from each one around it. -/
def candidates (depth : Nat) (path : String) : List String :=
  if isAbsolute path then [path]
  else (List.range (depth + 1)).map fun n =>
    String.join (List.replicate n "../") ++ path

def firstFile {m : Type → Type} [Monad m] (files : Files m) : List String → m (Option String)
  | [] => return none
  | path :: paths => do
    if ← files.isFile path then return some path
    files.firstFile paths

/-- Where a path leads to a file, looking outwards from the working directory. -/
def locate {m : Type → Type} [Monad m] (files : Files m) (path : String) : m (Option String) :=
  files.firstFile (candidates files.depth path)

end Files

end PeeringAgent
