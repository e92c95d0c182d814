import PeeringAgent.Host.Files

/-!
# A directory tree

A finite tree of files with a working directory inside it. Paths are followed
component by component and through symbolic links.
-/

set_option autoImplicit false

namespace PeeringAgent

inductive TreeEntry
  | directory
  | file (content : ByteArray) (mode : Nat)
  | link (target : String)
  /-- Reads as empty and takes whatever is written. -/
  | sink
  /-- A program that comes with the host. -/
  | program (name : String)

def TreeEntry.isRegular : TreeEntry → Bool
  | .file .. | .program _ => true
  | _ => false

/-- Components of an absolute path, none of them empty or a dot. -/
abbrev Place := List String

structure Tree where
  /-- What stands where, with the latest change in front. -/
  entries : List (Place × TreeEntry)
  workingDirectory : Place

namespace Tree

def splitOn (sep : Char) : List Char → List (List Char)
  | [] => [[]]
  | c :: cs =>
    if c == sep then [] :: splitOn sep cs
    else
      match splitOn sep cs with
      | [] => [[c]]
      | part :: parts => (c :: part) :: parts

def components (path : String) : List String := (splitOn '/' path.toList).map String.ofList

def entry? (t : Tree) (p : Place) : Option TreeEntry :=
  if p.isEmpty then some .directory else t.entries.lookup p

def place (t : Tree) (p : Place) (entry : TreeEntry) : Tree :=
  { t with entries := (p, entry) :: t.entries.filter fun e => e.1 != p }

def parent (p : Place) : Place := p.dropLast

def nameLimit : Nat := 255
def pathLimit : Nat := 4095
def linkLimit : Nat := 40

/-- Follows components, with a number of links that may still be followed; each
component but the last has to lead to a directory. -/
def walk (t : Tree) : Nat → Nat → Place → List String → Except IoError Place
  | 0, _, _, _ => .error .nameTooLong
  | _, _, here, [] => .ok here
  | n + 1, links, here, c :: cs =>
    match t.entry? here with
    | none => if (c :: cs).all String.isEmpty then .ok here else .error .notFound
    | some .directory =>
      if c.isEmpty || c == "." then walk t n links here cs
      else if c == ".." then walk t n links (parent here) cs
      else if c.utf8ByteSize > nameLimit then .error .nameTooLong
      else
        match t.entry? (here ++ [c]) with
        | some (.link target) =>
          if links = 0 then .error .tooManyLinks
          else if target.isEmpty then .error .notFound
          else
            walk t n (links - 1) (if Files.isAbsolute target then [] else here)
              (components target ++ cs)
        | _ => walk t n links (here ++ [c]) cs
    | some _ => .error .notDirectory

/-- Steps that a walk can take: what links spell is no longer than a path each. -/
def walkLimit : Nat := (linkLimit + 2) * (pathLimit + 2)

def resolve (t : Tree) (path : String) : Except IoError Place :=
  if path.toList.any fun c => c.toNat == 0 then .error .nulInPath
  else if path.isEmpty then .error .notFound
  else if path.utf8ByteSize > pathLimit then .error .nameTooLong
  else
    t.walk walkLimit linkLimit
      (if Files.isAbsolute path then [] else t.workingDirectory) (components path)

def findAt (t : Tree) (p : Place) : Except IoError TreeEntry :=
  match t.entry? p with
  | some e => .ok e
  | none => .error .notFound

def find (t : Tree) (path : String) : Except IoError TreeEntry := do t.findAt (← t.resolve path)

/-- The bytes with which programs start that are made for a machine. -/
def machineCode : ByteArray := ⟨#[0x7f, 0x45, 0x4c, 0x46, 0xff]⟩

def contentAt (t : Tree) (p : Place) : Except IoError ByteArray := do
  match ← t.findAt p with
  | .file content _ => return content
  | .program _ => return machineCode
  | .sink => return .empty
  | .directory => .error .isDirectory
  | .link _ => .error .tooManyLinks

def read (t : Tree) (path : String) : Except IoError ByteArray := do
  t.contentAt (← t.resolve path)

def isFile (t : Tree) (path : String) : Bool := (t.find path).toOption.any TreeEntry.isRegular

def exists? (t : Tree) (path : String) : Bool := (t.find path).toOption.isSome

/-- Makes sure that every directory on the way to an entry is there. -/
def withParents (t : Tree) : Place → List String → Tree
  | _, [] => t
  | _, [_] => t
  | done, c :: cs =>
    let here := done ++ [c]
    let t := if (t.entries.lookup here).isSome then t else t.place here .directory
    t.withParents here cs

/-- Where a path leads that does not leave the working directory. -/
def below (t : Tree) (path : String) : Place :=
  t.workingDirectory ++ (components path).filter fun c => !c.isEmpty && c != "."

/-- The tree with an entry below the working directory and the directories on its way. -/
def insert (t : Tree) (path : String) (entry : TreeEntry) : Tree :=
  (t.withParents [] (t.below path)).place (t.below path) entry

/-- The tree with a directory below the working directory to work in. -/
def enter (t : Tree) (path : String) : Tree :=
  { t.insert path .directory with workingDirectory := t.below path }

def files (t : Tree) : Files Id where
  read := t.read
  isFile := t.isFile
  depth := t.workingDirectory.length

end Tree

end PeeringAgent
