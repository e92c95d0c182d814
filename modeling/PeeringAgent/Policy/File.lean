import PeeringAgent.Host.Files
import PeeringAgent.Policy
import PeeringAgent.Text.Blank
import PeeringAgent.Yaml.Meaning

/-!
# Policy files

A policy file is a YAML list of mappings. A scalar of any look is a text, word
for word; an optional text is absent when it is written as a plain null. Keys
that no policy has are skipped, and a key may not be given twice.
-/

set_option autoImplicit false

namespace PeeringAgent.Policy

open PeeringAgent.Yaml (Node Document Meaning)
open PeeringAgent.Yaml.Document (Reading)

inductive FileError
  | read (path : String) (cause : IoError)
  | malformed (path : String)
deriving DecidableEq

def FileError.message : FileError → String
  | read path cause => "error reading policy file " ++ path ++ ": " ++ cause.message
  | malformed path => "invalid policy file " ++ path

/-- Absent, when the scalar is a plain null; one without a tag may also be empty. -/
def optionalText (d : Document) (n : Node) : Reading (Option String) := do
  match ← d.follow n with
  | .scalar _ .plain tag s =>
    if tag == some (Meaning.coreTag "null") then
      if Meaning.isNullWord s then return none else failure
    else if tag.isNone && (s.isEmpty || Meaning.isNullWord s) then return none
    else return some s
  | .scalar _ _ _ s => return some s
  | _ => failure

def flag (d : Document) (n : Node) : Reading Bool := do
  match ← d.follow n with
  | .scalar _ style tag s =>
    if style == .plain || (style == .literal && tag == some (Meaning.coreTag "bool")) then
      match Meaning.bool? s with
      | some b => return b
      | none => failure
    else failure
  | _ => failure

/-- The fields of a policy as far as they have been read. -/
structure Partial where
  vlan : Option String
  accept : Option Bool
  peerAsn : Option (Option String)
  peerOwner : Option (Option String)
  peerIsd : Option (Option String)

namespace Partial

def empty : Partial := ⟨none, none, none, none, none⟩

def finish (p : Partial) : Option Policy := do
  return { vlan := ← p.vlan, accept := ← p.accept, peerAsn := p.peerAsn.getD none
           peerOwner := p.peerOwner.getD none, peerIsd := p.peerIsd.getD none }

end Partial

/-- A field is given at most once. -/
def once {α : Type} (old : Option α) (new : Reading α) : Reading (Option α) :=
  match old with
  | some _ => failure
  | none => do return some (← new)

def addField (d : Document) (p : Partial) (key value : Node) : Reading Partial := do
  match ← d.text key with
  | "vlan" => return { p with vlan := ← once p.vlan (d.text value) }
  | "accept" => return { p with accept := ← once p.accept (flag d value) }
  | "peerAsn" => return { p with peerAsn := ← once p.peerAsn (optionalText d value) }
  | "peerOwner" => return { p with peerOwner := ← once p.peerOwner (optionalText d value) }
  | "peerIsd" => return { p with peerIsd := ← once p.peerIsd (optionalText d value) }
  | _ => return p

def ofNode (d : Document) (n : Node) : Reading Policy := do
  match ← d.follow n with
  | .mapping _ _ entries =>
    let p ← entries.foldlM (fun p (k, v) => addField d p k v) Partial.empty
    match p.finish with
    | some policy => return policy
    | none => failure
  | _ => failure

/-- The policies of a document; an empty plain scalar is an empty list. -/
def listOfNode (d : Document) (n : Node) : Reading (List Policy) := do
  match ← d.follow n with
  | .sequence _ _ items => items.mapM (ofNode d)
  | .scalar _ .plain _ "" => return []
  | _ => failure

/-- The policies of a text of one document; a blank text has none. -/
def ofText? (s : String) : Option (List Policy) :=
  if Text.allBlank s.toList then some []
  else
    match Yaml.documents? s.toList with
    | some [] => some []
    | some [root] => Document.read root listOfNode
    | _ => none

def load {m : Type → Type} [Monad m] (files : Files m) (path : String) :
    m (Except FileError (List Policy)) := do
  match ← files.readText path with
  | .error cause => return .error (.read path cause)
  | .ok s =>
    match ofText? s with
    | some policies => return .ok policies
    | none => return .error (.malformed path)

end PeeringAgent.Policy
