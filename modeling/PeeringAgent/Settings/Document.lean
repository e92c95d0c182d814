import PeeringAgent.Settings.Value
import PeeringAgent.Yaml.Meaning

/-!
# The layer of a settings file

A settings file is one YAML mapping, or nothing at all. Scalars count by what
they mean; a key given twice keeps its last value.
-/

set_option autoImplicit false

namespace PeeringAgent.Settings

open PeeringAgent.Yaml (Node Document Meaning)
open PeeringAgent.Yaml.Document (Reading)

def ofMeaning : Meaning → Value
  | .null => .null
  | .bool b => .bool b
  | .int n => .int n
  | .float s => .float s
  | .text s => .text s

/-- What a node gives with its tag: a local tag makes a dictionary of one key. -/
def named (tag : Option String) (v : Value) : Value :=
  match tag.bind Meaning.localName? with
  | some name => .dict [(name, v)]
  | none => v

/-- The meaning of a scalar apart from a local tag. -/
def meaning? (style : Yaml.ScalarStyle) (tag : Option String) (s : String) : Option Meaning :=
  Meaning.ofScalar? style (tag.filter fun t => (Meaning.localName? t).isNone) s

/-- Entries in the order of the document, each value read by the given rule. -/
def entries (d : Document) (value : String → Node → Reading Value) (nodes : List (Node × Node)) :
    Reading (List (String × Value)) :=
  nodes.foldlM (fun es (k, v) => do
    let k ← d.text k
    return Value.put k (← value k v) es) []

/-- Keys by which a dictionary stands for a value with its origin. -/
def originKey : String := "___figment_value_id"
def valueKey : String := "___figment_value_value"

def isOrigin : Value → Bool
  | .int n => -(Nat.pow 2 63 : Int) ≤ n && n < UInt64.size
  | _ => false

/-- An entry below the top of a document; the origin of a value is a number. -/
def entryValue (value : Node → Reading Value) (key : String) (n : Node) : Reading Value := do
  let v ← value n
  if key = originKey && !isOrigin v then failure else return v

/-- The dictionary of the entries, or the value that it stands for. -/
def ofEntries (es : List (String × Value)) : Value :=
  match es.lookup valueKey with
  | some v => v
  | none => .dict (es.filter fun e => e.1 != originKey)

/-- The value of a node with a number of levels that may still be opened. -/
def valueWithin (d : Document) : Nat → Node → Reading Value
  | levels, n => do
    match ← d.follow n, levels with
    | .scalar _ style tag s, _ =>
      match meaning? style tag s with
      | some m => return named tag (ofMeaning m)
      | none => failure
    | .sequence _ tag items, levels + 1 =>
      return named tag (.array (← items.mapM (valueWithin d levels)))
    | .mapping _ tag nodes, levels + 1 =>
      return named tag (ofEntries (← entries d (entryValue (valueWithin d levels)) nodes))
    | _, _ => failure

/-- Collections may stand inside each other this often. -/
def nestingLimit : Nat := 128

def layerOfNode (d : Document) (n : Node) : Reading Value := do
  match ← d.follow n with
  | .mapping _ _ nodes =>
    return .dict (← entries d (fun _ => valueWithin d (nestingLimit - 1)) nodes)
  | .scalar _ .plain _ "" => return .dict []
  | _ => failure

/-- The layer of a text of at most one document. -/
def layerOfText? (s : String) : Option Value :=
  match Yaml.documents? s.toList with
  | some [] => some (.dict [])
  | some [root] => Document.read root layerOfNode
  | _ => none

end PeeringAgent.Settings
