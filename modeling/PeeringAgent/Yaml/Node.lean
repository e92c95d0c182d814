import PeeringAgent.Yaml.Token.Layout

/-!
# YAML documents

A document is a tree of scalars, sequences and mappings. An anchored node has a
slot that aliases point to: the number of different names anchored before it.
When slots coincide, an alias means the node that started last.
-/

set_option autoImplicit false

namespace PeeringAgent.Yaml

inductive Node
  | scalar (slot : Option Nat) (style : ScalarStyle) (tag : Option String) (text : String)
  | sequence (slot : Option Nat) (tag : Option String) (items : List Node)
  | mapping (slot : Option Nat) (tag : Option String) (entries : List (Node × Node))
  | reference (slot : Nat)

namespace Node

mutual

/-- How many events a node takes: one for a scalar or an alias, two around a
collection. -/
def size : Node → Nat
  | scalar .. => 1
  | reference _ => 1
  | sequence _ _ items => itemsSize items + 2
  | mapping _ _ entries => entriesSize entries + 2

def itemsSize : List Node → Nat
  | [] => 0
  | n :: ns => size n + itemsSize ns

def entriesSize : List (Node × Node) → Nat
  | [] => 0
  | (k, v) :: es => size k + size v + entriesSize es

end

mutual

/-- The anchored nodes in the order in which they start. -/
def anchored : Node → List (Nat × Node)
  | scalar slot style tag text =>
    match slot with
    | some i => [(i, scalar slot style tag text)]
    | none => []
  | sequence slot tag items =>
    match slot with
    | some i => (i, sequence slot tag items) :: itemsAnchored items
    | none => itemsAnchored items
  | mapping slot tag entries =>
    match slot with
    | some i => (i, mapping slot tag entries) :: entriesAnchored entries
    | none => entriesAnchored entries
  | reference _ => []

def itemsAnchored : List Node → List (Nat × Node)
  | [] => []
  | n :: ns => anchored n ++ itemsAnchored ns

def entriesAnchored : List (Node × Node) → List (Nat × Node)
  | [] => []
  | (k, v) :: es => anchored k ++ anchored v ++ entriesAnchored es

end

end Node

/-- What is left to read of a document, with the names anchored so far and the
tag handles declared for it. -/
structure Reader where
  tokens : List Token
  names : List (String × Nat)
  handles : List (String × String)

namespace Reader

def defaultHandles : List (String × String) := [("!", "!"), ("!!", "tag:yaml.org,2002:")]

def drop (r : Reader) : Reader := { r with tokens := r.tokens.drop 1 }

def head? (r : Reader) : Option Token := r.tokens.head?

def headIn (r : Reader) (ts : List Token) : Bool :=
  match r.head? with
  | some t => ts.contains t
  | none => false

/-- Gives an anchored node its slot; a name anchored again moves to the new one. -/
def anchor (name : Option String) (r : Reader) : Option Nat × Reader :=
  match name with
  | none => (none, r)
  | some name =>
    let slot := r.names.length
    (some slot, { r with names := (name, slot) :: r.names.filter fun e => e.1 != name })

/-- A tag as it stands after its handle is replaced. -/
def resolveTag (r : Reader) (handle suffix : String) : Option String :=
  if handle.isEmpty then some suffix else (r.handles.lookup handle).map (· ++ suffix)

structure Properties where
  anchor : Option String
  tag : Option (String × String)

/-- An anchor and a tag in either order, each at most once. -/
def properties (r : Reader) : Properties × Reader :=
  match r.tokens with
  | .anchor a :: .tag h s :: ts => (⟨some a, some (h, s)⟩, { r with tokens := ts })
  | .tag h s :: .anchor a :: ts => (⟨some a, some (h, s)⟩, { r with tokens := ts })
  | .anchor a :: ts => (⟨some a, none⟩, { r with tokens := ts })
  | .tag h s :: ts => (⟨none, some (h, s)⟩, { r with tokens := ts })
  | _ => (⟨none, none⟩, r)

def emptyScalar : Node := .scalar none .plain none ""

def ends (closing : List Token) (r : Reader) : Bool := r.tokens.isEmpty || r.headIn closing

mutual

/-- One node. Block collections may start only in block context; entries of a
sequence may stand at the indentation of the mapping around it. -/
def node (block level : Bool) : Nat → Reader → Option (Node × Reader)
  | 0, _ => none
  | n + 1, r =>
    match r.tokens with
    | .reference name :: _ => do
      let slot ← r.names.lookup name
      return (.reference slot, r.drop)
    | _ => do
      let (p, r) := r.properties
      let tag ← match p.tag with
        | none => some none
        | some (h, s) => (r.resolveTag h s).map some
      let (slot, started) := r.anchor p.anchor
      match r.head? with
      | some .blockEntry =>
        if level then do
          let (items, r) ← levelItems n started
          return (.sequence slot tag items, r)
        else
          bare p tag slot started
      | some (.scalar style text) => return (.scalar slot style tag text, started.drop)
      | some .flowSequenceStart => do
        let (items, r) ← flowItems true n started.drop
        return (.sequence slot tag items, r)
      | some .flowMappingStart => do
        let (entries, r) ← flowEntries true n started.drop
        return (.mapping slot tag entries, r)
      | some .blockSequenceStart =>
        if block then do
          let (items, r) ← blockItems n started.drop
          return (.sequence slot tag items, r)
        else bare p tag slot started
      | some .blockMappingStart =>
        if block then do
          let (entries, r) ← blockEntries n started.drop
          return (.mapping slot tag entries, r)
        else bare p tag slot started
      | _ => bare p tag slot started
where
  /-- Properties with nothing behind them belong to an empty scalar. -/
  bare (p : Properties) (tag : Option String) (slot : Option Nat) (r : Reader) :
      Option (Node × Reader) :=
    if p.anchor.isNone && p.tag.isNone then none else some (.scalar slot .plain tag "", r)

/-- A node, or the empty scalar where one of the closing tokens comes next. -/
def nodeUnless (closing : List Token) (block level : Bool) :
    Nat → Reader → Option (Node × Reader)
  | 0, _ => none
  | n + 1, r =>
    if r.ends closing then some (emptyScalar, r) else node block level n r

def blockItems : Nat → Reader → Option (List Node × Reader)
  | 0, _ => none
  | n + 1, r =>
    match r.head? with
    | some .blockEntry => do
      let (item, r) ← nodeUnless [.blockEntry, .blockEnd] true false n r.drop
      let (items, r) ← blockItems n r
      return (item :: items, r)
    | some .blockEnd => some ([], r.drop)
    | _ => none

/-- Entries of a sequence without an indentation of its own. -/
def levelItems : Nat → Reader → Option (List Node × Reader)
  | 0, _ => none
  | n + 1, r =>
    match r.head? with
    | some .blockEntry => do
      let (item, r) ← nodeUnless [.blockEntry, .key, .value, .blockEnd] true false n r.drop
      let (items, r) ← levelItems n r
      return (item :: items, r)
    | _ => some ([], r)

def blockEntries : Nat → Reader → Option (List (Node × Node) × Reader)
  | 0, _ => none
  | n + 1, r =>
    match r.head? with
    | some .key => do
      let (k, r) ← nodeUnless [.key, .value, .blockEnd] true true n r.drop
      let (v, r) ← blockValue n r
      let (entries, r) ← blockEntries n r
      return ((k, v) :: entries, r)
    | some .blockEnd => some ([], r.drop)
    | _ => none

def blockValue : Nat → Reader → Option (Node × Reader)
  | 0, _ => none
  | n + 1, r =>
    match r.head? with
    | some .value => nodeUnless [.key, .value, .blockEnd] true true n r.drop
    | _ => some (emptyScalar, r)

def flowItems (first : Bool) : Nat → Reader → Option (List Node × Reader)
  | 0, _ => none
  | n + 1, r =>
    match r.head? with
    | some .flowSequenceEnd => some ([], r.drop)
    | _ => do
      let r ← if first then some r else if r.headIn [.flowEntry] then some r.drop else none
      match r.head? with
      | some .flowSequenceEnd => return ([], r.drop)
      | some .key => do
        let (pair, r) ← flowPair n r.drop
        let (items, r) ← flowItems false n r
        return (.mapping none none [pair] :: items, r)
      | _ => do
        let (item, r) ← node false false n r
        let (items, r) ← flowItems false n r
        return (item :: items, r)

/-- A single pair inside a flow sequence. Without a key, the token after the key
mark is taken for it and lost. -/
def flowPair : Nat → Reader → Option ((Node × Node) × Reader)
  | 0, _ => none
  | n + 1, r => do
    let (k, r) ←
      if r.headIn [.value, .flowEntry, .flowSequenceEnd] then some (emptyScalar, r.drop)
      else node false false n r
    let (v, r) ← flowValue [.flowEntry, .flowSequenceEnd] n r
    return ((k, v), r)

def flowValue (closing : List Token) : Nat → Reader → Option (Node × Reader)
  | 0, _ => none
  | n + 1, r =>
    match r.head? with
    | some .value => nodeUnless closing false false n r.drop
    | _ => some (emptyScalar, r)

def flowEntries (first : Bool) : Nat → Reader → Option (List (Node × Node) × Reader)
  | 0, _ => none
  | n + 1, r =>
    match r.head? with
    | some .flowMappingEnd => some ([], r.drop)
    | _ => do
      let r ← if first then some r else if r.headIn [.flowEntry] then some r.drop else none
      match r.head? with
      | some .flowMappingEnd => return ([], r.drop)
      | some .key => do
        let (k, r) ← nodeUnless [.value, .flowEntry, .flowMappingEnd] false false n r.drop
        let (v, r) ← flowValue [.flowEntry, .flowMappingEnd] n r
        let (entries, r) ← flowEntries false n r
        return ((k, v) :: entries, r)
      | _ => do
        let (k, r) ← node false false n r
        let (entries, r) ← flowEntries false n r
        return ((k, emptyScalar) :: entries, r)

end

/-- Directives in front of a document: one version at most, of a major version
1, and each tag handle once. -/
def directives : List Token → Bool → List (String × String) →
    Option (List (String × String) × List Token)
  | .versionDirective major minor :: ts, versioned, handles =>
    if versioned || major != 1 || (minor != 1 && minor != 2) then none
    else directives ts true handles
  | .tagDirective handle lead :: ts, versioned, handles =>
    if (handles.lookup handle).isSome then none
    else directives ts versioned (handles ++ [(handle, lead)])
  | ts, _, handles => some (handles ++ defaultHandles, ts)

def isDirective : Token → Bool
  | .versionDirective .. => true
  | .tagDirective .. => true
  | _ => false

/-- Where a document has no content of its own. -/
def startsNothing : List Token → Bool
  | [] => true
  | t :: _ => isDirective t || t == .documentStart || t == .documentEnd

/-- The fuel that reading a row of tokens needs: each level of the grammar hands
on at most a few times before it takes a token. -/
def fuel (ts : List Token) : Nat := 4 * ts.length + 8

def content (handles : List (String × String)) (ts : List Token) : Option (Node × List Token) := do
  let (root, r) ← node true false (fuel ts) ⟨ts, [], handles⟩
  return (root, r.tokens)

/-- One document that starts with directives or its mark. -/
def explicitDocument (ts : List Token) : Option (Node × List Token) := do
  let (handles, ts) ← directives ts false []
  match ts with
  | .documentStart :: ts =>
    if startsNothing ts then some (emptyScalar, ts) else content handles ts
  | _ => none

def isDocumentEnd (t : Token) : Bool := t == .documentEnd

/-- Documents after the first; each needs its mark. -/
def furtherDocuments : Nat → List Token → Option (List Node)
  | 0, _ => none
  | n + 1, ts =>
    match ts.dropWhile isDocumentEnd with
    | [] => some []
    | ts => do
      let (root, rest) ← explicitDocument ts
      let more ← furtherDocuments n rest
      return root :: more

end Reader

/-- The documents of a whole text. -/
def documents? (text : List Char) : Option (List Node) := do
  let ts ← tokens? text
  match ts with
  | [] => return []
  | t :: _ => do
    let (root, rest) ←
      if Reader.isDirective t || t == .documentStart then Reader.explicitDocument ts
      else Reader.content Reader.defaultHandles ts
    let more ← Reader.furtherDocuments (ts.length + 1) rest
    return root :: more

/-- A document with the means to follow its aliases. -/
structure Document where
  root : Node
  targets : List (Nat × Node)

def Document.ofRoot (root : Node) : Document := ⟨root, root.anchored.reverse⟩

def Document.target? (d : Document) (slot : Nat) : Option Node := d.targets.lookup slot

/-- How many aliases may be followed in all: a hundred for each event. -/
def Document.aliasLimit (d : Document) : Nat := 100 * d.root.size

/-! ## Reading documents -/

/-- Reading a document with a limited number of aliases to follow. -/
abbrev Document.Reading := StateT Nat Option

namespace Document

/-- The node itself, or what it is an alias of. -/
def follow (d : Document) : Node → Reading Node
  | .reference slot => do
    match ← get with
    | 0 => failure
    | n + 1 =>
      set n
      match d.target? slot with
      | some target => return target
      | none => failure
  | n => return n

/-- The text of any scalar, word for word. -/
def text (d : Document) (n : Node) : Reading String := do
  match ← d.follow n with
  | .scalar _ _ _ s => return s
  | _ => failure

/-- Reads the document of a root from its top. -/
def read {α : Type} (root : Node) (reading : Document → Node → Reading α) : Option α :=
  let d := Document.ofRoot root
  (reading d root).run' d.aliasLimit

end Document

end PeeringAgent.Yaml
