import PeeringAgent.Yaml.Scalar

/-!
# Tokens by layout

Indentation opens and closes block collections, and whatever may turn out to be
a mapping key is remembered until its colon shows up. A remembered key is too
old on the next line or after 1024 octets; where only a key could stand,
that is an error.
-/

set_option autoImplicit false

namespace PeeringAgent.Yaml

structure SimpleKey where
  required : Bool
  /-- How many tokens stand in front of it. -/
  position : Nat
  mark : Mark

structure Layout where
  cursor : Cursor
  /-- Column of the innermost block collection, below zero outside of all. -/
  indent : Int
  outerIndents : List Int
  keyAllowed : Bool
  key : Option SimpleKey
  /-- Remembered keys of the enclosing levels; one more for each flow level. -/
  outerKeys : List (Option SimpleKey)
  tokens : Array Token

namespace Layout

def start (text : List Char) : Layout :=
  { cursor := .start text, indent := -1, outerIndents := [], keyAllowed := true
    key := none, outerKeys := [], tokens := #[] }

def inFlow (s : Layout) : Bool := !s.outerKeys.isEmpty

def push (t : Token) (s : Layout) : Layout := { s with tokens := s.tokens.push t }

def insert (position : Nat) (t : Token) (s : Layout) : Layout :=
  { s with tokens := s.tokens.insertIdxIfInBounds position t }

def isStale (here : Mark) (k : SimpleKey) : Bool :=
  k.mark.line < here.line || k.mark.index + 1024 < here.index

/-- A key that is too old is forgotten, unless it had to be one. -/
def freshKey (here : Mark) : Option SimpleKey → Option (Option SimpleKey)
  | none => some none
  | some k => if isStale here k then (if k.required then none else some none) else some (some k)

def forgetStale (s : Layout) : Option Layout := do
  let key ← freshKey s.cursor.mark s.key
  let outerKeys ← s.outerKeys.mapM (freshKey s.cursor.mark)
  return { s with key, outerKeys }

/-- The remembered key turned out to be none. -/
def dropKey (s : Layout) : Option Layout :=
  match s.key with
  | some k => if k.required then none else some { s with key := none }
  | none => some s

/-- Remembers that a key may start here. -/
def saveKey (s : Layout) : Option Layout :=
  if s.keyAllowed then do
    let s ← s.dropKey
    return { s with
      key := some {
        required := !s.inFlow && s.indent == s.cursor.column
        position := s.tokens.size
        mark := s.cursor.mark } }
  else some s

/-- Opens a block collection if the column lies deeper than the current one. -/
def openBlock (column : Nat) (position : Nat) (t : Token) (s : Layout) : Layout :=
  if !s.inFlow && s.indent < column then
    { s with indent := column, outerIndents := s.indent :: s.outerIndents }.insert position t
  else s

def closeTo (column : Int) : Int → List Int → Array Token → Int × List Int × Array Token
  | indent, outer :: more, tokens =>
    if indent > column then closeTo column outer more (tokens.push .blockEnd)
    else (indent, outer :: more, tokens)
  | indent, [], tokens => (indent, [], tokens)

/-- Closes the block collections that lie deeper than the column. -/
def closeBlocks (column : Int) (s : Layout) : Layout :=
  if s.inFlow then s
  else
    let (indent, outerIndents, tokens) := closeTo column s.indent s.outerIndents s.tokens
    { s with indent, outerIndents, tokens }

/-- Past blanks, comments and line breaks. In a block, a tab may not stand where
a key could start, and a key may start on every new line. -/
def skipGap : Nat → Layout → Layout
  | 0, s => s
  | n + 1, s =>
    let c := s.cursor
    let c := if c.column == 0 && startsWith (Char.ofNat 0xfeff) c.rest then c.skip 1 else c
    let tabs := s.inFlow || !s.keyAllowed
    let c := skipComment (c.skipWhile fun d => d == ' ' || (tabs && d == '\t'))
    if startsBreak c.rest then
      skipGap n { s with cursor := c.skipBreak, keyAllowed := s.keyAllowed || !s.inFlow }
    else { s with cursor := c }

def advance (n : Nat) (s : Layout) : Layout := { s with cursor := s.cursor.skip n }

def finish (s : Layout) : Option Layout := do
  let s ← (s.closeBlocks (-1)).dropKey
  return { s with keyAllowed := false }

def directive (s : Layout) : Option Layout := do
  let s ← (s.closeBlocks (-1)).dropKey
  let (t, cursor) ← readDirective s.cursor
  return { s with cursor, keyAllowed := false }.push t

def documentMark (t : Token) (s : Layout) : Option Layout := do
  let s ← (s.closeBlocks (-1)).dropKey
  return ({ s with keyAllowed := false }.advance 3).push t

def openFlow (t : Token) (s : Layout) : Option Layout := do
  let s ← s.saveKey
  return ({ s with outerKeys := s.key :: s.outerKeys, key := none
                   keyAllowed := true }.advance 1).push t

def closeFlow (t : Token) (s : Layout) : Option Layout := do
  let s ← s.dropKey
  let s := match s.outerKeys with
    | key :: outerKeys => { s with key, outerKeys }
    | [] => s
  return ({ s with keyAllowed := false }.advance 1).push t

def flowEntry (s : Layout) : Option Layout := do
  let s ← s.dropKey
  return ({ s with keyAllowed := true }.advance 1).push .flowEntry

def blockEntry (s : Layout) : Option Layout :=
  if !s.inFlow && !s.keyAllowed then none
  else do
    let s ← (s.openBlock s.cursor.column s.tokens.size .blockSequenceStart).dropKey
    return ({ s with keyAllowed := true }.advance 1).push .blockEntry

def explicitKey (s : Layout) : Option Layout :=
  if !s.inFlow && !s.keyAllowed then none
  else do
    let s ← (s.openBlock s.cursor.column s.tokens.size .blockMappingStart).dropKey
    return ({ s with keyAllowed := !s.inFlow }.advance 1).push .key

def value (s : Layout) : Option Layout :=
  match s.key with
  | some k =>
    let s := (s.insert k.position .key).openBlock k.mark.column k.position .blockMappingStart
    some (({ s with key := none, keyAllowed := false }.advance 1).push .value)
  | none =>
    if !s.inFlow && !s.keyAllowed then none
    else
      let s := s.openBlock s.cursor.column s.tokens.size .blockMappingStart
      some (({ s with keyAllowed := !s.inFlow }.advance 1).push .value)

/-- A token that may start a key and does not allow one right behind it. -/
def keyStart (read : Cursor → Option (Token × Cursor)) (s : Layout) : Option Layout := do
  let s ← s.saveKey
  let (t, cursor) ← read s.cursor
  return { s with cursor, keyAllowed := false }.push t

def named (token : String → Token) (c : Cursor) : Option (Token × Cursor) :=
  (readName c).map fun (name, c) => (token name, c)

def blockScalar (literal : Bool) (s : Layout) : Option Layout := do
  let s ← s.dropKey
  let (text, cursor) ← readBlockScalar literal s.indent s.cursor
  return { s with cursor, keyAllowed := true }.push
    (.scalar (if literal then .literal else .folded) text)

def quotedScalar (single : Bool) (s : Layout) : Option Layout :=
  s.keyStart fun c => (readQuotedScalar single c).map fun (text, c) =>
    (.scalar (if single then .singleQuoted else .doubleQuoted) text, c)

def plainScalar (s : Layout) : Option Layout := do
  let s ← s.saveKey
  let (text, broken, cursor) ← readPlainScalar s.inFlow s.indent s.cursor
  return { s with cursor, keyAllowed := broken }.push (.scalar .plain text)

/-- Characters that start no plain scalar by themselves. -/
def isIndicator (c : Char) : Bool := "-?:,[]\x7b\x7d#&*!|>'\"%@`".toList.contains c

def startsPlain (flow : Bool) : List Char → Bool
  | [] => false
  | c :: rest =>
    !(isBlank c || isBreak c || isIndicator c) ||
    (c == '-' && !startsBlank rest) ||
    (!flow && (c == '?' || c == ':') && !startsGap rest)

/-- The next token, with those that indentation implies. -/
def next (s : Layout) : Option Layout := do
  let s := s.skipGap (s.cursor.rest.length + 1)
  let s ← s.forgetStale
  let s := s.closeBlocks s.cursor.column
  match s.cursor.rest with
  | [] => s.finish
  | c :: rest =>
    let gap := startsGap rest
    if c == '%' && s.cursor.column == 0 then s.directive
    else if s.cursor.atDocumentMark then
      s.documentMark (if c == '-' then .documentStart else .documentEnd)
    else if c == '[' then s.openFlow .flowSequenceStart
    else if c == '{' then s.openFlow .flowMappingStart
    else if c == ']' then s.closeFlow .flowSequenceEnd
    else if c == '}' then s.closeFlow .flowMappingEnd
    else if c == ',' then s.flowEntry
    else if c == '-' && gap then s.blockEntry
    else if c == '?' && (s.inFlow || gap) then s.explicitKey
    else if c == ':' && (s.inFlow || gap) then s.value
    else if c == '*' then s.keyStart (named .reference)
    else if c == '&' then s.keyStart (named .anchor)
    else if c == '!' then s.keyStart (readTag s.inFlow)
    else if c == '|' && !s.inFlow then s.blockScalar true
    else if c == '>' && !s.inFlow then s.blockScalar false
    else if c == '\'' then s.quotedScalar true
    else if c == '"' then s.quotedScalar false
    else if startsPlain s.inFlow s.cursor.rest then s.plainScalar
    else none

def run : Nat → Layout → Option (Array Token)
  | 0, _ => none
  | n + 1, s => do
    let s' ← s.next
    if s'.cursor.rest.isEmpty && s.cursor.rest.isEmpty then return s'.tokens
    run n s'

end Layout

/-- The tokens of a whole text. -/
def tokens? (text : List Char) : Option (List Token) :=
  if text.all isAllowed then
    ((Layout.start text).run (text.length + 2)).map Array.toList
  else none

end PeeringAgent.Yaml
