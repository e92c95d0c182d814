import PeeringAgent.Yaml.Property

/-!
# Scalars

The text of a scalar in each of its written forms. A single line break inside a
folded, quoted or plain scalar reads as a space and further ones as themselves;
a literal scalar keeps its lines.
-/

set_option autoImplicit false

namespace PeeringAgent.Yaml

/-- What a scalar ends with when it is a block: its last break, all or none. -/
inductive Chomping
  | strip
  | clip
  | keep
deriving DecidableEq

/-- How a break between two lines of text reads: a line feed folds. -/
def fold (first : List Char) (further : List Char) : List Char :=
  if startsWith '\n' first then
    if further.isEmpty then [' '] else further
  else first ++ further

/-- White space between two runs of text in one scalar. -/
structure Spacing where
  blanks : List Char
  first : List Char
  further : List Char
  /-- A line has ended since the last run. -/
  broken : Bool

namespace Spacing

def none : Spacing := ⟨[], [], [], false⟩

def text (s : Spacing) : List Char := if s.broken then fold s.first s.further else s.blanks

def addBlank (s : Spacing) (c : Char) : Spacing :=
  if s.broken then s else { s with blanks := s.blanks ++ [c] }

def addBreak (s : Spacing) (b : List Char) : Spacing :=
  if s.broken then { s with further := s.further ++ b }
  else { blanks := [], first := b, further := [], broken := true }

end Spacing

/-! ## Block scalars -/

/-- Indentation and empty lines before the next line of a block, with the
deepest column seen. An indentation of zero is still to be found out. -/
def blockBreaks (indent : Nat) : Nat → Nat → List Char → Cursor →
    Option (Nat × List Char × Cursor)
  | 0, deepest, breaks, c => some (deepest, breaks, c)
  | n + 1, deepest, breaks, c =>
    let room := if indent = 0 then c.rest.length else indent - c.column
    let c := c.skip ((c.rest.take room).takeWhile (· == ' ')).length
    let deepest := max deepest c.column
    if (indent = 0 || c.column < indent) && startsWith '\t' c.rest then Option.none
    else if startsBreak c.rest then
      let (b, c) := c.takeBreak
      blockBreaks indent n deepest (breaks ++ b) c
    else some (deepest, breaks, c)

/-- The lines of a block from one that starts at its indentation. -/
def blockLines (literal : Bool) (indent : Nat) : Nat → List Char → List Char → List Char →
    Bool → Cursor → Option (List Char × List Char × List Char × Cursor)
  | 0, text, first, further, _, c => some (text, first, further, c)
  | n + 1, text, first, further, afterBlank, c =>
    if c.column == indent && !c.rest.isEmpty then do
      let blank := startsBlank c.rest
      let gap :=
        if !literal && startsWith '\n' first && !afterBlank && !blank then
          fold first further
        else first ++ further
      let (line, c) := c.span fun d => !isBreak d
      let (first, c) := c.takeBreak
      let (_, further, c) ← blockBreaks indent (c.rest.length + 1) 0 [] c
      blockLines literal indent n (text ++ gap ++ line) first further blank c
    else some (text, first, further, c)

def chompingOf? (c : Char) : Option Chomping :=
  if c == '+' then some .keep else if c == '-' then some .strip else Option.none

def readChomping (c : Cursor) : Option (Chomping × Cursor) :=
  match c.rest with
  | d :: _ => (chompingOf? d).map fun h => (h, c.skip 1)
  | [] => Option.none

/-- A digit of a block header; zero is no indentation. -/
def readIncrement (c : Cursor) : Option (Nat × Cursor) :=
  match c.rest with
  | d :: _ =>
    if d.isDigit then
      if d == '0' then Option.none else some (d.toNat - '0'.toNat, c.skip 1)
    else some (0, c)
  | [] => some (0, c)

/-- Chomping and indentation of a block, in either order. -/
def readBlockHeader (c : Cursor) : Option (Chomping × Nat × Cursor) :=
  match readChomping c with
  | some (h, c) => do
    let (increment, c) ← readIncrement c
    return (h, increment, c)
  | Option.none => do
    let (increment, c) ← readIncrement c
    if increment = 0 then return (.clip, 0, c)
    match readChomping c with
    | some (h, c) => return (h, increment, c)
    | Option.none => return (.clip, increment, c)

/-- A block scalar in a collection indented by `parent`, which is below zero
outside of all collections. -/
def readBlockScalar (literal : Bool) (parent : Int) (c : Cursor) :
    Option (String × Cursor) := do
  let (chomping, increment, c) ← readBlockHeader (c.skip 1)
  let c := skipComment (c.skipWhile isBlank)
  if !startsLineEnd c.rest then Option.none
  else
    let c := c.skipBreak
    let given := if increment = 0 then 0 else (max parent 0).toNat + increment
    let (deepest, breaks, c) ← blockBreaks given (c.rest.length + 1) 0 [] c
    let indent := if given = 0 then max (max deepest (parent + 1).toNat) 1 else given
    let (text, first, further, c) ←
      blockLines literal indent (c.rest.length + 1) [] [] breaks false c
    let ending := match chomping with
      | .strip => []
      | .clip => first
      | .keep => first ++ further
    return (String.ofList (text ++ ending), c)

/-! ## Quoted scalars -/

def singleEscape? (c : Char) : Option Char :=
  match c with
  | '0' => some (Char.ofNat 0)
  | 'a' => some (Char.ofNat 7)
  | 'b' => some (Char.ofNat 8)
  | 't' => some '\t'
  | '\t' => some '\t'
  | 'n' => some '\n'
  | 'v' => some (Char.ofNat 0xb)
  | 'f' => some (Char.ofNat 0xc)
  | 'r' => some '\r'
  | 'e' => some (Char.ofNat 0x1b)
  | ' ' => some ' '
  | '"' => some '"'
  | '/' => some '/'
  | '\\' => some '\\'
  | 'N' => some (Char.ofNat 0x85)
  | '_' => some (Char.ofNat 0xa0)
  | 'L' => some (Char.ofNat 0x2028)
  | 'P' => some (Char.ofNat 0x2029)
  | _ => Option.none

def codeLength? (c : Char) : Option Nat :=
  match c with
  | 'x' => some 2
  | 'u' => some 4
  | 'U' => some 8
  | _ => Option.none

def hexNumber? : List Char → Nat → Option Nat
  | [], n => some n
  | c :: cs, n => do
    let d ← hexValue? c
    hexNumber? cs (16 * n + d)

/-- A character by its code point in hexadecimal. -/
def codeEscape? (length : Nat) (s : List Char) : Option Char := do
  let ds := s.take length
  if ds.length < length then Option.none
  else
    let n ← hexNumber? ds 0
    if n.isValidChar then some (Char.ofNat n) else Option.none

/-- A run of text in a quoted scalar up to a gap or the closing quote; the flag
tells that an escaped line break ended it. -/
def quotedRun (single : Bool) : Nat → List Char → Cursor → Option (List Char × Bool × Cursor)
  | 0, text, c => some (text, false, c)
  | n + 1, text, c =>
    if startsGap c.rest then some (text, false, c)
    else
      match single, c.rest with
      | true, '\'' :: '\'' :: _ => quotedRun single n (text ++ ['\'']) (c.skip 2)
      | true, '\'' :: _ => some (text, false, c)
      | false, '"' :: _ => some (text, false, c)
      | false, '\\' :: e :: rest =>
        if isBreak e then some (text, true, (c.skip 1).skipBreak)
        else
          match codeLength? e with
          | some length => do
            let ch ← codeEscape? length rest
            quotedRun single n (text ++ [ch]) (c.skip (2 + length))
          | Option.none => do
            let ch ← singleEscape? e
            quotedRun single n (text ++ [ch]) (c.skip 2)
      | false, ['\\'] => Option.none
      | _, _ =>
        let (run, c) := c.span fun d =>
          !(isBlank d || isBreak d || d == '\\' || d == '"' || d == '\'')
        if run.isEmpty then quotedRun single n (text ++ c.rest.take 1) (c.skip 1)
        else quotedRun single n (text ++ run) c

/-- Blanks and line breaks between two runs. -/
def readSpacing : Nat → Spacing → Cursor → Spacing × Cursor
  | 0, s, c => (s, c)
  | n + 1, s, c =>
    match c.rest with
    | d :: _ =>
      if isBlank d then readSpacing n (s.addBlank d) (c.skip 1)
      else if isBreak d then
        let (b, c) := c.takeBreak
        readSpacing n (s.addBreak b) c
      else (s, c)
    | [] => (s, c)

def quotedText (single : Bool) : Nat → List Char → Cursor → Option (List Char × Cursor)
  | 0, _, _ => Option.none
  | n + 1, text, c =>
    if c.atDocumentMark || c.rest.isEmpty then Option.none
    else do
      let (text, escaped, c) ← quotedRun single (c.rest.length + 1) text c
      if startsWith (if single then '\'' else '"') c.rest then some (text, c.skip 1)
      else
        let (s, c) := readSpacing (c.rest.length + 1) { Spacing.none with broken := escaped } c
        quotedText single n (text ++ s.text) c

def readQuotedScalar (single : Bool) (c : Cursor) : Option (String × Cursor) := do
  let (text, c) ← quotedText single (c.rest.length + 1) [] (c.skip 1)
  return (String.ofList text, c)

/-! ## Plain scalars -/

/-- A run of plain text, up to a gap or a character that ends the scalar; in a
flow collection a colon in front of an indicator is an error. -/
def plainRun (flow : Bool) : List Char → Option (List Char)
  | [] => some []
  | c :: rest =>
    if isBlank c || isBreak c then some []
    else if c == ':' && flow &&
        (match rest with
         | d :: _ => ",?[]\x7b\x7d".toList.contains d
         | [] => false) then Option.none
    else if c == ':' && startsGap rest then some []
    else if flow && ",[]\x7b\x7d".toList.contains c then some []
    else (plainRun flow rest).map (c :: ·)

/-- Blanks and breaks behind a run of plain text; a tab may not stand in front
of the scalar's indentation. -/
def plainSpacing (indent : Int) : Nat → Spacing → Cursor → Option (Spacing × Cursor)
  | 0, s, c => some (s, c)
  | n + 1, s, c =>
    match c.rest with
    | d :: _ =>
      if isBlank d then
        if s.broken && (c.column : Int) < indent && d == '\t' then Option.none
        else plainSpacing indent n (s.addBlank d) (c.skip 1)
      else if isBreak d then
        let (b, c) := c.takeBreak
        plainSpacing indent n (s.addBreak b) c
      else some (s, c)
    | [] => some (s, c)

/-- The text of a plain scalar; the flag tells that a line break followed it. -/
def plainText (flow : Bool) (indent : Int) : Nat → List Char → Spacing → Cursor →
    Option (List Char × Bool × Cursor)
  | 0, text, s, c => some (text, s.broken, c)
  | n + 1, text, s, c =>
    if c.atDocumentMark || startsWith '#' c.rest then some (text, s.broken, c)
    else do
      let run ← plainRun flow c.rest
      let c := c.skip run.length
      let (text, s) := if run.isEmpty then (text, s) else (text ++ s.text ++ run, Spacing.none)
      if !startsGap c.rest || c.rest.isEmpty then some (text, s.broken, c)
      else
        let (s, c) ← plainSpacing indent (c.rest.length + 1) s c
        if !flow && (c.column : Int) < indent then some (text, s.broken, c)
        else plainText flow indent n text s c

def readPlainScalar (flow : Bool) (parent : Int) (c : Cursor) :
    Option (String × Bool × Cursor) := do
  let (text, broken, c) ← plainText flow (parent + 1) (c.rest.length + 1) [] .none c
  return (String.ofList text, broken, c)

end PeeringAgent.Yaml
