/-!
# A place in a YAML text

A cursor is what is left of the text with its position. Moving over a line
break starts a new line; every other character takes one column.
-/

set_option autoImplicit false

namespace PeeringAgent.Yaml

/-- Characters that may stand in a text at all. -/
def isAllowed (c : Char) : Bool :=
  let n := c.toNat
  n == 0x09 || n == 0x0a || n == 0x0d || (0x20 ≤ n && n ≤ 0x7e) || n == 0x85 ||
  (0xa0 ≤ n && n ≤ 0xd7ff) || (0xe000 ≤ n && n ≤ 0xfffd) || 0x10000 ≤ n

def isBreak (c : Char) : Bool :=
  c == '\n' || c == '\r' || c.toNat == 0x85 || c.toNat == 0x2028 || c.toNat == 0x2029

def isBlank (c : Char) : Bool := c == ' ' || c == '\t'

/-- Characters of anchors, tag handles and directive names. -/
def isWord (c : Char) : Bool := c.isAlphanum || c == '_' || c == '-'

def startsBreak : List Char → Bool
  | [] => false
  | c :: _ => isBreak c

def startsBlank : List Char → Bool
  | [] => false
  | c :: _ => isBlank c

/-- A blank, a line break or the end of the text comes next. -/
def startsGap : List Char → Bool
  | [] => true
  | c :: _ => isBlank c || isBreak c

/-- A line break or the end of the text comes next. -/
def startsLineEnd : List Char → Bool
  | [] => true
  | c :: _ => isBreak c

def startsWith (c : Char) : List Char → Bool
  | [] => false
  | d :: _ => c == d

/-- How many octets characters take in UTF-8. -/
def octets (s : List Char) : Nat := s.foldl (fun n c => n + c.utf8Size) 0

structure Mark where
  /-- Octets in front of it. -/
  index : Nat
  line : Nat
  column : Nat
deriving DecidableEq

structure Cursor where
  rest : List Char
  mark : Mark

namespace Cursor

def start (text : List Char) : Cursor := ⟨text, ⟨0, 0, 0⟩⟩

def column (c : Cursor) : Nat := c.mark.column

/-- Past characters of the same line. -/
def skip (n : Nat) (c : Cursor) : Cursor :=
  ⟨c.rest.drop n,
    { c.mark with index := c.mark.index + octets (c.rest.take n)
                  column := c.mark.column + n }⟩

/-- The longest run of characters of one kind, none of them a break. -/
def span (p : Char → Bool) (c : Cursor) : List Char × Cursor :=
  let taken := c.rest.takeWhile p
  (taken, c.skip taken.length)

def skipWhile (p : Char → Bool) (c : Cursor) : Cursor := (c.span p).2

def newLine (taken rest : List Char) (c : Cursor) : Cursor :=
  ⟨rest, { index := c.mark.index + octets taken, line := c.mark.line + 1, column := 0 }⟩

/-- One line break and what it stands for in a text: the two separators of
Unicode stand for themselves, all others for a line feed. -/
def takeBreak (c : Cursor) : List Char × Cursor :=
  match c.rest with
  | '\r' :: '\n' :: rest => (['\n'], c.newLine ['\r', '\n'] rest)
  | b :: rest =>
    if b.toNat == 0x2028 || b.toNat == 0x2029 then ([b], c.newLine [b] rest)
    else if isBreak b then (['\n'], c.newLine [b] rest)
    else ([], c)
  | [] => ([], c)

def skipBreak (c : Cursor) : Cursor := c.takeBreak.2

/-- A document mark of three equal characters at the start of a line. -/
def atDocumentMark (c : Cursor) : Bool :=
  c.column == 0 &&
  match c.rest with
  | '-' :: '-' :: '-' :: rest => startsGap rest
  | '.' :: '.' :: '.' :: rest => startsGap rest
  | _ => false

end Cursor

end PeeringAgent.Yaml
