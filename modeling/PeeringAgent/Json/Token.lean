import PeeringAgent.Json.Numeral

/-!
# Tokens of JSON text

A text is a row of tokens with blanks between them. String tokens keep whether
their escapes spell characters: a surrogate escape without its partner leaves
the string without a text.
-/

set_option autoImplicit false

namespace PeeringAgent.Json

/-- A string's text; none when a lone surrogate escape spoils it. -/
abbrev Text := Option String

inductive Token
  | openArray
  | closeArray
  | openObject
  | closeObject
  | comma
  | colon
  | null
  | bool (value : Bool)
  | number (value : Numeral)
  | text (value : Text)
deriving DecidableEq

/-- Inside a string: a character, or a 16-bit unit written as an escape. -/
inductive Piece
  | char (c : Char)
  | unit (u : Nat)
deriving DecidableEq

namespace Token

def isSpace (c : Char) : Bool := c == ' ' || c == '\t' || c == '\n' || c == '\r'

def hexDigit? (c : Char) : Option Nat :=
  if '0' ≤ c && c ≤ '9' then some (c.toNat - '0'.toNat)
  else if 'a' ≤ c && c ≤ 'f' then some (c.toNat - 'a'.toNat + 10)
  else if 'A' ≤ c && c ≤ 'F' then some (c.toNat - 'A'.toNat + 10)
  else none

def hex4? (a b c d : Char) : Option Nat := do
  let a ← hexDigit? a
  let b ← hexDigit? b
  let c ← hexDigit? c
  let d ← hexDigit? d
  return ((a * 16 + b) * 16 + c) * 16 + d

def shortEscape? : Char → Option Char
  | '"' => some '"'
  | '\\' => some '\\'
  | '/' => some '/'
  | 'b' => some '\x08'
  | 'f' => some '\x0c'
  | 'n' => some '\n'
  | 'r' => some '\r'
  | 't' => some '\t'
  | _ => none

/-- The inside of a string up to its closing quote. -/
def readPieces : List Char → Option (List Piece × List Char)
  | [] => none
  | '"' :: s => some ([], s)
  | '\\' :: 'u' :: a :: b :: c :: d :: s => do
    let u ← hex4? a b c d
    let (ps, rest) ← readPieces s
    return (.unit u :: ps, rest)
  | '\\' :: c :: s => do
    let e ← shortEscape? c
    let (ps, rest) ← readPieces s
    return (.char e :: ps, rest)
  | c :: s =>
    if c.toNat < 0x20 || c == '\\' then none
    else do
      let (ps, rest) ← readPieces s
      return (.char c :: ps, rest)

def isHighSurrogate (u : Nat) : Bool := 0xd800 ≤ u && u < 0xdc00

def isLowSurrogate (u : Nat) : Bool := 0xdc00 ≤ u && u < 0xe000

def joinSurrogates (high low : Nat) : Char :=
  Char.ofNat (0x10000 + (high - 0xd800) * 0x400 + (low - 0xdc00))

/-- The characters that pieces spell; a surrogate needs its partner next to it. -/
def assemble : List Piece → Option (List Char)
  | [] => some []
  | .char c :: ps => (assemble ps).map (c :: ·)
  | .unit high :: .unit low :: ps =>
    if isHighSurrogate high && isLowSurrogate low then
      (assemble ps).map (joinSurrogates high low :: ·)
    else if isHighSurrogate high || isLowSurrogate high then none
    else (assemble (.unit low :: ps)).map (Char.ofNat high :: ·)
  | .unit u :: ps =>
    if isHighSurrogate u || isLowSurrogate u then none
    else (assemble ps).map (Char.ofNat u :: ·)

def readText (s : List Char) : Option (Token × List Char) := do
  let (ps, rest) ← readPieces s
  return (.text ((assemble ps).map String.ofList), rest)

/-- One token at the start of a text that does not start with a blank. -/
def read : List Char → Option (Token × List Char)
  | '[' :: s => some (.openArray, s)
  | ']' :: s => some (.closeArray, s)
  | '{' :: s => some (.openObject, s)
  | '}' :: s => some (.closeObject, s)
  | ',' :: s => some (.comma, s)
  | ':' :: s => some (.colon, s)
  | 'n' :: 'u' :: 'l' :: 'l' :: s => some (.null, s)
  | 't' :: 'r' :: 'u' :: 'e' :: s => some (.bool true, s)
  | 'f' :: 'a' :: 'l' :: 's' :: 'e' :: s => some (.bool false, s)
  | '"' :: s => readText s
  | s => (Numeral.read s).map fun (n, rest) => (.number n, rest)

def readAllWithin : Nat → List Char → Option (List Token)
  | _, [] => some []
  | 0, _ :: _ => none
  | n + 1, c :: s =>
    if isSpace c then readAllWithin n s
    else
      match read (c :: s) with
      | none => none
      | some (t, rest) => (readAllWithin n rest).map (t :: ·)

/-- The tokens of a text; every step takes at least one character. -/
def readAll (s : List Char) : Option (List Token) := readAllWithin s.length s

def escapeChar (c : Char) : List Char :=
  if c == '"' then ['\\', '"']
  else if c == '\\' then ['\\', '\\']
  else if c == '\n' then ['\\', 'n']
  else if c == '\r' then ['\\', 'r']
  else if c == '\t' then ['\\', 't']
  else if c == '\x08' then ['\\', 'b']
  else if c == '\x0c' then ['\\', 'f']
  else if c.toNat < 0x20 then
    ['\\', 'u', '0', '0', Nat.digitChar (c.toNat / 16), Nat.digitChar (c.toNat % 16)]
  else [c]

def quote (s : List Char) : List Char := '"' :: (s.flatMap escapeChar ++ ['"'])

/-- How a token is written. A string without a text has no written form of its
own and is never produced; it shows as a lone surrogate. -/
def spell : Token → List Char
  | openArray => ['[']
  | closeArray => [']']
  | openObject => ['{']
  | closeObject => ['}']
  | comma => [',']
  | colon => [':']
  | null => ['n', 'u', 'l', 'l']
  | bool true => ['t', 'r', 'u', 'e']
  | bool false => ['f', 'a', 'l', 's', 'e']
  | number n => n.spell
  | text (some s) => quote s.toList
  | text none => ['"', '\\', 'u', 'd', '8', '0', '0', '"']

end Token

end PeeringAgent.Json
