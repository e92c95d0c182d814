import PeeringAgent.Settings.Value
import PeeringAgent.Text.Blank
import PeeringAgent.Text.Decimal

/-!
# The layer of the environment

A variable whose name starts with the agent's own lead sets the key that the
rest of its name spells; points in it lead into nested dictionaries. Its value
is a truth value, a number, a quoted text, an array or a dictionary when it is
written as one, and otherwise a text.
-/

set_option autoImplicit false

namespace PeeringAgent.Settings.Variable

def isSpace (c : Char) : Bool :=
  c == ' ' || c == '\t' || c == '\n' || c == '\r' || c == '\x0c'

def isSeparator (c : Char) : Bool :=
  c == ',' || c == '{' || c == '}' || c == '[' || c == ']'

def isKeyChar (c : Char) : Bool := c.isAlphanum || c == '_' || c == '-'

def skipSpace (s : List Char) : List Char := s.dropWhile isSpace

def hexNumber : List Char → Nat → Option Nat
  | [], n => some n
  | c :: cs, n =>
    if c.isDigit then hexNumber cs (16 * n + (c.toNat - '0'.toNat))
    else if 'a' ≤ c && c ≤ 'f' then hexNumber cs (16 * n + (c.toNat - 'a'.toNat + 10))
    else if 'A' ≤ c && c ≤ 'F' then hexNumber cs (16 * n + (c.toNat - 'A'.toNat + 10))
    else none

def codePoint? (ds : List Char) : Option Char := do
  let n ← hexNumber ds 0
  if n.isValidChar then some (Char.ofNat n) else none

def escape? : Char → Option Char
  | '"' => some '"'
  | '\\' => some '\\'
  | 'b' => some '\x08'
  | 'f' => some '\x0c'
  | 'n' => some '\n'
  | 'r' => some '\r'
  | 't' => some '\t'
  | _ => none

/-- Control characters have to be escaped, the tab excepted. -/
def isRaw (c : Char) : Bool := c == '\t' || (0x20 ≤ c.toNat && c.toNat != 0x7f)

/-- The inside of a quoted text up to its closing quote. -/
def quoted : List Char → Option (List Char × List Char)
  | [] => none
  | '"' :: s => some ([], s)
  | '\\' :: 'u' :: a :: b :: c :: d :: s => do
    let ch ← codePoint? [a, b, c, d]
    let (cs, rest) ← quoted s
    return (ch :: cs, rest)
  | '\\' :: 'U' :: a :: b :: c :: d :: e :: f :: g :: h :: s => do
    let ch ← codePoint? [a, b, c, d, e, f, g, h]
    let (cs, rest) ← quoted s
    return (ch :: cs, rest)
  | '\\' :: e :: s => do
    let ch ← escape? e
    let (cs, rest) ← quoted s
    return (ch :: cs, rest)
  | c :: s =>
    if isRaw c && c != '\\' then do
      let (cs, rest) ← quoted s
      return (c :: cs, rest)
    else none

/-- Digits with an optional plus sign, within a machine word. -/
def unsigned? (s : List Char) : Option Int :=
  let ds := match s with
    | '+' :: ds => ds
    | ds => ds
  match Text.Decimal.natural? ds with
  | some n => if n < UInt64.size then some (n : Int) else none
  | none => none

def negative? : List Char → Option Int
  | '-' :: ds =>
    match Text.Decimal.natural? ds with
    | some n => if n ≤ Nat.pow 2 63 then some (-(n : Int)) else none
    | none => none
  | _ => none

/-- What a bare word is: a number if it is written as one. -/
def bare (s : List Char) : Value :=
  if s.contains '.' && (Text.Decimal.parse? s).isSome then .float (String.ofList s)
  else
    match (unsigned? s).or (negative? s) with
    | some n => .int n
    | none => .text (String.ofList s)

def readKey (s : List Char) : Option (String × List Char) :=
  match skipSpace s with
  | '"' :: s => do
    let (k, rest) ← quoted s
    return (String.ofList k, skipSpace rest)
  | s =>
    let k := s.takeWhile isKeyChar
    if k.isEmpty then none
    else some (String.ofList k, skipSpace (s.dropWhile isKeyChar))

mutual

/-- A value with the white space around it. -/
def value : Nat → List Char → Option (Value × List Char)
  | 0, _ => none
  | n + 1, s => do
    let (v, rest) ← inner n (skipSpace s)
    return (v, skipSpace rest)

def inner : Nat → List Char → Option (Value × List Char)
  | _, 't' :: 'r' :: 'u' :: 'e' :: s => some (.bool true, s)
  | _, 'f' :: 'a' :: 'l' :: 's' :: 'e' :: s => some (.bool false, s)
  | n, '{' :: s => do
    let (es, rest) ← entries n s []
    return (.dict es, rest)
  | n, '[' :: s => do
    let (vs, rest) ← items n s
    return (.array vs, rest)
  | _, '"' :: s => do
    let (cs, rest) ← quoted s
    return (.text (String.ofList cs), rest)
  | _, '\'' :: s =>
    match s with
    | c :: '\'' :: rest => some (.text (String.singleton c), rest)
    | _ => none
  | _, s =>
    let word := s.takeWhile fun c => !isSeparator c
    some (bare (Text.trim word), s.dropWhile fun c => !isSeparator c)

/-- The items of an array up to its closing bracket; a comma may end them. -/
def items : Nat → List Char → Option (List Value × List Char)
  | 0, _ => none
  | _, ']' :: s => some ([], s)
  | n + 1, s => do
    let (v, rest) ← value n s
    match rest with
    | ',' :: rest => do
      let (vs, rest) ← items n rest
      return (v :: vs, rest)
    | ']' :: rest => return ([v], rest)
    | _ => none

def entries : Nat → List Char → List (String × Value) →
    Option (List (String × Value) × List Char)
  | 0, _, _ => none
  | _, '}' :: s, es => some (es, s)
  | n + 1, s, es => do
    let (k, rest) ← readKey s
    match rest with
    | '=' :: rest => do
      let (v, rest) ← value n rest
      let es := Value.put k v es
      match rest with
      | ',' :: rest => entries n rest es
      | '}' :: rest => return (es, rest)
      | _ => none
    | _ => none

end

/-- The value of a variable; what is no value as a whole is a text. -/
def parse (s : String) : Value :=
  match value (2 * s.length + 2) s.toList with
  | some (v, []) => v
  | _ => .text s

/-- Variables of the agent start with this, in letters of any case. -/
def lead : List Char := "coord_client_".toList

def lower (s : List Char) : List Char := s.map Char.toLower

/-- The keys that a variable's name spells, outermost first. -/
def keys? (name : String) : Option (List String) :=
  let name := Text.trim name.toList
  if lower (name.take lead.length) = lead then
    let parts := split (lower (Text.trim (name.drop lead.length)))
    if parts.any List.isEmpty then none else some (parts.map String.ofList)
  else none
where
  split : List Char → List (List Char)
    | [] => [[]]
    | c :: cs =>
      if c = '.' then [] :: split cs
      else
        match split cs with
        | [] => [[c]]
        | part :: parts => (c :: part) :: parts

def nest : List String → Value → Value
  | [], v => v
  | k :: ks, v => .dict [(k, nest ks v)]

/-- The layer that the variables set; of two for one key the later one counts. -/
def layer (environment : List (String × String)) : Value :=
  environment.foldl (fun base (name, text) =>
    match keys? name with
    | some keys => base.cover (nest keys (parse text))
    | none => base) (.dict [])

end PeeringAgent.Settings.Variable
