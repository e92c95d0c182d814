import PeeringAgent.Json.Token

/-!
# JSON values

A value is read from tokens one at a time, with the arrays and objects still
open kept on a stack, and written back as its shortest row of tokens. Members
of an object keep their order and may repeat a name.
-/

set_option autoImplicit false

namespace PeeringAgent.Json

inductive Value
  | null
  | bool (value : Bool)
  | number (value : Numeral)
  | text (value : Text)
  | array (items : List Value)
  | object (members : List (Text × Value))

namespace Value

/-- An open array or object; what it holds so far is in reverse. -/
inductive Frame
  | items (read : List Value)
  | members (read : List (Text × Value)) (name : Text)

/-- Where reading stands. -/
inductive Reading
  /-- A value must come; an array just opened may also end. -/
  | value (outer : List Frame) (closable : Bool)
  /-- A member name must come; an object just opened may also end. -/
  | name (outer : List Frame) (read : List (Text × Value)) (closable : Bool)
  | colon (outer : List Frame) (read : List (Text × Value)) (name : Text)
  | after (outer : List Frame) (value : Value)

namespace Reading

def start : Reading := .value [] false

def step : Reading → Token → Option Reading
  | .value outer _, .null => some (.after outer .null)
  | .value outer _, .bool b => some (.after outer (.bool b))
  | .value outer _, .number n => some (.after outer (.number n))
  | .value outer _, .text s => some (.after outer (.text s))
  | .value outer _, .openArray => some (.value (.items [] :: outer) true)
  | .value outer _, .openObject => some (.name outer [] true)
  | .value (.items _ :: outer) true, .closeArray => some (.after outer (.array []))
  | .name outer ms _, .text s => some (.colon outer ms s)
  | .name outer _ true, .closeObject => some (.after outer (.object []))
  | .colon outer ms s, .colon => some (.value (.members ms s :: outer) false)
  | .after (.items vs :: outer) v, .comma => some (.value (.items (v :: vs) :: outer) false)
  | .after (.items vs :: outer) v, .closeArray =>
    some (.after outer (.array (v :: vs).reverse))
  | .after (.members ms s :: outer) v, .comma => some (.name outer ((s, v) :: ms) false)
  | .after (.members ms s :: outer) v, .closeObject =>
    some (.after outer (.object ((s, v) :: ms).reverse))
  | _, _ => none

def run : Reading → List Token → Option Reading
  | r, [] => some r
  | r, t :: ts =>
    match r.step t with
    | some r' => r'.run ts
    | none => none

def result? : Reading → Option Value
  | .after [] v => some v
  | _ => none

end Reading

def ofTokens? (ts : List Token) : Option Value := (Reading.start.run ts).bind Reading.result?

/-- The value that a whole text writes. -/
def parse? (s : List Char) : Option Value := (Token.readAll s).bind ofTokens?

mutual

def tokens : Value → List Token
  | null => [.null]
  | bool b => [.bool b]
  | number n => [.number n]
  | text s => [.text s]
  | array vs => .openArray :: itemTokens vs
  | object ms => .openObject :: memberTokens ms

/-- The items of an array with its closing bracket. -/
def itemTokens : List Value → List Token
  | [] => [.closeArray]
  | [v] => tokens v ++ [.closeArray]
  | v :: w :: vs => tokens v ++ .comma :: itemTokens (w :: vs)

/-- The members of an object with its closing brace. -/
def memberTokens : List (Text × Value) → List Token
  | [] => [.closeObject]
  | [(s, v)] => .text s :: .colon :: (tokens v ++ [.closeObject])
  | (s, v) :: m :: ms => .text s :: .colon :: (tokens v ++ .comma :: memberTokens (m :: ms))

end

/-- The compact text of a value. -/
def render (v : Value) : List Char := v.tokens.flatMap Token.spell

mutual

/-- How many arrays and objects are open around the innermost value. -/
def depth : Value → Nat
  | array vs => itemsDepth vs + 1
  | object ms => membersDepth ms + 1
  | _ => 0

def itemsDepth : List Value → Nat
  | [] => 0
  | v :: vs => max (depth v) (itemsDepth vs)

def membersDepth : List (Text × Value) → Nat
  | [] => 0
  | (_, v) :: ms => max (depth v) (membersDepth ms)

end

mutual

/-- Every string has a text and every number is within the doubles. -/
def isProper : Value → Bool
  | number n => !n.exceedsDouble
  | text s => s.isSome
  | array vs => allProper vs
  | object ms => membersProper ms
  | _ => true

def allProper : List Value → Bool
  | [] => true
  | v :: vs => isProper v && allProper vs

def membersProper : List (Text × Value) → Bool
  | [] => true
  | (s, v) :: ms => s.isSome && isProper v && membersProper ms

end

def ofString (s : String) : Value := .text (some s)

def ofNat (n : Nat) : Value := .number (.ofNat n)

end Value

end PeeringAgent.Json
