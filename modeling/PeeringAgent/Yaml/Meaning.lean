import PeeringAgent.Text.Decimal
import PeeringAgent.Yaml.Node

/-!
# What a scalar means

A plain scalar is a null, a truth value, an integer, a number or a text by its
look; digits behind a leading zero are a text. A tag of the core schema demands
its kind and any other tag makes a text; a local tag names the scalar and says
nothing about its kind.
-/

set_option autoImplicit false

namespace PeeringAgent.Yaml

inductive Meaning
  | null
  | bool (value : Bool)
  | int (value : Int)
  | float (text : String)
  | text (value : String)
deriving DecidableEq

namespace Meaning

def isNullWord (s : String) : Bool := ["~", "null", "Null", "NULL"].contains s

def bool? (s : String) : Option Bool :=
  if ["true", "True", "TRUE"].contains s then some true
  else if ["false", "False", "FALSE"].contains s then some false
  else none

def digitIn? (radix : Nat) (c : Char) : Option Nat :=
  match hexValue? c with
  | some d => if d < radix then some d else none
  | none => none

def naturalIn (radix : Nat) : List Char → Nat → Option Nat
  | [], n => some n
  | c :: cs, n =>
    match digitIn? radix c with
    | some d => naturalIn radix cs (radix * n + d)
    | none => none

/-- Digits of a radix, at least one. -/
def naturalIn? (radix : Nat) (s : List Char) : Option Nat :=
  if s.isEmpty then none else naturalIn radix s 0

/-- A magnitude in a radix that its two leading characters name, or decimal. -/
def magnitude? (s : List Char) : Option Nat :=
  match s with
  | '0' :: 'x' :: ds => naturalIn? 16 ds
  | '0' :: 'o' :: ds => naturalIn? 8 ds
  | '0' :: 'b' :: ds => naturalIn? 2 ds
  | ds => naturalIn? 10 ds

def unsigned : List Char → List Char
  | '+' :: s => s
  | '-' :: s => s
  | s => s

/-- Digits with a leading zero are no number. -/
def isZeroPadded (s : List Char) : Bool :=
  match unsigned s with
  | '0' :: d :: ds => (d :: ds).all Char.isDigit
  | _ => false

/-- An integer of at most 128 bits; only magnitudes up to 2^127 may be negative. -/
def int? (s : List Char) : Option Int :=
  if isZeroPadded s then none
  else
    match s with
    | '-' :: ds => do
      let n ← magnitude? ds
      if n ≤ Nat.pow 2 127 then some (-(n : Int)) else none
    | _ => do
      let n ← magnitude? (match s with
        | '+' :: ds => ds
        | ds => ds)
      if n < Nat.pow 2 128 then some n else none

def isSpecialFloat (s : String) : Bool :=
  [".inf", ".Inf", ".INF", "+.inf", "+.Inf", "+.INF", "-.inf", "-.Inf", "-.INF",
    ".nan", ".NaN", ".NAN"].contains s

def hasTwoSigns : List Char → Bool
  | '+' :: c :: _ => c == '+' || c == '-'
  | _ => false

def isFloat (s : String) : Bool :=
  isSpecialFloat s ||
  (!hasTwoSigns s.toList &&
    match Text.Decimal.parse? s.toList with
    | some d => d.isFinite
    | none => false)

def ofPlain (s : String) : Meaning :=
  if s.isEmpty || isNullWord s then null
  else
    match bool? s with
    | some b => bool b
    | none =>
      match int? s.toList with
      | some n => int n
      | none => if !isZeroPadded s.toList && isFloat s then float s else text s

def coreTag (kind : String) : String := "tag:yaml.org,2002:" ++ kind

/-- The name that a local tag spells behind its mark. -/
def localName? (tag : String) : Option String :=
  match tag.toList with
  | '!' :: name => some (String.ofList name)
  | _ => none

def ofTagged? (tag s : String) : Option Meaning :=
  if tag == coreTag "bool" then (bool? s).map bool
  else if tag == coreTag "int" then (int? s.toList).map int
  else if tag == coreTag "float" then if isFloat s then some (float s) else none
  else if tag == coreTag "null" then if isNullWord s then some null else none
  else some (text s)

def ofScalar? (style : ScalarStyle) (tag : Option String) (s : String) : Option Meaning :=
  match tag with
  | some tag => ofTagged? tag s
  | none => some (if style = .plain then ofPlain s else text s)

end Meaning

end PeeringAgent.Yaml
