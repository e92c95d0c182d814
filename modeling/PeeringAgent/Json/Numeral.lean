/-!
# Numerals

A number stays in the digits it was written in until somebody asks for its
value: as a natural number, or whether it is too large for a double.
-/

set_option autoImplicit false

namespace PeeringAgent.Json

structure Numeral where
  negative : Bool
  whole : List Char
  fraction : Option (List Char)
  /-- Sign and digits; the sign is set for a negative exponent. -/
  exponent : Option (Bool × List Char)
deriving DecidableEq

namespace Numeral

def digit (c : Char) : Nat := c.toNat - '0'.toNat

def digits (s : List Char) : List Char × List Char :=
  (s.takeWhile Char.isDigit, s.dropWhile Char.isDigit)

def value (ds : List Char) : Nat := ds.foldl (fun n c => 10 * n + digit c) 0

/-- Digits in front of the text; a leading zero stands alone. -/
def readWhole (s : List Char) : Option (List Char × List Char) :=
  match digits s with
  | ([], _) => none
  | (c :: d :: ds, rest) => if c = '0' then none else some (c :: d :: ds, rest)
  | ([c], rest) => some ([c], rest)

def readFraction : List Char → Option (Option (List Char) × List Char)
  | '.' :: s =>
    match digits s with
    | ([], _) => none
    | (ds, rest) => some (some ds, rest)
  | s => some (none, s)

def readExponentDigits (negative : Bool) (s : List Char) :
    Option (Option (Bool × List Char) × List Char) :=
  match digits s with
  | ([], _) => none
  | (ds, rest) => some (some (negative, ds), rest)

def readExponent : List Char → Option (Option (Bool × List Char) × List Char)
  | c :: s =>
    if c = 'e' || c = 'E' then
      match s with
      | '-' :: s' => readExponentDigits true s'
      | '+' :: s' => readExponentDigits false s'
      | s' => readExponentDigits false s'
    else some (none, c :: s)
  | [] => some (none, [])

def readUnsigned (negative : Bool) (s : List Char) : Option (Numeral × List Char) := do
  let (whole, s) ← readWhole s
  let (fraction, s) ← readFraction s
  let (exponent, s) ← readExponent s
  return (⟨negative, whole, fraction, exponent⟩, s)

def read : List Char → Option (Numeral × List Char)
  | '-' :: s => readUnsigned true s
  | s => readUnsigned false s

def spell (n : Numeral) : List Char :=
  (if n.negative then ['-'] else []) ++ n.whole ++
  (match n.fraction with
   | some ds => '.' :: ds
   | none => []) ++
  (match n.exponent with
   | some (true, ds) => 'e' :: '-' :: ds
   | some (false, ds) => 'e' :: ds
   | none => [])

def ofNat (n : Nat) : Numeral := ⟨false, Nat.toDigits 10 n, none, none⟩

/-- The natural number that a numeral without sign, fraction and exponent names. -/
def toNat? (n : Numeral) : Option Nat :=
  match n with
  | ⟨false, whole, none, none⟩ => some (value whole)
  | _ => none

/-- Nearest number with at most 53 significant bits, ties to even. -/
def roundTo53 (n : Nat) : Nat :=
  let width := n.log2 + 1
  if width ≤ 53 then n
  else
    let unit := Nat.pow 2 (width - 53)
    let quotient := n / unit
    let remainder := n % unit
    let up := 2 * remainder > unit || (2 * remainder == unit && quotient % 2 == 1)
    (if up then quotient + 1 else quotient) * unit

/-- A significand of at most 64 bits and a decimal exponent. -/
structure Scaled where
  significand : Nat
  exponent : Int

def fits (significand : Nat) (c : Char) : Bool := 10 * significand + digit c < UInt64.size

/-- Whole digits beyond 64 bits only raise the exponent. -/
def scaleWhole : List Char → Nat → Scaled
  | [], n => ⟨n, 0⟩
  | c :: ds, n => if fits n c then scaleWhole ds (10 * n + digit c) else ⟨n, ds.length + 1⟩

/-- Fraction digits beyond 64 bits are dropped. -/
def scaleFraction : List Char → Scaled → Scaled
  | [], x => x
  | c :: ds, x =>
    if fits x.significand c then
      scaleFraction ds ⟨10 * x.significand + digit c, x.exponent - 1⟩
    else x

def scaled (n : Numeral) : Scaled :=
  let x := scaleFraction (n.fraction.getD []) (scaleWhole n.whole 0)
  match n.exponent with
  | some (true, ds) => { x with exponent := x.exponent - value ds }
  | some (false, ds) => { x with exponent := x.exponent + value ds }
  | none => x

/-- The least number that no double is near. -/
def doubleLimit : Nat := Nat.pow 2 1024 - Nat.pow 2 970

/-- An exponent literal of more than 31 bits counts by its sign alone. -/
def hugeExponent : Numeral → Bool
  | ⟨_, _, _, some (false, ds)⟩ => value ds ≥ Nat.pow 2 31
  | _ => false

def exceedsDouble (n : Numeral) : Bool :=
  let x := n.scaled
  x.significand ≠ 0 &&
    (n.hugeExponent || x.exponent > 308 ||
      (0 ≤ x.exponent &&
        roundTo53 x.significand * roundTo53 (Nat.pow 10 x.exponent.toNat) ≥ doubleLimit))

end Numeral

end PeeringAgent.Json
