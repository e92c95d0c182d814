/-!
# Decimal numbers

The written form of a decimal number, and whether its value is within the
doubles: below the point halfway between the largest double and the next power
of two.
-/

set_option autoImplicit false

namespace PeeringAgent.Text

structure Decimal where
  negative : Bool
  whole : List Char
  fraction : List Char
  exponent : Int
deriving DecidableEq

namespace Decimal

def digit (c : Char) : Nat := c.toNat - '0'.toNat

def natural (ds : List Char) : Nat := ds.foldl (fun n c => 10 * n + digit c) 0

/-- Digits and nothing else, at least one of them. -/
def natural? (s : List Char) : Option Nat :=
  if s.isEmpty || !s.all Char.isDigit then none else some (natural s)

def sign : List Char → Bool × List Char
  | '-' :: s => (true, s)
  | '+' :: s => (false, s)
  | s => (false, s)

def exponent? : List Char → Option Int
  | [] => some 0
  | c :: s =>
    if c = 'e' || c = 'E' then
      let (negative, ds) := sign s
      (natural? ds).map fun n => if negative then -(n : Int) else n
    else none

def fractionOf : List Char → List Char × List Char
  | '.' :: s => (s.takeWhile Char.isDigit, s.dropWhile Char.isDigit)
  | s => ([], s)

/-- A number with at least one digit; the digits may all stand on one side of
the point. -/
def parse? (s : List Char) : Option Decimal := do
  let (negative, s) := sign s
  let whole := s.takeWhile Char.isDigit
  let (fraction, rest) := fractionOf (s.dropWhile Char.isDigit)
  if whole.isEmpty && fraction.isEmpty then none
  else
    let e ← exponent? rest
    return ⟨negative, whole, fraction, e⟩

def limit : Nat := Nat.pow 2 1024 - Nat.pow 2 970

/-- The value is not too large for a double. -/
def isFinite (d : Decimal) : Bool :=
  let ds := (d.whole ++ d.fraction).dropWhile (· == '0')
  let shift := d.exponent - d.fraction.length
  let order := (ds.length : Int) + shift
  ds.isEmpty || order ≤ 308 ||
  (order ≤ 310 &&
    if 0 ≤ shift then natural ds * Nat.pow 10 shift.toNat < limit
    else natural ds < limit * Nat.pow 10 (-shift).toNat)

end Decimal

end PeeringAgent.Text
