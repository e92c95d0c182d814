import PeeringAgent.Json.Value

/-!
# The texts of a value

A value can be written in many ways: numbers with either exponent mark, characters of a
string plain or as any of their escapes, and any blanks around the tokens.
-/

set_option autoImplicit false

namespace PeeringAgent.Json

namespace Numeral

/-- At least one digit. -/
structure Digits (ds : List Char) : Prop where
  some : ds ≠ []
  each : ∀ c ∈ ds, c.isDigit = true

/-- Digits of which a leading zero is the only one. -/
structure Whole (ds : List Char) : Prop extends Digits ds where
  zero : ds.head? = .some '0' → ds.length = 1

inductive FractionText : Option (List Char) → List Char → Prop
  | none : FractionText none []
  | some {ds : List Char} (digits : Digits ds) : FractionText (some ds) ('.' :: ds)

def isMark (c : Char) : Bool := c = 'e' || c = 'E'

inductive ExponentText : Option (Bool × List Char) → List Char → Prop
  | none : ExponentText none []
  | minus {c : Char} {ds : List Char} (mark : isMark c = true) (digits : Digits ds) :
      ExponentText (some (true, ds)) (c :: '-' :: ds)
  | plus {c : Char} {ds : List Char} (mark : isMark c = true) (digits : Digits ds) :
      ExponentText (some (false, ds)) (c :: '+' :: ds)
  | unsigned {c : Char} {ds : List Char} (mark : isMark c = true) (digits : Digits ds) :
      ExponentText (some (false, ds)) (c :: ds)

inductive UnsignedText (negative : Bool) : Numeral → List Char → Prop
  | mk {whole s t : List Char} {fraction : Option (List Char)}
      {exponent : Option (Bool × List Char)} (first : Whole whole)
      (second : FractionText fraction s) (third : ExponentText exponent t) :
      UnsignedText negative ⟨negative, whole, fraction, exponent⟩ (whole ++ (s ++ t))

inductive Writes : Numeral → List Char → Prop
  | positive {n : Numeral} {s : List Char} (text : UnsignedText false n s) : Writes n s
  | negative {n : Numeral} {s : List Char} (text : UnsignedText true n s) : Writes n ('-' :: s)

end Numeral

/-- The texts of a piece of a string. -/
inductive Piece.Writes : Piece → List Char → Prop
  | plain {c : Char} (noQuote : c ≠ '"') (noEscape : c ≠ '\\') (printable : 0x20 ≤ c.toNat) :
      Writes (.char c) [c]
  | short {c e : Char} (short : Token.shortEscape? c = some e) : Writes (.char e) ['\\', c]
  | unit {a b c d : Char} {u : Nat} (unit : Token.hex4? a b c d = some u) :
      Writes (.unit u) ['\\', 'u', a, b, c, d]

/-- The texts of all that is between the quotes of a string. -/
inductive Piece.Inside : List Piece → List Char → Prop
  | nil : Inside [] []
  | cons {p : Piece} {ps : List Piece} {s t : List Char} (first : p.Writes s)
      (rest : Inside ps t) : Inside (p :: ps) (s ++ t)

namespace Token

inductive Writes : Token → List Char → Prop
  | openArray : Writes .openArray ['[']
  | closeArray : Writes .closeArray [']']
  | openObject : Writes .openObject ['{']
  | closeObject : Writes .closeObject ['}']
  | comma : Writes .comma [',']
  | colon : Writes .colon [':']
  | null : Writes .null ['n', 'u', 'l', 'l']
  | yes : Writes (.bool true) ['t', 'r', 'u', 'e']
  | no : Writes (.bool false) ['f', 'a', 'l', 's', 'e']
  | number {n : Numeral} {s : List Char} (numeral : n.Writes s) : Writes (.number n) s
  | text {ps : List Piece} {s : List Char} (inside : Piece.Inside ps s) :
      Writes (.text ((assemble ps).map String.ofList)) ('"' :: (s ++ ['"']))

/-- The texts of a row of tokens, with blanks before, between and behind them. -/
inductive Layout : List Token → List Char → Prop
  | nil {gap : List Char} (blank : gap.all isSpace = true) : Layout [] gap
  | cons {t : Token} {ts : List Token} {gap s rest : List Char}
      (blank : gap.all isSpace = true) (first : t.Writes s) (others : Layout ts rest) :
      Layout (t :: ts) (gap ++ (s ++ rest))

end Token

/-- The texts of a value. -/
def Value.Writes (v : Value) (s : List Char) : Prop := Token.Layout v.tokens s

end PeeringAgent.Json
