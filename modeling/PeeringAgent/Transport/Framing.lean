import PeeringAgent.Text.Blank
import PeeringAgent.Transport.Error
import PeeringAgent.Wire.Decoding

/-!
# Frames

A frame is one JSON text on a line of its own. Lines of white space between
frames are skipped, and the last line may lack its line feed. A line that is not
UTF-8 or not the expected message is an error, and reading goes on behind it.
-/

set_option autoImplicit false

namespace PeeringAgent.Frame

abbrev Bytes := List UInt8

def lineFeed : UInt8 := 10

def ofText (cs : List Char) : Bytes := (String.ofList cs).toUTF8.data.toList

/-- A message and the line feed that ends its line. -/
def encode (v : Json.Value) : Bytes := ofText v.render ++ [lineFeed]

def toText? (bytes : Bytes) : Option (List Char) :=
  (String.fromUTF8? ⟨bytes.toArray⟩).map String.toList

/-- The first line with its line feed, and what is behind it. -/
def splitLine : Bytes → Bytes × Bytes
  | [] => ([], [])
  | b :: bs =>
    if b = lineFeed then ([b], bs)
    else
      let (line, rest) := splitLine bs
      (b :: line, rest)

theorem splitLine_append (bs : Bytes) : (splitLine bs).1 ++ (splitLine bs).2 = bs := by
  induction bs with
  | nil => rfl
  | cons b bs ih =>
    unfold splitLine
    split
    · rfl
    · simp [ih]

/-- What a reader finds next. -/
inductive Next (α : Type)
  | message (value : α)
  | failure (error : TransportError)
  | finished

def notUtf8 : TransportError := .io "stream did not contain valid UTF-8"

/-- The error for a line that is no message of the expected kind. -/
def malformed : TransportError := .codec "unexpected content"

def nextWithin {α : Type} (ofJson? : Json.Value → Option α) :
    Nat → Bytes → Next α × Bytes
  | 0, bs => (.finished, bs)
  | _, [] => (.finished, [])
  | n + 1, b :: bs =>
    let (line, rest) := splitLine (b :: bs)
    match toText? line with
    | none => (.failure notUtf8, rest)
    | some text =>
      if Text.allBlank text then nextWithin ofJson? n rest
      else
        match Wire.decode? ofJson? text with
        | some a => (.message a, rest)
        | none => (.failure malformed, rest)

/-- The next frame of a stream and the bytes behind it. -/
def next {α : Type} (ofJson? : Json.Value → Option α) (bs : Bytes) : Next α × Bytes :=
  nextWithin ofJson? bs.length bs

/-- All lines of a stream, each with its line feed. -/
def linesWithin : Nat → Bytes → List Bytes
  | 0, _ => []
  | _, [] => []
  | n + 1, b :: bs =>
    let (line, rest) := splitLine (b :: bs)
    line :: linesWithin n rest

def lines (bs : Bytes) : List Bytes := linesWithin bs.length bs

end PeeringAgent.Frame
