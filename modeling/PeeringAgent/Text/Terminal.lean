/-!
# Text without terminal control

A report keeps to text: the control sequences that a terminal would obey are taken
out of it, and so are control characters other than white space. Sequences are
told apart by octets. White space inside a sequence is text again, with whatever
follows it on the same stretch.
-/

set_option autoImplicit false

namespace PeeringAgent.Text.Terminal

/-- Where an octet stands: in plain text, inside a character that goes on for some
octets, or inside a control sequence of one of the terminal's kinds. -/
inductive Mode
  | plain
  | character (more : Nat)
  | escape
  | escapeMiddle
  | controlStart
  | controlParameters
  | controlMiddle
  | controlIgnored
  | deviceStart
  | deviceParameters
  | deviceMiddle
  | deviceData
  | deviceIgnored
  | command
  | message
deriving DecidableEq

def isBlankControl (n : Nat) : Bool := n == 0x09 || n == 0x0a || n == 0x0c || n == 0x0d

def within (low high n : Nat) : Bool := low ≤ n && n ≤ high

/-- Plain text: what stands for itself, with the mode that it starts. -/
def plainChange (n : Nat) : Option Mode × Bool :=
  if within 0x20 0x7e n || isBlankControl n then (none, true)
  else if within 0xc2 0xdf n then (some (.character 1), true)
  else if within 0xe0 0xef n then (some (.character 2), true)
  else if within 0xf0 0xf4 n then (some (.character 3), true)
  else (none, false)

def escapeChange (n : Nat) : Option Mode :=
  if within 0x20 0x2f n then some .escapeMiddle
  else if n == 0x5b then some .controlStart
  else if n == 0x5d then some .command
  else if n == 0x50 then some .deviceStart
  else if n == 0x58 || n == 0x5e || n == 0x5f then some .message
  else if within 0x30 0x7e n then some .plain
  else none

/-- After an octet of a sequence with parameters: more of them, then what stands
between them and the octet that ends it. -/
def parameterChange (parameters middle ignored final : Mode) (first : Bool) (n : Nat) :
    Option Mode :=
  if within 0x20 0x2f n then some middle
  else if within 0x30 0x3b n then some parameters
  else if within 0x3c 0x3f n then some (if first then parameters else ignored)
  else if within 0x40 0x7e n then some final
  else none

def middleChange (ignored final : Mode) (n : Nat) : Option Mode :=
  if within 0x30 0x3f n then some ignored
  else if within 0x40 0x7e n then some final
  else none

/-- What an octet changes, and whether it is shown. -/
def change (mode : Mode) (octet : UInt8) : Option Mode × Bool :=
  let n := octet.toNat
  let blank := isBlankControl n
  if n == 0x18 || n == 0x1a then (some .plain, false)
  else if n == 0x1b then (some .escape, false)
  else
    match mode with
    | .plain | .character _ => plainChange n
    | .escape => (escapeChange n, blank)
    | .escapeMiddle => (if within 0x30 0x7e n then some .plain else none, blank)
    | .controlStart =>
      (parameterChange .controlParameters .controlMiddle .controlIgnored .plain true n, blank)
    | .controlParameters =>
      (parameterChange .controlParameters .controlMiddle .controlIgnored .plain false n, blank)
    | .controlMiddle => (middleChange .controlIgnored .plain n, blank)
    | .controlIgnored => (if within 0x40 0x7e n then some .plain else none, blank)
    | .deviceStart =>
      (parameterChange .deviceParameters .deviceMiddle .deviceIgnored .deviceData true n, false)
    | .deviceParameters =>
      (parameterChange .deviceParameters .deviceMiddle .deviceIgnored .deviceData false n, false)
    | .deviceMiddle => (middleChange .deviceIgnored .deviceData n, false)
    | .deviceData | .deviceIgnored | .message =>
      (if n == 0x9c then some .plain else none, false)
    | .command => (if n == 0x07 then some .plain else none, false)

/-- The octets of a text that are shown. A stretch that is being shown is read as
plain text; the octet that ends it is looked at again in the mode it leads to. -/
def visible : Mode → Bool → List UInt8 → List UInt8
  | _, _, [] => []
  | .character more, true, b :: bs =>
    b :: visible (if more ≤ 1 then .plain else .character (more - 1)) true bs
  | mode, true, b :: bs =>
    let (next, shown) := change .plain b
    let mode := next.getD mode
    if shown then b :: visible mode true bs
    else visible ((change mode b).1.getD mode) false bs
  | mode, false, b :: bs =>
    let (next, shown) := change mode b
    let mode := next.getD mode
    if shown then b :: visible ((change .plain b).1.getD mode) true bs
    else visible mode false bs

def strip (s : String) : String :=
  (String.fromUTF8? ⟨(visible .plain false s.toUTF8.data.toList).toArray⟩).getD s

end PeeringAgent.Text.Terminal
