import PeeringAgent.Yaml.Token

/-!
# Anchors, aliases, tags and directives

Names are runs of word characters. A tag is written in full between angle
brackets or as a handle with a suffix; percent escapes in it spell UTF-8.
-/

set_option autoImplicit false

namespace PeeringAgent.Yaml

/-- What may follow the name of an anchor or an alias. -/
def endsName : List Char → Bool
  | [] => true
  | c :: _ => isBlank c || isBreak c || "?:,]\x7d%@`".toList.contains c

/-- The name behind the mark of an anchor or an alias. -/
def readName (c : Cursor) : Option (String × Cursor) :=
  let (name, c) := (c.skip 1).span isWord
  if name.isEmpty || !endsName c.rest then none else some (String.ofList name, c)

def isUriChar (inBrackets : Bool) (c : Char) : Bool :=
  isWord c || ";/?:@&=+$.%!~*'()".toList.contains c ||
  (inBrackets && ",[]".toList.contains c)

def hexValue? (c : Char) : Option Nat :=
  if c.isDigit then some (c.toNat - '0'.toNat)
  else if 'a' ≤ c && c ≤ 'f' then some (c.toNat - 'a'.toNat + 10)
  else if 'A' ≤ c && c ≤ 'F' then some (c.toNat - 'A'.toNat + 10)
  else none

def escapedOctet? : List Char → Option (Nat × List Char)
  | '%' :: a :: b :: rest => do
    let a ← hexValue? a
    let b ← hexValue? b
    return (16 * a + b, rest)
  | _ => none

/-- The octets that continue a character, six bits each. -/
def continuation? : Nat → Nat → List Char → Option (Nat × List Char)
  | 0, n, s => some (n, s)
  | k + 1, n, s => do
    let (octet, rest) ← escapedOctet? s
    if octet / 64 == 2 then continuation? k (64 * n + octet % 64) rest else none

/-- One character written as percent escapes, and how many escapes it took. -/
def escapedChar? (s : List Char) : Option (Char × Nat × List Char) := do
  let (octet, rest) ← escapedOctet? s
  let (more, lead) ←
    if octet < 0x80 then some (0, octet)
    else if octet / 32 == 6 then some (1, octet % 32)
    else if octet / 16 == 14 then some (2, octet % 16)
    else if octet / 8 == 30 then some (3, octet % 8)
    else none
  let (n, rest) ← continuation? more lead rest
  return (Char.ofNat n, more + 1, rest)

/-- The characters of a tag, with escapes resolved. -/
def readUriWithin (inBrackets : Bool) : Nat → Cursor → Option (List Char × Cursor)
  | 0, c => some ([], c)
  | n + 1, c =>
    match c.rest with
    | '%' :: _ => do
      let (ch, count, _) ← escapedChar? c.rest
      let (more, c) ← readUriWithin inBrackets n (c.skip (3 * count))
      return (ch :: more, c)
    | ch :: _ =>
      if isUriChar inBrackets ch then do
        let (more, c) ← readUriWithin inBrackets n (c.skip 1)
        return (ch :: more, c)
      else some ([], c)
    | [] => some ([], c)

def readUri (inBrackets : Bool) (c : Cursor) : Option (List Char × Cursor) :=
  readUriWithin inBrackets c.rest.length c

/-- A handle: an exclamation mark, a name, and a second mark if there is one. -/
def readHandle (c : Cursor) : Option (List Char × Cursor) :=
  match c.rest with
  | '!' :: _ =>
    let (name, c) := (c.skip 1).span isWord
    if startsWith '!' c.rest then some ('!' :: name ++ ['!'], c.skip 1)
    else some ('!' :: name, c)
  | _ => none

def readVerbatimTag (c : Cursor) : Option (Token × Cursor) := do
  let (uri, c) ← readUri true (c.skip 2)
  if uri.isEmpty || !startsWith '>' c.rest then none
  else some (.tag "" (String.ofList uri), c.skip 1)

def isClosedHandle (handle : List Char) : Bool :=
  handle.length > 1 && handle.getLast? == some '!'

def readShortTag (c : Cursor) : Option (Token × Cursor) := do
  let (handle, c) ← readHandle c
  let (uri, c) ← readUri false c
  if isClosedHandle handle then
    if uri.isEmpty then none
    else some (.tag (String.ofList handle) (String.ofList uri), c)
  else
    match handle.drop 1 ++ uri with
    | [] => some (.tag "" "!", c)
    | suffix => some (.tag "!" (String.ofList suffix), c)

def readTag (flow : Bool) (c : Cursor) : Option (Token × Cursor) := do
  let (t, c) ← if startsWith '<' (c.rest.drop 1) then readVerbatimTag c else readShortTag c
  if startsGap c.rest || (flow && startsWith ',' c.rest) then some (t, c) else none

/-- A version number has at most nine digits. -/
def readVersionNumber (c : Cursor) : Option (Nat × Cursor) :=
  let (ds, c) := c.span Char.isDigit
  if ds.isEmpty || ds.length > 9 then none
  else some (ds.foldl (fun n d => 10 * n + (d.toNat - '0'.toNat)) 0, c)

def readVersionDirective (c : Cursor) : Option (Token × Cursor) := do
  let (major, c) ← readVersionNumber (c.skipWhile isBlank)
  if startsWith '.' c.rest then
    let (minor, c) ← readVersionNumber (c.skip 1)
    return (.versionDirective major minor, c)
  else none

def readTagDirective (c : Cursor) : Option (Token × Cursor) := do
  let (handle, c) ← readHandle (c.skipWhile isBlank)
  if handle != ['!'] && !isClosedHandle handle then none
  else if !startsBlank c.rest then none
  else
    let (lead, c) ← readUri true (c.skipWhile isBlank)
    if lead.isEmpty || !startsGap c.rest then none
    else some (.tagDirective (String.ofList handle) (String.ofList lead), c)

def skipComment (c : Cursor) : Cursor :=
  if startsWith '#' c.rest then c.skipWhile fun d => !isBreak d else c

/-- A directive takes its line; only a comment may follow it. -/
def readDirective (c : Cursor) : Option (Token × Cursor) := do
  let (name, c) := (c.skip 1).span isWord
  if name.isEmpty || !startsGap c.rest then none
  else
    let (t, c) ←
      if name == "YAML".toList then readVersionDirective c
      else if name == "TAG".toList then readTagDirective c
      else none
    let c := skipComment (c.skipWhile isBlank)
    if startsLineEnd c.rest then some (t, c.skipBreak) else none

end PeeringAgent.Yaml
