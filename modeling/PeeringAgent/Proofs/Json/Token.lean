import Mathlib.Data.List.Chain
import PeeringAgent.Proofs.Json.Numeral

/-!
# Reading written tokens

A token is read from any of its texts, whatever follows that does not go on with it, and
so is every row of tokens without two numbers next to each other.
-/

set_option autoImplicit false

namespace PeeringAgent.Json

namespace Token

open Numeral (Ends)

/-- How a character of a string is escaped. -/
def pieceOf (c : Char) : Piece :=
  if c.toNat < 0x20 ∧ c ∉ ['\n', '\r', '\t', '\x08', '\x0c'] then .unit c.toNat else .char c

/-- A piece in front of what has been read. -/
def prepend (p : Piece) (read : List Piece × List Char) : List Piece × List Char :=
  (p :: read.1, read.2)

theorem hexDigit_digitChar {n : Nat} (h : n < 16) : hexDigit? (Nat.digitChar n) = some n := by
  have all : ∀ n < 16, hexDigit? (Nat.digitChar n) = some n := by decide
  exact all n h

theorem readPieces_short {c e : Char} (s : List Char) (short : shortEscape? c = some e) :
    readPieces ('\\' :: c :: s) = (readPieces s).map (prepend (.char e)) := by
  rw [readPieces]
  · rw [short]
    cases readPieces s <;> rfl
  · intro _ _ _ _ _ same
    rw [same] at short
    cases short

theorem readPieces_unit {a b c d : Char} {u : Nat} (s : List Char) (unit : hex4? a b c d = some u) :
    readPieces ('\\' :: 'u' :: a :: b :: c :: d :: s) =
      (readPieces s).map (prepend (.unit u)) := by
  rw [readPieces, unit]
  cases readPieces s <;> rfl

theorem readPieces_plain {c : Char} (s : List Char) (noQuote : c ≠ '"') (noEscape : c ≠ '\\')
    (printable : 0x20 ≤ c.toNat) :
    readPieces (c :: s) = (readPieces s).map (prepend (.char c)) := by
  rw [readPieces]
  · rw [if_neg (by simp [noEscape, printable])]
    cases readPieces s <;> rfl
  · exact noQuote
  · intro _ _ _ _ _ same
    exact absurd same noEscape
  · intro _ _ same
    exact absurd same noEscape

theorem readPieces_append {p : Piece} {s : List Char} (text : p.Writes s) (rest : List Char) :
    readPieces (s ++ rest) = (readPieces rest).map (prepend p) := by
  cases text with
  | plain noQuote noEscape printable => exact readPieces_plain rest noQuote noEscape printable
  | short short => exact readPieces_short rest short
  | unit unit => exact readPieces_unit rest unit

/-- A string is read up to the quote that ends it. -/
theorem readPieces_inside {ps : List Piece} {s : List Char} (inside : Piece.Inside ps s)
    (rest : List Char) : readPieces (s ++ '"' :: rest) = some (ps, rest) := by
  induction inside with
  | nil => rfl
  | cons first others ih =>
    rw [List.append_assoc, readPieces_append first, ih]
    rfl

theorem readText_inside {ps : List Piece} {s : List Char} (inside : Piece.Inside ps s)
    (rest : List Char) :
    readText (s ++ '"' :: rest) = some (.text ((assemble ps).map String.ofList), rest) := by
  simp [readText, readPieces_inside inside]

theorem writes_escapeChar (c : Char) : (pieceOf c).Writes (escapeChar c) := by
  by_cases quote : c = '"'
  · subst c
    exact .short rfl
  by_cases backslash : c = '\\'
  · subst c
    exact .short rfl
  by_cases named : c ∈ ['\n', '\r', '\t', '\x08', '\x0c']
  · simp only [List.mem_cons, List.not_mem_nil, or_false] at named
    rcases named with rfl | rfl | rfl | rfl | rfl <;> exact .short rfl
  have others := named
  simp only [List.mem_cons, List.not_mem_nil, or_false, not_or] at others
  by_cases control : c.toNat < 0x20
  · have high := hexDigit_digitChar (n := c.toNat / 16) (by omega)
    have low := hexDigit_digitChar (n := c.toNat % 16) (by omega)
    have unit : hex4? '0' '0' (Nat.digitChar (c.toNat / 16)) (Nat.digitChar (c.toNat % 16)) =
        some c.toNat := by
      have zero : hexDigit? '0' = some 0 := rfl
      simp only [hex4?, zero, high, low, Option.bind_eq_bind, Option.bind_some, Option.pure_def]
      congr 1
      omega
    have escaped : escapeChar c =
        ['\\', 'u', '0', '0', Nat.digitChar (c.toNat / 16), Nat.digitChar (c.toNat % 16)] := by
      simp [escapeChar, quote, backslash, others, control]
    rw [escaped, pieceOf, if_pos ⟨control, named⟩]
    exact .unit unit
  · have plain : escapeChar c = [c] := by
      simp [escapeChar, quote, backslash, others, control]
    rw [plain, pieceOf, if_neg (fun h => control h.1)]
    exact .plain quote backslash (by omega)

theorem inside_flatMap (cs : List Char) :
    Piece.Inside (cs.map pieceOf) (cs.flatMap escapeChar) := by
  induction cs with
  | nil => exact .nil
  | cons c cs ih => exact .cons (writes_escapeChar c) ih

theorem assemble_unit {u : Nat} (ps : List Piece) (low : u < 0xd800) :
    assemble (.unit u :: ps) = (assemble ps).map (Char.ofNat u :: ·) := by
  have high : isHighSurrogate u = false := by
    simp only [isHighSurrogate, Bool.and_eq_false_iff, decide_eq_false_iff_not]
    omega
  have second : isLowSurrogate u = false := by
    simp only [isLowSurrogate, Bool.and_eq_false_iff, decide_eq_false_iff_not]
    omega
  cases ps with
  | nil => simp [assemble, high, second]
  | cons p ps => cases p <;> simp [assemble, high, second]

theorem assemble_pieces (cs : List Char) : assemble (cs.map pieceOf) = some cs := by
  induction cs with
  | nil => rfl
  | cons c cs ih =>
    rw [List.map_cons, pieceOf]
    split
    case isTrue control =>
      rw [assemble_unit _ (by omega), ih, Char.ofNat_toNat]
      rfl
    case isFalse => rw [assemble, ih, Option.map_some]

/-! ## One token -/

/-- What follows a token does not go on with it. -/
def Closes (rest : List Char) : Token → Prop
  | .number _ => Ends rest
  | _ => True

theorem read_number {c : Char} (s : List Char) (first : c = '-' ∨ c.isDigit = true) :
    read (c :: s) = (Numeral.read (c :: s)).map fun (n, rest) => (.number n, rest) := by
  rw [read]
  all_goals
    intro rest same
    rw [(List.cons.inj same).1] at first
    rcases first with first | first <;> cases first

/-- The first character of a token is not a blank, and only a number goes on with another. -/
theorem exists_of_writes {t : Token} {s : List Char} (text : t.Writes s) :
    ∃ c u, s = c :: u ∧ isSpace c = false ∧
      ((∃ n, t = .number n) ∨ ∀ rest, Ends (c :: rest)) := by
  have punctuation {c : Char} (h : c.isDigit = false ∧ c ≠ '.' ∧ c ≠ 'e' ∧ c ≠ 'E')
      (rest : List Char) : Ends (c :: rest) := by
    intro d s same
    rwa [← (List.cons.inj same).1]
  cases text with
  | @number n s numeral =>
    obtain ⟨c, u, rfl, first⟩ := Numeral.exists_of_writes numeral
    refine ⟨c, u, rfl, ?_, .inl ⟨n, rfl⟩⟩
    apply Bool.eq_false_iff.mpr
    intro blank
    simp only [isSpace, Bool.or_eq_true, beq_iff_eq] at blank
    rcases blank with ((rfl | rfl) | rfl) | rfl <;> rcases first with first | first <;> cases first
  | openArray | closeArray | openObject | closeObject | comma | colon | null | yes | no | text =>
    exact ⟨_, _, rfl, rfl, .inr (punctuation (by decide))⟩

/-- A token is read from any of its texts. -/
theorem read_append {t : Token} {s rest : List Char} (text : t.Writes s)
    (closes : t.Closes rest) : read (s ++ rest) = some (t, rest) := by
  cases text with
  | @number n s numeral =>
    have number := Numeral.read_append numeral closes
    obtain ⟨c, u, rfl, first⟩ := Numeral.exists_of_writes numeral
    rw [List.cons_append] at number ⊢
    rw [read_number _ first, number]
    rfl
  | @text ps s inside =>
    rw [List.cons_append, List.append_assoc]
    exact readText_inside inside rest
  | openArray | closeArray | openObject | closeObject | comma | colon | null | yes | no => rfl

/-! ## Rows of tokens -/

/-- Two tokens that do not run into each other without a blank. -/
def Apart : Token → Token → Prop
  | .number _, .number _ => False
  | _, _ => True

theorem ends_blank {gap rest : List Char} {c : Char} (blank : (c :: gap).all isSpace = true) :
    Ends (c :: rest) := by
  intro d s same
  rw [← (List.cons.inj same).1]
  simp only [List.all_cons, isSpace, Bool.and_eq_true, Bool.or_eq_true, beq_iff_eq] at blank
  rcases blank.1 with ((rfl | rfl) | rfl) | rfl <;> decide

theorem Layout.closes {t : Token} {ts : List Token} {rest : List Char} (text : Layout ts rest)
    (apart : (t :: ts).IsChain Apart) : t.Closes rest := by
  cases t with
  | openArray | closeArray | openObject | closeObject | comma | colon | null | bool | text =>
    trivial
  | number n =>
    cases text with
    | nil blank =>
      cases rest with
      | nil => exact fun _ _ same => absurd same (by simp)
      | cons c gap => exact ends_blank blank
    | @cons u us gap s rest blank first others =>
      cases gap with
      | cons c gap => exact ends_blank blank
      | nil =>
        obtain ⟨c, v, rfl, -, follows⟩ := exists_of_writes first
        rcases follows with ⟨m, rfl⟩ | ends
        · exact absurd apart.rel id
        · exact ends _

theorem readAllWithin_gap {gap : List Char} (blank : gap.all isSpace = true) (n : Nat)
    (s : List Char) : readAllWithin (gap.length + n) (gap ++ s) = readAllWithin n s := by
  induction gap with
  | nil => rw [List.length_nil, Nat.zero_add, List.nil_append]
  | cons c gap ih =>
    simp only [List.all_cons, Bool.and_eq_true] at blank
    rw [List.length_cons, Nat.add_right_comm, List.cons_append, readAllWithin, if_pos blank.1]
    exact ih blank.2

theorem readAllWithin_layout {ts : List Token} {s : List Char} (text : Layout ts s)
    (apart : ts.IsChain Apart) (n : Nat) (enough : s.length ≤ n) :
    readAllWithin n s = some ts := by
  induction text generalizing n with
  | @nil gap blank =>
    obtain ⟨m, rfl⟩ := Nat.exists_eq_add_of_le enough
    have read := readAllWithin_gap blank m []
    rw [List.append_nil] at read
    rw [read]
    cases m <;> rfl
  | @cons t ts gap s rest blank first others ih =>
    have one := read_append first (others.closes apart)
    obtain ⟨c, u, rfl, visible, -⟩ := exists_of_writes first
    simp only [List.length_append, List.length_cons] at enough
    obtain ⟨m, rfl⟩ := Nat.exists_eq_add_of_le (Nat.le_trans (Nat.le_add_right _ _) enough)
    rw [readAllWithin_gap blank]
    cases m with
    | zero => omega
    | succ m =>
      rw [List.cons_append] at one ⊢
      rw [readAllWithin, visible, one]
      simp only [Bool.false_eq_true, if_false]
      rw [ih apart.tail m (by omega), Option.map_some]

/-- A row of tokens is read from any of its texts. -/
theorem readAll_layout {ts : List Token} {s : List Char} (text : Layout ts s)
    (apart : ts.IsChain Apart) : readAll s = some ts :=
  readAllWithin_layout text apart s.length (Nat.le_refl _)

/-! ## Compact text -/

/-- What a written token may be, for its spelling to be a text of it. -/
def Legible : Token → Prop
  | .number n => ∃ k, n = .ofNat k
  | .text s => s.isSome = true
  | _ => True

theorem writes_spell {t : Token} (legible : t.Legible) : t.Writes t.spell := by
  cases t with
  | number n =>
    obtain ⟨k, rfl⟩ := legible
    exact .number (Numeral.writes_ofNat k)
  | text s =>
    obtain ⟨s, rfl⟩ := Option.isSome_iff_exists.mp legible
    have text := Writes.text (inside_flatMap s.toList)
    rwa [assemble_pieces, Option.map_some, String.ofList_toList] at text
  | bool b => cases b with
    | true => exact .yes
    | false => exact .no
  | openArray => exact .openArray
  | closeArray => exact .closeArray
  | openObject => exact .openObject
  | closeObject => exact .closeObject
  | comma => exact .comma
  | colon => exact .colon
  | null => exact .null

theorem writes_lone : (Token.text none).Writes (Token.text none).spell :=
  .text (.cons (p := .unit 0xd800) (.unit rfl) .nil)

theorem layout_flatMap {ts : List Token} (writes : ∀ t ∈ ts, t.Writes t.spell) :
    Layout ts (ts.flatMap spell) := by
  induction ts with
  | nil => exact .nil rfl
  | cons t ts ih =>
    have others := ih fun u hu => writes u (by simp [hu])
    have blank : [].all isSpace = true := rfl
    exact .cons blank (writes t (by simp)) others

end Token

end PeeringAgent.Json
