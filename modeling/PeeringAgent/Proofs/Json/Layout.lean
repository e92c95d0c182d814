import PeeringAgent.Proofs.Json.Value
import PeeringAgent.Text.Blank

/-!
# White space in JSON text

A line feed at the end of a text changes nothing. Text of white space alone has no
value, and the compact text of a value has nothing but printable characters.
-/

set_option autoImplicit false

namespace PeeringAgent.Json

/-- What has been read, with a line feed behind the rest. -/
def onward {α : Type} (read : α × List Char) : α × List Char := (read.1, read.2 ++ ['\n'])

namespace Numeral

theorem digits_concat (s : List Char) : digits (s ++ ['\n']) = onward (digits s) := by
  induction s with
  | nil => rfl
  | cons c s ih =>
    simp only [digits, onward, Prod.mk.injEq] at ih ⊢
    rw [List.cons_append, List.takeWhile_cons, List.dropWhile_cons, List.takeWhile_cons,
      List.dropWhile_cons, ih.1, ih.2]
    split
    · exact ⟨rfl, rfl⟩
    · exact ⟨rfl, rfl⟩

theorem readWhole_concat (s : List Char) :
    readWhole (s ++ ['\n']) = (readWhole s).map onward := by
  rw [readWhole, readWhole, digits_concat]
  rcases digits s with ⟨_ | ⟨c, _ | ⟨d, ds⟩⟩, rest⟩
  · rfl
  · rfl
  · by_cases zero : c = '0' <;> simp [onward, zero]

theorem readFraction_concat (s : List Char) :
    readFraction (s ++ ['\n']) = (readFraction s).map onward := by
  cases s with
  | nil => rfl
  | cons c s =>
    by_cases point : c = '.'
    · subst c
      rw [List.cons_append, readFraction, readFraction, digits_concat]
      rcases digits s with ⟨_ | ⟨_, _⟩, _⟩
      · rfl
      · rfl
    · have other (t : List Char) : readFraction (c :: t) = some (none, c :: t) := by
        rw [readFraction]
        intro _ same
        exact point (List.cons.inj same).1
      rw [List.cons_append, other, other]
      rfl

theorem readExponentDigits_concat (negative : Bool) (s : List Char) :
    readExponentDigits negative (s ++ ['\n']) = (readExponentDigits negative s).map onward := by
  rw [readExponentDigits, readExponentDigits, digits_concat]
  rcases digits s with ⟨_ | ⟨_, _⟩, _⟩
  · rfl
  · rfl

theorem readExponent_concat (s : List Char) :
    readExponent (s ++ ['\n']) = (readExponent s).map onward := by
  cases s with
  | nil => rfl
  | cons c s =>
    by_cases mark : isMark c = true
    · cases s with
      | nil =>
        rw [readExponent_unsigned mark (by simp) (by simp)]
        exact (readExponent_unsigned mark (by simp) (by simp)).trans
          (readExponentDigits_concat false [])
      | cons d s =>
        by_cases minus : d = '-'
        · subst d
          rw [readExponent_minus mark]
          exact (readExponent_minus mark _).trans (readExponentDigits_concat true s)
        by_cases plus : d = '+'
        · subst d
          rw [readExponent_plus mark]
          exact (readExponent_plus mark _).trans (readExponentDigits_concat false s)
        rw [readExponent_unsigned mark (by simp [minus]) (by simp [plus])]
        exact (readExponent_unsigned mark (by simp [minus]) (by simp [plus])).trans
          (readExponentDigits_concat false (d :: s))
    · have none (t : List Char) : readExponent (c :: t) = some (none, c :: t) := by
        unfold readExponent
        exact if_neg mark
      rw [none]
      exact none _

theorem readUnsigned_concat (negative : Bool) (s : List Char) :
    readUnsigned negative (s ++ ['\n']) = (readUnsigned negative s).map onward := by
  simp only [readUnsigned, readWhole_concat]
  cases readWhole s with
  | none => rfl
  | some w =>
    simp only [onward, Option.map_some, Option.bind_eq_bind, Option.bind_some,
      readFraction_concat]
    cases readFraction w.2 with
    | none => rfl
    | some f =>
      simp only [onward, Option.map_some, Option.bind_some, readExponent_concat]
      cases readExponent f.2 with
      | none => rfl
      | some e => rfl

theorem read_concat (s : List Char) : read (s ++ ['\n']) = (read s).map onward := by
  cases s with
  | nil => rfl
  | cons c s =>
    by_cases minus : c = '-'
    · subst c
      exact readUnsigned_concat true s
    · have other (t : List Char) : read (c :: t) = readUnsigned false (c :: t) := by
        rw [read]
        intro _ same
        exact minus (List.cons.inj same).1
      rw [List.cons_append, other, other]
      exact readUnsigned_concat false (c :: s)

end Numeral

namespace Token

theorem map_prepend_onward (p : Piece) (read? : Option (List Piece × List Char)) :
    (read?.map onward).map (prepend p) = (read?.map (prepend p)).map onward := by
  cases read? <;> rfl

/-- An escape that is cut off before a line feed remains none. -/
theorem readPieces_cut {c : Char} {s : List Char} (long : shortEscape? c = none)
    (cut : ∀ a b d e t, c = 'u' → s ≠ a :: b :: d :: e :: t) :
    readPieces ('\\' :: c :: (s ++ ['\n'])) = none := by
  by_cases unit : c = 'u'
  · subst c
    rcases s with _ | ⟨a, _ | ⟨b, _ | ⟨d, _ | ⟨e, t⟩⟩⟩⟩
    · rfl
    · rfl
    · rfl
    · have none : hex4? a b d '\n' = none := by
        have feed : hexDigit? '\n' = none := rfl
        simp only [hex4?, feed]
        cases hexDigit? a <;> cases hexDigit? b <;> cases hexDigit? d <;> rfl
      show readPieces ('\\' :: 'u' :: a :: b :: d :: '\n' :: []) = _
      rw [readPieces, none]
      rfl
    · exact absurd rfl (cut a b d e t rfl)
  · rw [readPieces, long]
    · rfl
    · intro _ _ _ _ _ same
      exact absurd same unit

theorem readPieces_concat (s : List Char) :
    readPieces (s ++ ['\n']) = (readPieces s).map onward := by
  induction s using readPieces.induct with
  | case1 => rfl
  | case2 s => rfl
  | case3 a b c d s ih =>
    show readPieces ('\\' :: 'u' :: a :: b :: c :: d :: (s ++ ['\n'])) = _
    cases unit : hex4? a b c d with
    | some u => rw [readPieces_unit _ unit, readPieces_unit _ unit, ih, map_prepend_onward]
    | none =>
      have nothing (t : List Char) : readPieces ('\\' :: 'u' :: a :: b :: c :: d :: t) = none := by
        rw [readPieces, unit]
        rfl
      rw [nothing, nothing]
      rfl
  | case4 c s cut ih =>
    show readPieces ('\\' :: c :: (s ++ ['\n'])) = _
    cases short : shortEscape? c with
    | some e => rw [readPieces_short _ short, readPieces_short _ short, ih, map_prepend_onward]
    | none =>
      have nothing : readPieces ('\\' :: c :: s) = none := by
        rw [readPieces, short]
        · rfl
        · exact cut
      rw [nothing, readPieces_cut short fun a b d e t isUnit same => cut a b d e t isUnit same]
      rfl
  | case5 c s noQuote noUnit noEscape stop =>
    by_cases backslash : c = '\\'
    · subst c
      cases s with
      | nil => rfl
      | cons d s => exact absurd rfl (noEscape d s rfl)
    · have nothing (t : List Char) : readPieces (c :: t) = none := by
        rw [readPieces, if_pos stop]
        · exact noQuote
        · intro _ _ _ _ _ same
          exact absurd same backslash
        · intro _ _ same
          exact absurd same backslash
      rw [List.cons_append, nothing, nothing]
      rfl
  | case6 c s noQuote noUnit noEscape go ih =>
    simp only [Bool.or_eq_true, decide_eq_true_eq, beq_iff_eq, not_or] at go
    rw [List.cons_append, readPieces_plain _ noQuote go.2 (by omega),
      readPieces_plain _ noQuote go.2 (by omega), ih, map_prepend_onward]

theorem readText_concat (s : List Char) : readText (s ++ ['\n']) = (readText s).map onward := by
  rw [readText, readText, readPieces_concat]
  cases readPieces s <;> rfl

/-- What does not begin with a word does not begin with it before a line feed either. -/
theorem not_begins {s w : List Char} (unbroken : '\n' ∉ w) (other : ∀ t, s ≠ w ++ t)
    (t : List Char) : s ++ ['\n'] ≠ w ++ t := by
  intro same
  rcases List.append_eq_append_iff.mp same with ⟨more, begins, ends⟩ | ⟨more, begins, -⟩
  · cases more with
    | nil => exact other [] (by simpa using begins.symm)
    | cons c more =>
      rw [List.cons_append] at ends
      have feed : c = '\n' := (List.cons.inj ends).1.symm
      apply unbroken
      rw [begins, feed]
      simp
  · exact other more begins

theorem read_concat (s : List Char) : read (s ++ ['\n']) = (read s).map onward := by
  fun_cases read s
  case case10 s => exact readText_concat s
  case case11 array arrayEnd object objectEnd comma colon null yes no text =>
    rw [read, Numeral.read_concat]
    · cases Numeral.read s <;> rfl
    · exact not_begins (w := ['[']) (by decide) array
    · exact not_begins (w := [']']) (by decide) arrayEnd
    · exact not_begins (w := ['{']) (by decide) object
    · exact not_begins (w := ['}']) (by decide) objectEnd
    · exact not_begins (w := [',']) (by decide) comma
    · exact not_begins (w := [':']) (by decide) colon
    · exact not_begins (w := ['n', 'u', 'l', 'l']) (by decide) null
    · exact not_begins (w := ['t', 'r', 'u', 'e']) (by decide) yes
    · exact not_begins (w := ['f', 'a', 'l', 's', 'e']) (by decide) no
    · exact not_begins (w := ['"']) (by decide) text
  all_goals rfl

/-- The line feed takes one step more, at the end. -/
theorem readAllWithin_concat (n : Nat) (s : List Char) :
    readAllWithin (n + 1) (s ++ ['\n']) = readAllWithin n s := by
  have exhausted (t : List Char) : readAllWithin 0 (t ++ ['\n']) = none := by
    cases t <;> rfl
  induction n generalizing s with
  | zero =>
    cases s with
    | nil => rfl
    | cons c s =>
      have one := read_concat (c :: s)
      rw [List.cons_append] at one
      show readAllWithin (0 + 1) (c :: (s ++ ['\n'])) = none
      rw [readAllWithin, one]
      cases read (c :: s) with
      | none => simp [exhausted]
      | some x => simp [onward, exhausted]
  | succ n ih =>
    cases s with
    | nil => cases n <;> rfl
    | cons c s =>
      have one := read_concat (c :: s)
      rw [List.cons_append] at one
      rw [List.cons_append, readAllWithin, readAllWithin, ih, one]
      cases read (c :: s) with
      | none => rfl
      | some x =>
        simp only [Option.map_some, onward, ih]

theorem readAll_concat (s : List Char) : readAll (s ++ ['\n']) = readAll s := by
  rw [readAll, List.length_append]
  exact readAllWithin_concat s.length s

/-! ## Blank text -/

theorem read_of_blank {c : Char} (blank : Text.isBlank c = true) (s : List Char) :
    read (c :: s) = none := by
  have number : Numeral.read (c :: s) = none := by
    have noDigit : c.isDigit = false := by
      apply Bool.eq_false_iff.mpr
      intro digit
      obtain ⟨low, high⟩ := Numeral.bounds_of_isDigit digit
      simp only [Text.isBlank, Bool.or_eq_true, Bool.and_eq_true, decide_eq_true_eq,
        beq_iff_eq] at blank
      omega
    rw [Numeral.read]
    · simp [Numeral.readUnsigned, Numeral.readWhole, Numeral.digits, noDigit]
    · intro _ same
      rw [(List.cons.inj same).1] at blank
      cases blank
  rw [read, number]
  · rfl
  all_goals
    intro _ same
    rw [(List.cons.inj same).1] at blank
    cases blank

/-- Text of white space has no tokens, if it can be read at all. -/
theorem readAllWithin_blank {s : List Char} (blank : Text.allBlank s = true) (n : Nat)
    (ts : List Token) (h : readAllWithin n s = some ts) : ts = [] := by
  induction s generalizing n with
  | nil =>
    cases n <;> cases h <;> rfl
  | cons c s ih =>
    simp only [Text.allBlank, List.all_cons, Bool.and_eq_true] at blank
    cases n with
    | zero => cases h
    | succ n =>
      rw [readAllWithin, read_of_blank blank.1] at h
      split at h
      · exact ih blank.2 n h
      · cases h

/-! ## Printable text -/

theorem printable_digitChar {n : Nat} (h : n < 16) : 0x20 ≤ (Nat.digitChar n).toNat := by
  have all : ∀ n < 16, 0x20 ≤ (Nat.digitChar n).toNat := by decide
  exact all n h

theorem printable_of_all {cs : List Char} (all : cs.all (fun c => 0x20 ≤ c.toNat) = true)
    {c : Char} (h : c ∈ cs) : 0x20 ≤ c.toNat :=
  of_decide_eq_true (List.all_eq_true.mp all c h)

theorem printable_escapeChar {c d : Char} (h : d ∈ escapeChar c) : 0x20 ≤ d.toNat := by
  unfold escapeChar at h
  -- the short escapes come first
  iterate 7
    split at h
    · exact printable_of_all (by decide) h
  split at h
  case isTrue control =>
    have high := printable_digitChar (n := c.toNat / 16) (by omega)
    have low := printable_digitChar (n := c.toNat % 16) (by omega)
    rcases List.mem_append.mp (show d ∈ ['\\', 'u', '0', '0'] ++ _ from h) with h | h
    · exact printable_of_all (by decide) h
    · simp only [List.mem_cons, List.not_mem_nil, or_false] at h
      rcases h with rfl | rfl
      · exact high
      · exact low
  case isFalse visible =>
    rw [List.mem_singleton.mp h]
    omega

theorem printable_spell {t : Token} (legible : t.Legible) {c : Char} (h : c ∈ t.spell) :
    0x20 ≤ c.toNat := by
  cases t with
  | number n =>
    obtain ⟨k, rfl⟩ := legible
    rw [spell, Numeral.spell_ofNat] at h
    have digit := Numeral.bounds_of_isDigit (Numeral.isDigit_of_mem_toDigits h)
    omega
  | text s =>
    obtain ⟨s, rfl⟩ := Option.isSome_iff_exists.mp legible
    simp only [spell, quote, List.mem_cons, List.mem_append, List.not_mem_nil, or_false] at h
    rcases h with rfl | inside | rfl
    · decide
    · obtain ⟨d, -, hc⟩ := List.mem_flatMap.mp inside
      exact printable_escapeChar hc
    · decide
  | bool b => cases b <;> exact printable_of_all (by decide) h
  | openArray | closeArray | openObject | closeObject | comma | colon | null =>
    exact printable_of_all (by decide) h

end Token

namespace Value

theorem parse_concat (s : List Char) : parse? (s ++ ['\n']) = parse? s := by
  rw [parse?, Token.readAll_concat]
  rfl

theorem parse_blank {s : List Char} (blank : Text.allBlank s = true) : parse? s = none := by
  rw [parse?]
  cases h : Token.readAll s with
  | none => rfl
  | some ts =>
    rw [Token.readAllWithin_blank blank _ ts h]
    rfl

/-- Compact text stays on its line. -/
theorem newline_not_mem_render {v : Value} (legible : v.Legible) : '\n' ∉ v.render := by
  intro h
  obtain ⟨t, ht, hc⟩ := List.mem_flatMap.mp h
  have printable := Token.printable_spell (legible t ht) hc
  exact absurd printable (by decide)

end Value

end PeeringAgent.Json
