import PeeringAgent.Json.Grammar

/-!
# Written numbers

A number is read from any of its texts unless what follows goes on with it. A natural
number is written in its digits; one of 64 bits is within the doubles.
-/

set_option autoImplicit false

namespace PeeringAgent.Json.Numeral

/-- What follows digits is no further digit. -/
def Stops (rest : List Char) : Prop := ∀ c s, rest = c :: s → c.isDigit = false

/-- What follows a numeral does not go on with it. -/
def Ends (rest : List Char) : Prop :=
  ∀ c s, rest = c :: s → c.isDigit = false ∧ c ≠ '.' ∧ c ≠ 'e' ∧ c ≠ 'E'

variable {c : Char} {rest : List Char}

theorem Ends.stops (ends : Ends rest) : Stops rest := fun c s same => (ends c s same).1

theorem isDigit_of_mem_toDigits {n : Nat} (h : c ∈ Nat.toDigits 10 n) : c.isDigit = true :=
  Nat.isDigit_of_mem_toDigits (by decide) (by decide) h

theorem bounds_of_isDigit (h : c.isDigit = true) : 0x30 ≤ c.toNat ∧ c.toNat ≤ 0x39 := by
  simp only [Char.isDigit, Bool.and_eq_true, decide_eq_true_eq, UInt32.le_iff_toNat_le] at h
  exact h

theorem value_toDigits (n : Nat) : value (Nat.toDigits 10 n) = n :=
  Nat.ofDigitChars_ten_toDigits

/-- No number but zero begins with a zero. -/
theorem head_toDigits {n : Nat} (positive : 0 < n) {ds : List Char} :
    Nat.toDigits 10 n ≠ '0' :: ds := by
  induction n using Nat.strongRecOn generalizing ds with
  | ind n ih =>
    intro h
    by_cases small : n < 10
    · rw [Nat.toDigits_of_lt_base small] at h
      have zero := Nat.digitChar_eq_zero.mp (List.cons.inj h).1
      omega
    · rw [Nat.toDigits_of_base_le (by decide) (by omega)] at h
      cases front : Nat.toDigits 10 (n / 10) with
      | nil => exact Nat.toDigits_ne_nil front
      | cons d more =>
        rw [front, List.cons_append] at h
        rw [(List.cons.inj h).1] at front
        exact ih (n / 10) (by omega) (by omega) front

/-! ## Reading -/

theorem digits_append {ds : List Char} (all : ∀ c ∈ ds, c.isDigit = true) (stops : Stops rest) :
    digits (ds ++ rest) = (ds, rest) := by
  rw [digits, List.takeWhile_append_of_pos all, List.dropWhile_append_of_pos all]
  cases rest with
  | nil => simp
  | cons c s => simp [stops c s rfl]

theorem readWhole_append {ds : List Char} (whole : Whole ds) (stops : Stops rest) :
    readWhole (ds ++ rest) = some (ds, rest) := by
  rw [readWhole, digits_append whole.each stops]
  rcases ds with _ | ⟨c, _ | ⟨d, ds⟩⟩
  · exact absurd rfl whole.some
  · rfl
  · have nonzero : c ≠ '0' := by
      rintro rfl
      cases whole.zero rfl
    simp [nonzero]

theorem readFraction_append {fraction : Option (List Char)} {s : List Char}
    (text : FractionText fraction s) (stops : Stops rest) (noPoint : ∀ t, rest ≠ '.' :: t) :
    readFraction (s ++ rest) = some (fraction, rest) := by
  cases text with
  | none =>
    rw [List.nil_append, readFraction]
    exact noPoint
  | @some ds digits =>
    rw [List.cons_append, readFraction, digits_append digits.each stops]
    cases ds with
    | nil => exact absurd rfl digits.some
    | cons c ds => rfl

theorem readExponentDigits_append {ds : List Char} (negative : Bool) (digits : Digits ds)
    (stops : Stops rest) :
    readExponentDigits negative (ds ++ rest) = some (some (negative, ds), rest) := by
  rw [readExponentDigits, digits_append digits.each stops]
  cases ds with
  | nil => exact absurd rfl digits.some
  | cons c ds => rfl

theorem readExponent_minus (mark : isMark c = true) (s : List Char) :
    readExponent (c :: '-' :: s) = readExponentDigits true s := by
  rw [readExponent, ← isMark, if_pos mark]

theorem readExponent_plus (mark : isMark c = true) (s : List Char) :
    readExponent (c :: '+' :: s) = readExponentDigits false s := by
  rw [readExponent, ← isMark, if_pos mark]

theorem readExponent_unsigned {s : List Char} (mark : isMark c = true)
    (noMinus : ∀ t, s ≠ '-' :: t) (noPlus : ∀ t, s ≠ '+' :: t) :
    readExponent (c :: s) = readExponentDigits false s := by
  rw [readExponent, ← isMark, if_pos mark]
  · exact noMinus
  · exact noPlus

theorem readExponent_append {exponent : Option (Bool × List Char)} {s : List Char}
    (text : ExponentText exponent s) (ends : Ends rest) :
    readExponent (s ++ rest) = some (exponent, rest) := by
  cases text with
  | none =>
    cases rest with
    | nil => rfl
    | cons c s =>
      obtain ⟨-, -, lower, upper⟩ := ends c s rfl
      simp [readExponent, lower, upper]
  | minus mark digits =>
    rw [List.cons_append, List.cons_append, readExponent_minus mark]
    exact readExponentDigits_append true digits ends.stops
  | plus mark digits =>
    rw [List.cons_append, List.cons_append, readExponent_plus mark]
    exact readExponentDigits_append false digits ends.stops
  | @unsigned c ds mark digits =>
    rw [List.cons_append, readExponent_unsigned mark]
    · exact readExponentDigits_append false digits ends.stops
    all_goals
      intro t same
      obtain ⟨d, ds, rfl⟩ := List.exists_cons_of_ne_nil digits.some
      have digit := digits.each d (by simp)
      rw [(List.cons.inj same).1] at digit
      cases digit

/-- A fraction, and so an exponent, does not go on with the digits before it. -/
theorem stops_exponent {exponent : Option (Bool × List Char)} {s : List Char}
    (text : ExponentText exponent s) (ends : Ends rest) :
    Stops (s ++ rest) ∧ ∀ t, s ++ rest ≠ '.' :: t := by
  have apart {c : Char} (mark : isMark c = true) (s : List Char) :
      Stops (c :: s) ∧ ∀ t, c :: s ≠ '.' :: t := by
    simp only [isMark, Bool.or_eq_true, decide_eq_true_eq] at mark
    refine ⟨fun d t same => ?_, fun t same => ?_⟩
    · rw [← (List.cons.inj same).1]
      rcases mark with rfl | rfl <;> rfl
    · rw [(List.cons.inj same).1] at mark
      rcases mark with mark | mark <;> cases mark
  cases text with
  | none => exact ⟨ends.stops, fun t same => (ends '.' t same).2.1 rfl⟩
  | minus mark digits => exact apart mark _
  | plus mark digits => exact apart mark _
  | unsigned mark digits => exact apart mark _

theorem stops_fraction {fraction : Option (List Char)} {s : List Char}
    (text : FractionText fraction s) (stops : Stops rest) : Stops (s ++ rest) := by
  cases text with
  | none => exact stops
  | some digits =>
    intro c t same
    rw [← (List.cons.inj same).1]
    rfl

theorem readUnsigned_append {negative : Bool} {n : Numeral} {s : List Char}
    (text : UnsignedText negative n s) (ends : Ends rest) :
    readUnsigned negative (s ++ rest) = some (n, rest) := by
  obtain ⟨first, second, third⟩ := text
  obtain ⟨stops, noPoint⟩ := stops_exponent third ends
  rw [readUnsigned, List.append_assoc, readWhole_append first, List.append_assoc]
  · simp only [Option.bind_eq_bind, Option.bind_some, readFraction_append second stops noPoint,
      readExponent_append third ends, Option.pure_def]
  · rw [List.append_assoc]
    exact stops_fraction second stops

theorem exists_of_unsigned {negative : Bool} {n : Numeral} {s : List Char}
    (text : UnsignedText negative n s) : ∃ c t, s = c :: t ∧ c.isDigit = true := by
  obtain ⟨first, -, -⟩ := text
  obtain ⟨c, ds, rfl⟩ := List.exists_cons_of_ne_nil first.some
  exact ⟨c, _, rfl, first.each c (by simp)⟩

theorem exists_of_writes {n : Numeral} {s : List Char} (text : n.Writes s) :
    ∃ c t, s = c :: t ∧ (c = '-' ∨ c.isDigit = true) := by
  cases text with
  | negative text => exact ⟨_, _, rfl, .inl rfl⟩
  | positive text =>
    obtain ⟨c, t, rfl, digit⟩ := exists_of_unsigned text
    exact ⟨c, t, rfl, .inr digit⟩

/-- A number is read from any of its texts. -/
theorem read_append {n : Numeral} {s : List Char} (text : n.Writes s) (ends : Ends rest) :
    read (s ++ rest) = some (n, rest) := by
  cases text with
  | negative text => exact readUnsigned_append text ends
  | positive text =>
    obtain ⟨c, t, rfl, digit⟩ := exists_of_unsigned text
    rw [List.cons_append, read]
    · exact readUnsigned_append text ends
    · intro s same
      rw [(List.cons.inj same).1] at digit
      cases digit

/-! ## Natural numbers -/

theorem spell_ofNat (n : Nat) : (ofNat n).spell = Nat.toDigits 10 n := by
  simp [spell, ofNat]

theorem whole_toDigits (n : Nat) : Whole (Nat.toDigits 10 n) where
  some := Nat.toDigits_ne_nil
  each _ := isDigit_of_mem_toDigits
  zero head := by
    rcases Nat.eq_zero_or_pos n with rfl | positive
    · rfl
    · obtain ⟨ds, same⟩ := List.head?_eq_some_iff.mp head
      exact absurd same (head_toDigits positive)

theorem writes_toDigits (negative : Bool) (n : Nat) :
    UnsignedText negative ⟨negative, Nat.toDigits 10 n, none, none⟩ (Nat.toDigits 10 n) := by
  have text : UnsignedText negative _ _ := .mk (whole_toDigits n) .none .none
  rwa [List.append_nil, List.append_nil] at text

theorem writes_ofNat (n : Nat) : (ofNat n).Writes (ofNat n).spell := by
  rw [spell_ofNat]
  exact .positive (writes_toDigits false n)

theorem toNat_ofNat (n : Nat) : (ofNat n).toNat? = some n := by
  rw [ofNat, toNat?, value_toDigits]

/-! ## Size -/

theorem le_foldl_value (ds : List Char) (n : Nat) :
    n ≤ ds.foldl (fun n c => 10 * n + digit c) n := by
  induction ds generalizing n with
  | nil => exact Nat.le_refl n
  | cons c ds ih =>
    have first := ih (10 * n + digit c)
    rw [List.foldl_cons]
    omega

/-- Digits within 64 bits are all significant. -/
theorem scaleWhole_of_lt (ds : List Char) (n : Nat)
    (small : ds.foldl (fun n c => 10 * n + digit c) n < UInt64.size) :
    scaleWhole ds n = ⟨ds.foldl (fun n c => 10 * n + digit c) n, 0⟩ := by
  induction ds generalizing n with
  | nil => rfl
  | cons c ds ih =>
    rw [List.foldl_cons] at small ⊢
    have first := le_foldl_value ds (10 * n + digit c)
    have fit : fits n c = true := decide_eq_true (by omega)
    rw [scaleWhole, fit, if_pos rfl]
    exact ih _ small

theorem roundTo53_le (n : Nat) : roundTo53 n ≤ 2 * n := by
  unfold roundTo53
  by_cases short : n.log2 + 1 ≤ 53
  · simp only [short, if_true]
    omega
  · simp only [short, if_false]
    have nonzero : n ≠ 0 := by
      rintro rfl
      exact short (by decide)
    have unit : Nat.pow 2 (n.log2 + 1 - 53) ≤ n :=
      Nat.le_trans (Nat.pow_le_pow_right (by decide) (by omega)) (Nat.log2_self_le nonzero)
    generalize Nat.pow 2 (n.log2 + 1 - 53) = u at unit
    have whole : n / u * u ≤ n := Nat.div_mul_le_self n u
    split
    · rw [Nat.add_mul]
      omega
    · omega

/-- Every natural number of 64 bits is within the doubles. -/
theorem exceedsDouble_ofNat {n : Nat} (small : n < UInt64.size) :
    (ofNat n).exceedsDouble = false := by
  have exact : (ofNat n).scaled = ⟨n, 0⟩ := by
    have value : (Nat.toDigits 10 n).foldl (fun n c => 10 * n + digit c) 0 = n := value_toDigits n
    have whole := scaleWhole_of_lt (Nat.toDigits 10 n) 0 (by rwa [value])
    rw [value] at whole
    simp [scaled, ofNat, scaleFraction, whole]
  have near : roundTo53 n * roundTo53 (Nat.pow 10 0) < doubleLimit := by
    have one : roundTo53 (Nat.pow 10 0) = 1 := by decide
    have bound := roundTo53_le n
    have limit : 2 * UInt64.size ≤ doubleLimit := by decide +kernel
    rw [one]
    omega
  have calm : (ofNat n).hugeExponent = false := rfl
  simp only [exceedsDouble, exact, calm]
  simpa using fun _ => near

end PeeringAgent.Json.Numeral
