import Mathlib.Data.String.Basic
import PeeringAgent.Proofs.Transport.Bytes

/-!
# Texts by their bytes

The bytes of a character are its number in base 64 behind a mark for their count, so a
greater character has greater bytes. Texts are in the same order by their bytes and by
their characters.
-/

set_option autoImplicit false

namespace PeeringAgent.Text

def bytes (s : String) : List UInt8 := s.toUTF8.data.toList

theorem bytes_eq (s : String) : bytes s = s.toList.flatMap String.utf8EncodeChar := by
  rw [← Frame.ofText_eq, Frame.ofText, String.ofList_toList]
  rfl

/-! ## Characters -/

/-- A number in base 64 with a mark on its first digit and one on all others. -/
def digits (mark : Nat) : Nat → Nat → List UInt8
  | 0, n => [.ofNat (n + mark)]
  | k + 1, n => digits mark k (n / 64) ++ [.ofNat (n % 64 + 128)]

/-- How many digits a character has behind the first one. -/
def width (n : Nat) : Nat :=
  if n ≤ 0x7f then 0 else if n ≤ 0x7ff then 1 else if n ≤ 0xffff then 2 else 3

def mark : Nat → Nat
  | 0 => 0
  | 1 => 0xc0
  | 2 => 0xe0
  | _ => 0xf0

theorem toNat_lt (c : Char) : c.toNat < 0x110000 := by
  rcases c.valid with low | ⟨-, high⟩
  · exact Nat.lt_trans low (by decide)
  · exact high

theorem utf8EncodeChar_eq (c : Char) : String.utf8EncodeChar c =
    digits (mark (width c.toNat)) (width c.toNat) c.toNat := by
  have top : c.val.toNat < 0x110000 := toNat_lt c
  show String.utf8EncodeChar c =
    digits (mark (width c.val.toNat)) (width c.val.toNat) c.val.toNat
  unfold String.utf8EncodeChar width
  dsimp only
  generalize c.val.toNat = n at top
  -- Below the limits of its width a character has no more digits than are written.
  split_ifs
  case pos => rfl
  case pos =>
    have first : n / 64 % 32 = n / 64 := by omega
    rw [first]
    rfl
  case pos =>
    have first : n / 4096 % 16 = n / 64 / 64 := by omega
    rw [first]
    rfl
  case neg =>
    have first : n / 262144 % 8 = n / 64 / 64 / 64 := by omega
    have second : n / 4096 = n / 64 / 64 := by omega
    rw [first, second]
    rfl

theorem cons_ofNat_lt {n m : Nat} (less : n < m) (small : m < 256) (bs ds : List UInt8) :
    UInt8.ofNat n :: bs < UInt8.ofNat m :: ds := by
  refine List.cons_lt_cons_iff.mpr (.inl ?_)
  rw [UInt8.lt_iff_toNat_lt, UInt8.toNat_ofNat', UInt8.toNat_ofNat']
  omega

/-- Of two numbers with as many digits the smaller one comes first, whatever follows. -/
theorem digits_append_lt {mark k n m : Nat} (less : n < m) (small : m / 64 ^ k + mark < 256)
    (bs ds : List UInt8) : digits mark k n ++ bs < digits mark k m ++ ds := by
  induction k generalizing n m bs ds with
  | zero => exact cons_ofNat_lt (by omega) (by simpa using small) _ _
  | succ k ih =>
    rw [digits, digits, List.append_assoc, List.append_assoc]
    have above : n / 64 < m / 64 ∨ n / 64 = m / 64 ∧ n % 64 < m % 64 := by omega
    rcases above with above | ⟨same, last⟩
    · refine ih above ?_ _ _
      rwa [Nat.div_div_eq_div_mul, ← Nat.pow_succ']
    · rw [same]
      exact List.append_left_lt (cons_ofNat_lt (by omega) (by omega) _ _)

theorem digits_eq_cons (mark k n : Nat) :
    ∃ bs, digits mark k n = .ofNat (n / 64 ^ k + mark) :: bs := by
  induction k generalizing n with
  | zero => exact ⟨[], by simp [digits]⟩
  | succ k ih =>
    obtain ⟨bs, first⟩ := ih (n / 64)
    refine ⟨bs ++ [.ofNat (n % 64 + 128)], ?_⟩
    rw [digits, first, Nat.div_div_eq_div_mul, ← Nat.pow_succ', List.cons_append]

theorem first_small {n : Nat} (valid : n < 0x110000) :
    n / 64 ^ width n + mark (width n) < 256 := by
  unfold width
  split_ifs <;> simp [mark] <;> omega

/-- More digits make a greater first byte. -/
theorem first_lt {n m : Nat} (less : n < m) (wider : width n ≠ width m) :
    n / 64 ^ width n + mark (width n) < m / 64 ^ width m + mark (width m) := by
  unfold width at *
  split_ifs at * <;> simp [mark] <;> omega

theorem utf8EncodeChar_append_lt {c d : Char} (h : c < d) (bs ds : List UInt8) :
    String.utf8EncodeChar c ++ bs < String.utf8EncodeChar d ++ ds := by
  have less : c.toNat < d.toNat := h
  have small := first_small (toNat_lt d)
  rw [utf8EncodeChar_eq, utf8EncodeChar_eq]
  by_cases same : width c.toNat = width d.toNat
  · rw [same]
    exact digits_append_lt less small _ _
  · obtain ⟨cs, lower⟩ := digits_eq_cons (mark (width c.toNat)) (width c.toNat) c.toNat
    obtain ⟨es, upper⟩ := digits_eq_cons (mark (width d.toNat)) (width d.toNat) d.toNat
    rw [lower, upper]
    exact cons_ofNat_lt (first_lt less same) small _ _

/-! ## Texts -/

theorem flatMap_utf8EncodeChar_lt {cs ds : List Char} (h : cs < ds) :
    cs.flatMap String.utf8EncodeChar < ds.flatMap String.utf8EncodeChar := by
  induction ds generalizing cs with
  | nil => exact absurd h (List.not_lt_nil _)
  | cons d ds ih =>
    rw [List.flatMap_cons]
    cases cs with
    | nil =>
      obtain ⟨bs, first⟩ := digits_eq_cons (mark (width d.toNat)) (width d.toNat) d.toNat
      rw [utf8EncodeChar_eq, first]
      exact List.nil_lt_cons _ _
    | cons c cs =>
      rw [List.flatMap_cons]
      rcases List.cons_lt_cons_iff.mp h with less | ⟨rfl, less⟩
      · exact utf8EncodeChar_append_lt less _ _
      · exact List.append_left_lt (ih less)

theorem bytes_lt_of_lt {s t : String} (h : s < t) : bytes s < bytes t := by
  rw [bytes_eq, bytes_eq]
  exact flatMap_utf8EncodeChar_lt (String.lt_iff_toList_lt.mp h)

/-- Texts are in order by their bytes exactly if they are by their characters. -/
theorem bytes_lt_iff {s t : String} : bytes s < bytes t ↔ s < t := by
  constructor
  · intro less
    rcases lt_trichotomy s t with before | rfl | after
    · exact before
    · exact absurd less (List.lt_irrefl _)
    · exact absurd less (List.lt_asymm (bytes_lt_of_lt after))
  · exact bytes_lt_of_lt

end PeeringAgent.Text
