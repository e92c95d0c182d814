import Mathlib.Data.List.Basic
import PeeringAgent.Transport.Framing

/-!
# Texts as bytes

A text is the only one with its bytes, and its bytes have a line feed only where it has
one. So a line can be read with its line feed or without.
-/

set_option autoImplicit false

namespace PeeringAgent.Frame

theorem ofText_eq (cs : List Char) : ofText cs = cs.flatMap String.utf8EncodeChar := by
  rw [ofText, String.toUTF8_eq_toByteArray, String.toByteArray_ofList, List.utf8Encode,
    List.data_toByteArray]

theorem ofText_append (cs ds : List Char) : ofText (cs ++ ds) = ofText cs ++ ofText ds := by
  simp only [ofText_eq, List.flatMap_append]

theorem ofText_newline : ofText ['\n'] = [lineFeed] := by
  rw [ofText_eq]
  rfl

theorem toText_ofText (cs : List Char) : toText? (ofText cs) = some cs := by
  have bytes : (⟨(ofText cs).toArray⟩ : ByteArray) = (String.ofList cs).toUTF8 := rfl
  rw [toText?, bytes, String.fromUTF8?, String.toUTF8_eq_toByteArray,
    dif_pos (String.ofList cs).isValidUTF8, Option.map_some]
  exact congrArg some String.toList_ofList

/-- Bytes with a text are the bytes of this text. -/
theorem eq_ofText_of_toText {bs : Bytes} {cs : List Char} (h : toText? bs = some cs) :
    bs = ofText cs := by
  obtain ⟨s, decoded, rfl⟩ := Option.map_eq_some_iff.mp h
  unfold String.fromUTF8? at decoded
  split at decoded
  case isFalse => cases decoded
  case isTrue valid =>
    cases decoded
    rw [ofText, String.ofList_toList]
    rfl

/-- A byte below 128 is a character of its own. -/
theorem toNat_of_mem_utf8EncodeChar {c : Char} {b : UInt8} (h : b ∈ String.utf8EncodeChar c)
    (ascii : b.toNat < 128) : c.toNat = b.toNat := by
  have byte {n : Nat} (same : b = UInt8.ofNat n) : b.toNat = n % 256 := by
    rw [same, UInt8.toNat_ofNat']
  unfold String.utf8EncodeChar at h
  simp only at h
  split at h
  · have value := byte (List.mem_singleton.mp h)
    show c.val.toNat = b.toNat
    omega
  · exfalso
    split at h
    · simp only [List.mem_cons, List.not_mem_nil, or_false] at h
      rcases h with h | h
      all_goals
        have value := byte h
        omega
    · split at h
      · simp only [List.mem_cons, List.not_mem_nil, or_false] at h
        rcases h with h | h | h
        all_goals
          have value := byte h
          omega
      · simp only [List.mem_cons, List.not_mem_nil, or_false] at h
        rcases h with h | h | h | h
        all_goals
          have value := byte h
          omega

theorem newline_of_lineFeed {c : Char} (h : lineFeed ∈ String.utf8EncodeChar c) : c = '\n' :=
  Char.toNat_inj.mp (toNat_of_mem_utf8EncodeChar h (by decide))

theorem lineFeed_mem_ofText {cs : List Char} (h : lineFeed ∈ ofText cs) : '\n' ∈ cs := by
  rw [ofText_eq] at h
  obtain ⟨c, hc, feed⟩ := List.mem_flatMap.mp h
  rw [← newline_of_lineFeed feed]
  exact hc

/-- A line feed at the end of some bytes is a line feed at the end of their text. -/
theorem toText_concat (bs : Bytes) :
    toText? (bs ++ [lineFeed]) = (toText? bs).map (· ++ ['\n']) := by
  cases text : toText? bs with
  | some cs =>
    rw [eq_ofText_of_toText text, ← ofText_newline, ← ofText_append, toText_ofText]
    rfl
  | none =>
    cases whole : toText? (bs ++ [lineFeed]) with
    | none => rfl
    | some ds =>
      exfalso
      have same := eq_ofText_of_toText whole
      rcases List.eq_nil_or_concat ds with rfl | ⟨cs, c, rfl⟩
      · have length := congrArg List.length same
        rw [List.length_append, ofText_eq] at length
        simp at length
      · rw [List.concat_eq_append, ofText_append] at same
        have last : lineFeed ∈ String.utf8EncodeChar c := by
          have ends := congrArg List.getLast? same
          rw [List.getLast?_concat, ofText_eq [c], List.flatMap_singleton] at ends
          rw [List.getLast?_append_of_ne_nil _ String.utf8EncodeChar_ne_nil] at ends
          exact List.mem_of_getLast? ends.symm
        rw [newline_of_lineFeed last, ofText_newline] at same
        rw [List.append_cancel_right same, toText_ofText] at text
        cases text

end PeeringAgent.Frame
