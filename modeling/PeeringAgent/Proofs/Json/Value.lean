import PeeringAgent.Json.Value
import PeeringAgent.Proofs.Json.Token

/-!
# Reading written values

The tokens of a value take a reader from where a value must come to where it has come,
whatever is open around it. So a value is read from any of its texts; one whose strings
have a text and whose numbers are natural, from its compact text.
-/

set_option autoImplicit false

namespace PeeringAgent.Json.Value

open Token (Apart)

/-! ## From tokens to values -/

mutual

theorem run_tokens (v : Value) (outer : List Frame) (closable : Bool) (rest : List Token) :
    (Reading.value outer closable).run (v.tokens ++ rest) = (Reading.after outer v).run rest := by
  match v with
  | .null => rfl
  | .bool _ => rfl
  | .number _ => rfl
  | .text _ => rfl
  | .array [] => rfl
  | .array (v :: vs) => exact run_itemTokens v vs [] outer true rest
  | .object [] => rfl
  | .object (m :: ms) => exact run_memberTokens m ms [] outer true rest
termination_by sizeOf v

theorem run_itemTokens (v : Value) (vs read : List Value) (outer : List Frame) (closable : Bool)
    (rest : List Token) :
    (Reading.value (.items read :: outer) closable).run (itemTokens (v :: vs) ++ rest) =
      (Reading.after outer (.array (read.reverse ++ v :: vs))).run rest := by
  match vs with
  | [] =>
    rw [itemTokens, List.append_assoc, run_tokens]
    simp [Reading.run, Reading.step]
  | w :: vs =>
    rw [itemTokens, List.append_assoc, run_tokens, List.cons_append, Reading.run]
    simp only [Reading.step]
    rw [run_itemTokens w vs (v :: read) outer false rest, List.reverse_cons, List.append_assoc]
    rfl
termination_by sizeOf (v :: vs)

theorem run_memberTokens (m : Text × Value) (ms read : List (Text × Value)) (outer : List Frame)
    (closable : Bool) (rest : List Token) :
    (Reading.name outer read closable).run (memberTokens (m :: ms) ++ rest) =
      (Reading.after outer (.object (read.reverse ++ m :: ms))).run rest := by
  match m, ms with
  | (s, v), [] =>
    rw [memberTokens, List.cons_append, List.cons_append, List.append_assoc]
    simp only [Reading.run, Reading.step]
    rw [run_tokens]
    simp [Reading.run, Reading.step]
  | (s, v), m :: ms =>
    rw [memberTokens, List.cons_append, List.cons_append, List.append_assoc]
    simp only [Reading.run, Reading.step]
    rw [run_tokens, List.cons_append, Reading.run]
    simp only [Reading.step]
    rw [run_memberTokens m ms ((s, v) :: read) outer false rest, List.reverse_cons,
      List.append_assoc]
    rfl
termination_by sizeOf (m :: ms)

end

theorem ofTokens_tokens (v : Value) : ofTokens? v.tokens = some v := by
  have run := run_tokens v [] false []
  rw [List.append_nil] at run
  rw [ofTokens?, Reading.start, run]
  rfl

/-! ## From text to tokens -/

theorem apart_append {ts us : List Token} {u : Token} (separator : ∀ t, Apart t u)
    (first : ts.IsChain Apart) (second : (u :: us).IsChain Apart) :
    (ts ++ u :: us).IsChain Apart := by
  refine List.isChain_append.mpr ⟨first, second, ?_⟩
  intro t _ w hw
  cases hw
  exact separator t

theorem apart_cons {t : Token} {ts : List Token} (separator : ∀ u, Apart t u)
    (chain : ts.IsChain Apart) : (t :: ts).IsChain Apart :=
  List.isChain_cons.mpr ⟨fun u _ => separator u, chain⟩

theorem apart_comma (t : Token) : Apart t .comma := by cases t <;> trivial

theorem apart_closeArray (t : Token) : Apart t .closeArray := by cases t <;> trivial

theorem apart_closeObject (t : Token) : Apart t .closeObject := by cases t <;> trivial

mutual

/-- Numbers never stand next to each other. -/
theorem apart_tokens (v : Value) : v.tokens.IsChain Apart := by
  match v with
  | .null => exact .singleton _
  | .bool _ => exact .singleton _
  | .number _ => exact .singleton _
  | .text _ => exact .singleton _
  | .array vs => exact apart_cons (fun _ => trivial) (apart_itemTokens vs)
  | .object ms => exact apart_cons (fun _ => trivial) (apart_memberTokens ms)
termination_by sizeOf v

theorem apart_itemTokens (vs : List Value) : (itemTokens vs).IsChain Apart := by
  match vs with
  | [] => exact .singleton _
  | [v] => exact apart_append apart_closeArray (apart_tokens v) (.singleton _)
  | v :: w :: vs =>
    exact apart_append apart_comma (apart_tokens v)
      (apart_cons (fun _ => trivial) (apart_itemTokens (w :: vs)))
termination_by sizeOf vs

theorem apart_memberTokens (ms : List (Text × Value)) : (memberTokens ms).IsChain Apart := by
  match ms with
  | [] => exact .singleton _
  | [(s, v)] =>
    exact apart_cons (fun _ => trivial) (apart_cons (fun _ => trivial)
      (apart_append apart_closeObject (apart_tokens v) (.singleton _)))
  | (s, v) :: m :: ms =>
    exact apart_cons (fun _ => trivial) (apart_cons (fun _ => trivial)
      (apart_append apart_comma (apart_tokens v)
        (apart_cons (fun _ => trivial) (apart_memberTokens (m :: ms)))))
termination_by sizeOf ms

end

/-- A value whose compact text tells all of it. -/
def Legible (v : Value) : Prop := ∀ t ∈ v.tokens, t.Legible

/-- A value is read from any of its texts. -/
theorem parse_of_writes {v : Value} {s : List Char} (text : v.Writes s) : parse? s = some v := by
  rw [parse?, Token.readAll_layout text (apart_tokens v)]
  exact ofTokens_tokens v

theorem writes_render {v : Value} (legible : v.Legible) : v.Writes v.render :=
  Token.layout_flatMap fun t ht => Token.writes_spell (legible t ht)

theorem parse_render {v : Value} (legible : v.Legible) : parse? v.render = some v :=
  parse_of_writes (writes_render legible)

theorem legible_ofString (s : String) : (ofString s).Legible := by
  intro t ht
  cases List.mem_singleton.mp ht
  rfl

theorem legible_ofNat (n : Nat) : (ofNat n).Legible := by
  intro t ht
  cases List.mem_singleton.mp ht
  exact ⟨n, rfl⟩

theorem legible_bool (b : Bool) : (Value.bool b).Legible := by
  intro t ht
  cases List.mem_singleton.mp ht
  trivial

theorem legible_array {vs : List Value} (h : ∀ v ∈ vs, v.Legible) : (Value.array vs).Legible := by
  have items : ∀ t ∈ itemTokens vs, t.Legible := by
    induction vs with
    | nil => simp [itemTokens, Token.Legible]
    | cons v vs ih =>
      have first := h v (by simp)
      have rest := ih fun v hv => h v (by simp [hv])
      intro t ht
      cases vs with
      | nil =>
        simp only [itemTokens, List.mem_append, List.mem_singleton] at ht
        rcases ht with ht | rfl
        · exact first t ht
        · trivial
      | cons w vs =>
        simp only [itemTokens, List.mem_append, List.mem_cons] at ht
        rcases ht with ht | rfl | ht
        · exact first t ht
        · trivial
        · exact rest t ht
  intro t ht
  rcases List.mem_cons.mp ht with rfl | ht
  · trivial
  · exact items t ht

theorem legible_object {ms : List (Text × Value)}
    (h : ∀ m ∈ ms, m.1.isSome = true ∧ m.2.Legible) : (Value.object ms).Legible := by
  have members : ∀ t ∈ memberTokens ms, t.Legible := by
    induction ms with
    | nil => simp [memberTokens, Token.Legible]
    | cons m ms ih =>
      obtain ⟨s, v⟩ := m
      obtain ⟨named, first⟩ := h (s, v) (by simp)
      have rest := ih fun m hm => h m (by simp [hm])
      intro t ht
      cases ms with
      | nil =>
        simp only [memberTokens, List.mem_cons, List.mem_append, List.not_mem_nil, or_false] at ht
        rcases ht with rfl | rfl | ht | rfl
        · exact named
        · trivial
        · exact first t ht
        · trivial
      | cons m ms =>
        simp only [memberTokens, List.mem_cons, List.mem_append] at ht
        rcases ht with rfl | rfl | ht | rfl | ht
        · exact named
        · trivial
        · exact first t ht
        · trivial
        · exact rest t ht
  intro t ht
  rcases List.mem_cons.mp ht with rfl | ht
  · trivial
  · exact members t ht

end PeeringAgent.Json.Value
