/-!
# Layered values

Settings come in layers of values. A later layer covers an earlier one; two
dictionaries are covered key by key and everything else as a whole.
-/

set_option autoImplicit false

namespace PeeringAgent.Settings

inductive Value
  | null
  | bool (value : Bool)
  | int (value : Int)
  | float (text : String)
  | text (value : String)
  | array (items : List Value)
  | dict (entries : List (String × Value))

namespace Value

/-- Entries with one key set. -/
def put (key : String) (v : Value) : List (String × Value) → List (String × Value)
  | [] => [(key, v)]
  | (k, w) :: rest => if k = key then (k, v) :: rest else (k, w) :: put key v rest

mutual

def cover : Value → Value → Value
  | dict base, dict top => dict (coverEntries base top)
  | _, v => v

def coverEntries : List (String × Value) → List (String × Value) → List (String × Value)
  | base, [] => base
  | base, (k, v) :: rest =>
    let v' :=
      match base.lookup k with
      | some w => cover w v
      | none => v
    coverEntries (put k v' base) rest

end

def get? (key : String) : Value → Option Value
  | dict entries => entries.lookup key
  | _ => none

theorem lookup_put_self (key : String) (v : Value) (es : List (String × Value)) :
    (put key v es).lookup key = some v := by
  induction es with
  | nil => simp [put]
  | cons e es ih =>
    obtain ⟨k, w⟩ := e
    unfold put
    split
    · rename_i h
      simp [h]
    · rename_i h
      have hb : (key == k) = false := by simpa using fun e => h e.symm
      simp [List.lookup_cons, hb, ih]

theorem lookup_put_of_ne (key other : String) (v : Value) (es : List (String × Value))
    (h : other ≠ key) : (put key v es).lookup other = es.lookup other := by
  have hb : (other == key) = false := by simpa using h
  induction es with
  | nil => simp [put, List.lookup_cons, hb]
  | cons e es ih =>
    obtain ⟨k, w⟩ := e
    unfold put
    split
    · rename_i hk
      simp [List.lookup_cons, hk, hb]
    · by_cases ho : other = k
      · simp [ho]
      · have hb' : (other == k) = false := by simpa using ho
        simp [List.lookup_cons, hb', ih]

end Value

end PeeringAgent.Settings
