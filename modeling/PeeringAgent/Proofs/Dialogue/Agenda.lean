import PeeringAgent.Proofs.Dialogue.Change

/-!
# What is left to do

The errands of connecting and of a release in their order, the calls that go with them,
and how far a list of errands has come.
-/

set_option autoImplicit false

namespace PeeringAgent

theorem later_of_registers {errand : Errand} (registers : errand.registers = true) :
    errand ≠ .dial ∧ errand ≠ .openStream := by
  constructor <;>
  · rintro rfl
    cases registers

namespace SessionConfig

variable (c : SessionConfig)

/-- The calls of connecting. -/
def opening : List Call := [c.dialCall, .openStream, bidCall] ++ c.interfaces.map .setPortRange

/-- Everything a session calls, with this many pushes. -/
def service (pushes : Nat) : List Call := c.opening ++ List.replicate pushes c.pushCall

/-- Everything a release calls, with the pushes of a dispatcher that has not stopped yet. -/
def farewell (between behind : Nat) : List Call :=
  .closeSend :: (List.replicate between c.pushCall ++
    .close :: List.replicate behind c.pushCall)

/-- What is left to do once the stream is open. -/
def registration : List Errand := .bid :: c.interfaces.map .portRange ++ [.startDispatcher]

theorem errands_eq : c.errands = .dial :: .openStream :: c.registration := rfl

theorem filterMap_ranges (ranges : List Wire.PortRange) :
    (ranges.map Errand.portRange).filterMap (·.call? c) = ranges.map Call.setPortRange := by
  induction ranges with
  | nil => rfl
  | cons range ranges ih =>
    rw [List.map_cons, List.filterMap_cons, ih]
    rfl

variable {c}

/-- The start of the dispatcher comes last. -/
theorem registration_last {before rest : List Errand}
    (h : c.registration = before ++ .startDispatcher :: rest) : rest = [] := by
  rcases List.eq_nil_or_concat rest with rfl | ⟨more, last, rfl⟩
  · rfl
  have member : .startDispatcher ∈ Errand.bid :: c.interfaces.map .portRange := by
    rw [registration, List.concat_eq_append, ← List.cons_append, ← List.append_assoc] at h
    rw [List.append_inj_left' h rfl]
    simp
  simp at member

theorem registers_of_registration {before rest : List Errand} {errand : Errand}
    (h : c.registration = before ++ errand :: rest) : errand.registers = true := by
  have among : errand ∈ c.registration := by simp [h]
  simp only [registration, List.mem_append, List.mem_cons, List.mem_map, List.not_mem_nil,
    or_false] at among
  rcases among with (rfl | ⟨range, -, rfl⟩) | rfl <;> rfl

theorem registration_next {before rest : List Errand} {errand : Errand}
    (h : c.registration = before ++ errand :: rest) : errand ≠ .dial ∧ errand ≠ .openStream :=
  later_of_registers (registers_of_registration h)

theorem registration_end {before : List Errand} {errand : Errand}
    (h : c.registration = before ++ [errand]) : errand = .startDispatcher := by
  have same := (List.append_inj' h rfl).2
  rw [List.cons.injEq] at same
  exact same.1.symm

/-- What has been called and what is still to be called make up the opening. -/
theorem opening_eq {before rest : List Errand} (h : c.registration = before ++ rest) :
    c.opening = [c.dialCall, .openStream] ++ before.filterMap (·.call? c) ++
      rest.filterMap (·.call? c) := by
  rw [List.append_assoc, ← List.filterMap_append, ← h, registration, List.filterMap_append,
    List.filterMap_cons, filterMap_ranges]
  exact (List.append_nil _).symm

end SessionConfig

/-- A release has nothing more to call. -/
def Parting (g : List Errand) : Prop := g <:+ [.dismiss, .retire]

theorem Parting.next {g rest : List Errand} {errand : Errand} (h : Parting g)
    (next : g = errand :: rest) :
    (errand = .dismiss ∧ rest = [.retire] ∨ errand = .retire ∧ rest = []) ∧ Parting rest := by
  subst next
  simp only [Parting, List.suffix_cons_iff, List.suffix_nil, List.cons.injEq, reduceCtorEq,
    or_false] at h
  rcases h with ⟨rfl, rfl⟩ | ⟨rfl, rfl⟩
  · exact ⟨.inl ⟨rfl, rfl⟩, [.dismiss], rfl⟩
  · exact ⟨.inr ⟨rfl, rfl⟩, [.dismiss, .retire], rfl⟩

theorem parting_nil : Parting [] := List.nil_suffix

/-- An errand that connects or calls is not left to a session that parts. -/
theorem Parting.absurd_next {g rest : List Errand} {errand : Errand} (h : Parting g)
    (next : g = errand :: rest) (dismiss : errand ≠ .dismiss) (retire : errand ≠ .retire) :
    False := by
  rcases (h.next next).1 with ⟨same, -⟩ | ⟨same, -⟩
  · exact dismiss same
  · exact retire same

theorem Session.departure_of_connected {s : Session} (h : s.connected = true) :
    s.departure = [.closeSend, .close, .dismiss, .retire] := by
  simp [Session.departure, h]

theorem Session.departure_of_unconnected {s : Session} (h : s.connected = false) :
    s.departure = [.dismiss, .retire] := by
  simp [Session.departure, h]

theorem parting_of_unconnected {s : Session} (h : s.connected = false) :
    Parting s.departure := by
  rw [s.departure_of_unconnected h]
  exact List.suffix_rfl

end PeeringAgent
