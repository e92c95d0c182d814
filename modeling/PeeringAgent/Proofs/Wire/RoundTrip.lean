import PeeringAgent.Proofs.Wire.Record

/-!
# Messages there and back

Whatever is written as JSON is read back as it was: all records, choices and tagged
messages, with any strings and numbers in them and any optional parts left out.
-/

set_option autoImplicit false

namespace PeeringAgent.Wire

open PeeringAgent.Json (Value)

variable {ms : List (Json.Text × Value)}

/-! ## Parts -/

theorem text_word (s : String) : text? (word s) = some s := rfl

theorem legible_word (s : String) : (word s).Legible := Value.legible_ofString s

theorem choice_word (reading : Reading) (s : String) : choice? reading (word s) = some s := rfl

theorem natural_ofNat (n : Nat) : natural? (.ofNat n) = some n := Json.Numeral.toNat_ofNat n

theorem word32_ofNat (x : UInt32) : word32? (.ofNat x.toNat) = some x := by
  have bound : x.toNat < UInt32.size := x.toNat_lt
  simp [word32?, natural_ofNat, bound]

theorem word64_ofNat (x : UInt64) : word64? (.ofNat x.toNat) = some x := by
  have bound : x.toNat < UInt64.size := x.toNat_lt
  simp [word64?, natural_ofNat, bound]

theorem optional_map {α : Type} {toJson : α → Value} {ofJson? : Value → Option α}
    (inverse : ∀ a, ofJson? (toJson a) = some a) (present : ∀ a, toJson a ≠ .null)
    (a? : Option α) : optional ofJson? (a?.map toJson) = some a? := by
  cases a? with
  | none => rfl
  | some a =>
    rw [Option.map_some, optional]
    · rw [inverse, Option.map_some]
    · intro null
      exact present a null

theorem LinkKind.ofWord_word (k : LinkKind) : LinkKind.ofWord? (LinkKind.word k) = some k := by
  cases k <;> rfl

theorem UpdateKind.ofWord_word (k : UpdateKind) :
    UpdateKind.ofWord? (UpdateKind.word k) = some k := by
  cases k <;> rfl

theorem ArbitrationStatus.ofWord_word (s : ArbitrationStatus) :
    ArbitrationStatus.ofWord? (ArbitrationStatus.word s) = some s := by
  cases s <;> rfl

/-! ## Records -/

namespace Credentials

def fields (c : Credentials) : List (String × Option Value) :=
  [("asn", some (word c.asn)), ("client", some (word c.client)), ("token", some (word c.token))]

theorem toJson_eq (c : Credentials) : c.toJson = .object (entries c.fields) := rfl

theorem legible (c : Credentials) : c.toJson.Legible := by
  rw [toJson_eq]
  apply legible_entries
  simp [fields, legible_word]

theorem ofJson_toJson (c : Credentials) : ofJson? c.toJson = some c := by
  rw [toJson_eq, ofJson?, fields_entries]
  · rfl
  · rfl
  · decide

end Credentials

namespace PortRange

def fields (r : PortRange) : List (String × Option Value) :=
  [("interfaceVlan", some (word r.interfaceVlan)), ("interfaceIp", some (word r.interfaceIp)),
   ("firstPort", some (.ofNat r.firstPort.toNat)), ("lastPort", some (.ofNat r.lastPort.toNat))]

theorem toJson_eq (r : PortRange) : r.toJson = .object (entries r.fields) := rfl

theorem legible (r : PortRange) : r.toJson.Legible := by
  rw [toJson_eq]
  apply legible_entries
  simp [fields, legible_word, Value.legible_ofNat]

theorem ofJson_toJson (r : PortRange) : ofJson? r.toJson = some r := by
  rw [toJson_eq, ofJson?, fields_entries]
  · simp [fields, required, text_word, word32_ofNat]
  · rfl
  · decide

end PortRange

namespace Endpoint

def fields (e : Endpoint) : List (String × Option Value) :=
  [("ip", some (word e.ip)), ("port", some (.ofNat e.port.toNat))]

theorem toJson_eq (e : Endpoint) : e.toJson = .object (entries e.fields) := rfl

theorem legible (e : Endpoint) : e.toJson.Legible := by
  rw [toJson_eq]
  apply legible_entries
  simp [fields, legible_word, Value.legible_ofNat]

theorem modest (e : Endpoint) : Modest e.toJson := by
  have small : e.port.toNat < UInt64.size := Nat.lt_trans e.port.toNat_lt (by decide)
  refine ⟨(by decide : 1 < nestingLimit), ?_⟩
  apply isProper_object
  simp [always, (modest_word e.ip).proper, (modest_ofNat small).proper]

/-- An endpoint whose port is given by some value. -/
def fieldsWith (ip : String) (port : Value) : List (String × Option Value) :=
  [("ip", some (word ip)), ("port", some port)]

theorem ofJson_fieldsWith {ip : String} {port : Value} (arranged : Arranged (fieldsWith ip port) ms)
    (named : Named ms) : ofJson? (.object ms) = (word32? port).map fun port => ⟨ip, port⟩ := by
  rw [ofJson?, fields_arranged arranged named]
  · simp only [fieldsWith, List.map_cons, List.map_nil, Option.bind_eq_bind, Option.bind_some,
      required, text_word, Option.pure_def]
    cases word32? port <;> rfl
  · rfl
  · decide

theorem ofJson_arranged {e : Endpoint} (arranged : Arranged e.fields ms) (named : Named ms) :
    ofJson? (.object ms) = some e := by
  rw [ofJson_fieldsWith (arranged : Arranged (fieldsWith e.ip _) ms) named, word32_ofNat]
  rfl

theorem ofJson_toJson (e : Endpoint) : ofJson? e.toJson = some e :=
  ofJson_arranged (arranged_entries e.fields) (named_entries e.fields)

end Endpoint

namespace LinkUpdate

/-- The fields of an update whose ends are given by some values. -/
def fieldsWith (updateKind : UpdateKind) (linkKind : LinkKind) (peerAsn : Option String)
    (near far : Option Value) : List (String × Option Value) :=
  [("type", some (word (UpdateKind.word updateKind))),
   ("linkType", some (word (LinkKind.word linkKind))), ("peerAsn", peerAsn.map word),
   ("local", near), ("remote", far)]

def fields (u : LinkUpdate) : List (String × Option Value) :=
  fieldsWith u.updateKind u.linkKind (some u.peerAsn) (u.local?.map Endpoint.toJson)
    (u.remote?.map Endpoint.toJson)

theorem members_eq (u : LinkUpdate) : u.members = entries u.fields := by
  obtain ⟨_, _, _, near, far⟩ := u
  cases near <;> cases far <;> rfl

theorem legible_fields (u : LinkUpdate) : ∀ f ∈ u.fields, ∀ v, f.2 = some v → v.Legible := by
  simp [fields, fieldsWith, legible_word, Endpoint.legible]

theorem legible (u : LinkUpdate) : u.toJson.Legible := by
  rw [toJson, members_eq]
  exact legible_entries u.legible_fields

theorem modest_fields (u : LinkUpdate) : ∀ f ∈ u.fields, ∀ v, f.2 = some v → Modest v := by
  simp [fields, fieldsWith, modest_word, Endpoint.modest]

theorem ofJson_arranged (reading : Reading) {updateKind : UpdateKind} {linkKind : LinkKind}
    {peerAsn : Option String} {near far : Option Value}
    (arranged : Arranged (fieldsWith updateKind linkKind peerAsn near far) ms) (named : Named ms) :
    ofJson? reading (.object ms) = (optional Endpoint.ofJson? near).bind fun near =>
      (optional Endpoint.ofJson? far).map fun far =>
        ⟨updateKind, linkKind, peerAsn.getD "", near, far⟩ := by
  have peer : defaulted "" text? (peerAsn.map word) = some (peerAsn.getD "") := by
    cases peerAsn <;> rfl
  rw [ofJson?, fields_arranged arranged named]
  · simp only [fieldsWith, List.map_cons, List.map_nil, Option.bind_eq_bind, Option.bind_some,
      required, choice_word, UpdateKind.ofWord_word, LinkKind.ofWord_word, peer, Option.pure_def]
    simp only [Option.map_eq_bind]
    rfl
  · rfl
  · decide

theorem ofJson_entries (reading : Reading) (u : LinkUpdate) :
    ofJson? reading (.object (entries u.fields)) = some u := by
  have ends := optional_map Endpoint.ofJson_toJson (fun _ h => by cases h)
  rw [ofJson_arranged reading (arranged_entries u.fields) (named_entries u.fields), ends, ends]
  rfl

theorem ofJson_toJson (u : LinkUpdate) : ofJson? .direct u.toJson = some u := by
  rw [toJson, members_eq]
  exact ofJson_entries .direct u

theorem legible_tagged (tag : String) (u : LinkUpdate) : (tagged tag u.members).Legible := by
  rw [members_eq]
  exact Wire.legible_tagged tag u.legible_fields

theorem split_tagged (tag : String) (u : LinkUpdate) :
    split? (tagged tag u.members) = some (tag, .object (entries u.fields)) := by
  rw [members_eq]
  apply Wire.split_tagged tag u.modest_fields
  exact (by decide : ["kind", "type", "linkType", "peerAsn", "local", "remote"].Nodup)

end LinkUpdate

namespace ArbitrationUpdate

def fields (u : ArbitrationUpdate) : List (String × Option Value) :=
  [("vlan", u.vlan.map word), ("electionId", some (.ofNat u.electionId.toNat)),
   ("status", some (word (ArbitrationStatus.word u.status)))]

theorem members_eq (u : ArbitrationUpdate) : u.members = entries u.fields := by
  obtain ⟨vlan, _, _⟩ := u
  cases vlan <;> rfl

theorem legible_fields (u : ArbitrationUpdate) :
    ∀ f ∈ u.fields, ∀ v, f.2 = some v → v.Legible := by
  simp [fields, legible_word, Value.legible_ofNat]

theorem legible (u : ArbitrationUpdate) : u.toJson.Legible := by
  rw [toJson, members_eq]
  exact legible_entries u.legible_fields

theorem modest_fields (u : ArbitrationUpdate) :
    ∀ f ∈ u.fields, ∀ v, f.2 = some v → Modest v := by
  have number : Modest (.ofNat u.electionId.toNat) := modest_ofNat u.electionId.toNat_lt
  simp [fields, modest_word, number]

theorem ofJson_arranged (reading : Reading) {u : ArbitrationUpdate}
    (arranged : Arranged u.fields ms) (named : Named ms) :
    ofJson? reading (.object ms) = some u := by
  have vlan := optional_map text_word (fun _ h => by cases h)
  rw [ofJson?, fields_arranged arranged named]
  · simp [fields, required, defaulted, choice_word, vlan, word64_ofNat,
      ArbitrationStatus.ofWord_word]
  · rfl
  · decide

theorem ofJson_entries (reading : Reading) (u : ArbitrationUpdate) :
    ofJson? reading (.object (entries u.fields)) = some u :=
  ofJson_arranged reading (arranged_entries u.fields) (named_entries u.fields)

theorem ofJson_toJson (u : ArbitrationUpdate) : ofJson? .direct u.toJson = some u := by
  rw [toJson, members_eq]
  exact ofJson_entries .direct u

theorem legible_tagged (tag : String) (u : ArbitrationUpdate) : (tagged tag u.members).Legible := by
  rw [members_eq]
  exact Wire.legible_tagged tag u.legible_fields

theorem split_tagged (tag : String) (u : ArbitrationUpdate) :
    split? (tagged tag u.members) = some (tag, .object (entries u.fields)) := by
  rw [members_eq]
  apply Wire.split_tagged tag u.modest_fields
  exact (by decide : ["kind", "vlan", "electionId", "status"].Nodup)

end ArbitrationUpdate

namespace ErrorNotice

def fields (n : ErrorNotice) : List (String × Option Value) := [("message", some (word n.message))]

theorem members_eq (n : ErrorNotice) : n.members = entries n.fields := rfl

theorem legible_fields (n : ErrorNotice) : ∀ f ∈ n.fields, ∀ v, f.2 = some v → v.Legible := by
  simp [fields, legible_word]

theorem legible (n : ErrorNotice) : n.toJson.Legible := legible_entries n.legible_fields

theorem modest_fields (n : ErrorNotice) : ∀ f ∈ n.fields, ∀ v, f.2 = some v → Modest v := by
  simp [fields, modest_word]

theorem ofJson_arranged {n : ErrorNotice} (arranged : Arranged n.fields ms) (named : Named ms) :
    ofJson? (.object ms) = some n := by
  rw [ofJson?, fields_arranged arranged named]
  · rfl
  · rfl
  · decide

theorem ofJson_entries (n : ErrorNotice) : ofJson? (.object (entries n.fields)) = some n :=
  ofJson_arranged (arranged_entries n.fields) (named_entries n.fields)

theorem ofJson_toJson (n : ErrorNotice) : ofJson? n.toJson = some n := ofJson_entries n

theorem legible_tagged (tag : String) (n : ErrorNotice) : (tagged tag n.members).Legible := by
  rw [members_eq]
  exact Wire.legible_tagged tag n.legible_fields

theorem split_tagged (tag : String) (n : ErrorNotice) :
    split? (tagged tag n.members) = some (tag, .object (entries n.fields)) := by
  rw [members_eq]
  apply Wire.split_tagged tag n.modest_fields
  exact (by decide : ["kind", "message"].Nodup)

end ErrorNotice

namespace PeerSelector

theorem legible (s : PeerSelector) : s.toJson.Legible := by
  have one (name text : String) : (Value.object (always name (word text))).Legible := by
    apply Value.legible_object
    simp [always, legible_word]
  cases s <;> exact one _ _

theorem ofJson_toJson (s : PeerSelector) : ofJson? s.toJson = some s := by
  cases s <;> rfl

end PeerSelector

namespace PolicyRecord

def fields (p : PolicyRecord) : List (String × Option Value) :=
  [("vlan", some (word p.vlan)), ("asn", some (word p.asn)), ("accept", some (.bool p.accept)),
   ("peer", p.peer.map PeerSelector.toJson)]

theorem toJson_eq (p : PolicyRecord) : p.toJson = .object (entries p.fields) := by
  obtain ⟨_, _, _, peer⟩ := p
  cases peer <;> rfl

theorem legible (p : PolicyRecord) : p.toJson.Legible := by
  rw [toJson_eq]
  apply legible_entries
  simp [fields, legible_word, Value.legible_bool, PeerSelector.legible]

theorem ofJson_toJson (p : PolicyRecord) : ofJson? p.toJson = some p := by
  have peer := optional_map PeerSelector.ofJson_toJson (fun s h => by cases s <;> cases h)
  rw [toJson_eq, ofJson?, fields_entries]
  · simp [fields, required, text_word, flag?, peer]
  · rfl
  · decide

end PolicyRecord

/-! ## Messages on the stream -/

namespace StreamRequest

theorem legible (m : StreamRequest) : m.toJson.Legible := by
  cases m with
  | arbitration u => exact u.legible_tagged _
  | linkUpdate u => exact u.legible_tagged _

theorem ofJson_toJson (m : StreamRequest) : ofJson? m.toJson = some m := by
  cases m with
  | arbitration u =>
    rw [toJson, ofJson?, u.split_tagged]
    simp only [u.ofJson_entries, Option.map_some]
  | linkUpdate u =>
    rw [toJson, ofJson?, u.split_tagged]
    simp only [u.ofJson_entries, Option.map_some]

end StreamRequest

namespace StreamResponse

theorem legible (m : StreamResponse) : m.toJson.Legible := by
  cases m with
  | arbitration u => exact u.legible_tagged _
  | linkUpdate u => exact u.legible_tagged _
  | error n => exact n.legible_tagged _

theorem ofJson_toJson (m : StreamResponse) : ofJson? m.toJson = some m := by
  cases m with
  | arbitration u =>
    rw [toJson, ofJson?, u.split_tagged]
    simp only [u.ofJson_entries, Option.map_some]
  | linkUpdate u =>
    rw [toJson, ofJson?, u.split_tagged]
    simp only [u.ofJson_entries, Option.map_some]
  | error n =>
    rw [toJson, ofJson?, n.split_tagged]
    simp only [n.ofJson_entries, Option.map_some]

end StreamResponse

/-! ## All types -/

/-- A type of messages comes back from the text that it is encoded in. -/
structure RoundTrips {α : Type} (toJson : α → Value) (ofJson? : Value → Option α) : Prop where
  decode_encode : ∀ a, decode? ofJson? (encode toJson a) = some a
  /-- A text that decodes, however it was written, is settled once it is encoded again. -/
  settled : ∀ s a, decode? ofJson? s = some a →
    decode? ofJson? (encode toJson a) = some a ∧
      (decode? ofJson? (encode toJson a)).map (encode toJson) = some (encode toJson a)

theorem decode_encode {α : Type} {toJson : α → Value} {ofJson? : Value → Option α} {a : α}
    (legible : (toJson a).Legible) (inverse : ofJson? (toJson a) = some a) :
    decode? ofJson? (encode toJson a) = some a := by
  rw [decode?, encode, Value.parse_render legible]
  exact inverse

theorem roundTrips_of_inverse {α : Type} {toJson : α → Value} {ofJson? : Value → Option α}
    (legible : ∀ a, (toJson a).Legible) (inverse : ∀ a, ofJson? (toJson a) = some a) :
    RoundTrips toJson ofJson? where
  decode_encode a := decode_encode (legible a) (inverse a)
  settled _ a _ := by
    rw [decode_encode (legible a) (inverse a)]
    exact ⟨rfl, rfl⟩

/-- Every message comes back from its compact text. -/
theorem roundTrips :
    RoundTrips StreamResponse.toJson StreamResponse.ofJson? ∧
    RoundTrips StreamRequest.toJson StreamRequest.ofJson? ∧
    RoundTrips LinkUpdate.toJson (LinkUpdate.ofJson? .direct) ∧
    RoundTrips ArbitrationUpdate.toJson (ArbitrationUpdate.ofJson? .direct) ∧
    RoundTrips ErrorNotice.toJson ErrorNotice.ofJson? ∧
    RoundTrips Endpoint.toJson Endpoint.ofJson? ∧
    RoundTrips PortRange.toJson PortRange.ofJson? ∧
    RoundTrips Credentials.toJson Credentials.ofJson? ∧
    RoundTrips PolicyRecord.toJson PolicyRecord.ofJson? ∧
    RoundTrips PeerSelector.toJson PeerSelector.ofJson? := by
  refine ⟨?_, ?_, ?_, ?_, ?_, ?_, ?_, ?_, ?_, ?_⟩
  · exact roundTrips_of_inverse StreamResponse.legible StreamResponse.ofJson_toJson
  · exact roundTrips_of_inverse StreamRequest.legible StreamRequest.ofJson_toJson
  · exact roundTrips_of_inverse LinkUpdate.legible LinkUpdate.ofJson_toJson
  · exact roundTrips_of_inverse ArbitrationUpdate.legible ArbitrationUpdate.ofJson_toJson
  · exact roundTrips_of_inverse ErrorNotice.legible ErrorNotice.ofJson_toJson
  · exact roundTrips_of_inverse Endpoint.legible Endpoint.ofJson_toJson
  · exact roundTrips_of_inverse PortRange.legible PortRange.ofJson_toJson
  · exact roundTrips_of_inverse Credentials.legible Credentials.ofJson_toJson
  · exact roundTrips_of_inverse PolicyRecord.legible PolicyRecord.ofJson_toJson
  · exact roundTrips_of_inverse PeerSelector.legible PeerSelector.ofJson_toJson

end PeeringAgent.Wire
