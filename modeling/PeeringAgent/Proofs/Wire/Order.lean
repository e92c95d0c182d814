import PeeringAgent.Proofs.Wire.RoundTrip

/-!
# Messages in any order

The coordinator's messages are read from their members in any order, among members of
other names and in any layout. A second member for the tag or for a field that is there
is refused.
-/

set_option autoImplicit false

namespace PeeringAgent.Json

/-- A number within the doubles, or a string with a text. -/
def Token.Proper : Token → Prop
  | .number n => n.exceedsDouble = false
  | .text s => s.isSome = true
  | _ => True

namespace Value

mutual

theorem isProper_of_tokens (v : Value) (h : ∀ t ∈ v.tokens, t.Proper) : v.isProper = true := by
  match v with
  | .null => rfl
  | .bool _ => rfl
  | .number n =>
    have fits : n.exceedsDouble = false := h (.number n) (by simp [tokens])
    rw [isProper, fits]
    rfl
  | .text s => exact h (.text s) (by simp [tokens])
  | .array vs => exact allProper_of_tokens vs fun t ht => h t (by simp [tokens, ht])
  | .object ms => exact membersProper_of_tokens ms fun t ht => h t (by simp [tokens, ht])
termination_by sizeOf v

theorem allProper_of_tokens (vs : List Value) (h : ∀ t ∈ itemTokens vs, t.Proper) :
    allProper vs = true := by
  match vs with
  | [] => rfl
  | [v] =>
    have first := isProper_of_tokens v fun t ht => h t (by simp [itemTokens, ht])
    rw [allProper, first]
    rfl
  | v :: w :: vs =>
    have first := isProper_of_tokens v fun t ht => h t (by simp [itemTokens, ht])
    have rest := allProper_of_tokens (w :: vs) fun t ht => h t (by simp [itemTokens, ht])
    rw [allProper, first, rest]
    rfl
termination_by sizeOf vs

theorem membersProper_of_tokens (ms : List (Text × Value))
    (h : ∀ t ∈ memberTokens ms, t.Proper) : membersProper ms = true := by
  match ms with
  | [] => rfl
  | [(s, v)] =>
    have named : s.isSome = true := h (.text s) (by simp [memberTokens])
    have first := isProper_of_tokens v fun t ht => h t (by simp [memberTokens, ht])
    rw [membersProper, named, first]
    rfl
  | (s, v) :: m :: ms =>
    have named : s.isSome = true := h (.text s) (by simp [memberTokens])
    have first := isProper_of_tokens v fun t ht => h t (by simp [memberTokens, ht])
    have rest := membersProper_of_tokens (m :: ms) fun t ht => h t (by simp [memberTokens, ht])
    rw [membersProper, named, first, rest]
    rfl
termination_by sizeOf ms

end

/-- The members of a proper object have a name and are proper. -/
theorem proper_of_mem {ms : List (Text × Value)} (proper : (object ms).isProper = true)
    {m : Text × Value} (h : m ∈ ms) : m.1.isSome = true ∧ m.2.isProper = true := by
  induction ms with
  | nil => cases h
  | cons head ms ih =>
    obtain ⟨s, v⟩ := head
    simp only [isProper, membersProper, Bool.and_eq_true] at proper ih
    rcases List.mem_cons.mp h with rfl | h
    · exact proper.1
    · exact ih proper.2 h

end Value

end PeeringAgent.Json

namespace PeeringAgent.Wire

open PeeringAgent.Json (Value Token)

variable {fs : List (String × Option Value)} {ms : List (Json.Text × Value)} {name : String}
  {v w : Value}

/-! ## Limits -/

/-- No deeper and with no larger numbers than a message that is held back may be. -/
structure Within (v : Value) : Prop where
  shallow : v.depth ≤ nestingLimit
  sized : ∀ n, Token.number n ∈ v.tokens → n.exceedsDouble = false

/-- Every string has a text. -/
def Spelled (v : Value) : Prop := ∀ s, Token.text s ∈ v.tokens → s.isSome = true

theorem canHoldBack_of_within (within : Within v) (spelled : Spelled v) :
    canHoldBack v = true := by
  have proper : v.isProper = true := by
    apply Value.isProper_of_tokens
    intro t ht
    cases t with
    | number n => exact within.sized n ht
    | text s => exact spelled s ht
    | openArray | closeArray | openObject | closeObject | comma | colon | null | bool => trivial
  rw [canHoldBack, proper, Bool.and_true]
  exact decide_eq_true within.shallow

theorem proper_of_held (holds : canHoldBack v = true) : v.isProper = true := by
  rw [canHoldBack, Bool.and_eq_true] at holds
  exact holds.2

theorem named_of_proper (proper : (Value.object ms).isProper = true) : Named ms :=
  List.all_eq_true.mpr fun _ h => (Value.proper_of_mem proper h).1

/-! ## Members twice -/

/-- An object that gives some fields, in any order. -/
def Carries (fs : List (String × Option Value)) (v : Value) : Prop :=
  ∃ ms, v = .object ms ∧ Arranged fs ms

/-- An object that gives some fields and has a second member for one of them. -/
def Repeats (fs : List (String × Option Value)) (name : String) (v : Value) : Prop :=
  ∃ ms more x y, v = .object more ∧ Arranged fs ms ∧ (name, some x) ∈ fs ∧
    more.Perm ((some name, y) :: ms)

/-- A field that an object carries is one of its members. -/
theorem Arranged.mem (arranged : Arranged fs ms) (h : (name, some v) ∈ fs) :
    (some name, v) ∈ ms := by
  obtain ⟨extras, perm, -⟩ := arranged
  refine perm.symm.subset (List.mem_append_left _ ?_)
  exact List.mem_flatMap.mpr ⟨_, h, List.mem_singleton_self _⟩

theorem member_of_twice {x y : Value} {more : List (Json.Text × Value)} (arranged : Arranged fs ms)
    (h : (name, some x) ∈ fs) (perm : more.Perm ((some name, y) :: ms)) :
    member? name more = none := by
  have there := arranged.mem h
  have filtered := (perm.filter fun m => m.1 = some name).length_eq
  have one : 0 < (ms.filter fun m => m.1 = some name).length :=
    List.length_pos_of_mem (List.mem_filter.mpr ⟨there, by simp⟩)
  rw [List.filter_cons_of_pos (by simp), List.length_cons] at filtered
  rw [member?]
  split
  case h_1 none => rw [none] at filtered; cases filtered
  case h_2 single => rw [single, List.length_singleton] at filtered; omega
  case h_3 => rfl

/-- A record with a field that cannot be told is refused. -/
theorem fields_of_member {names : List String} (h : name ∈ names)
    (twice : member? name ms = none) : fields? names (.object ms) = none := by
  have part : names.mapM (fun name => member? name ms) = none := by
    induction names with
    | nil => cases h
    | cons n names ih =>
      rw [List.mapM_cons]
      rcases List.mem_cons.mp h with rfl | h
      · rw [twice]
        rfl
      · rw [ih h]
        cases member? n ms <;> rfl
  simp only [fields?, part]
  split <;> rfl

theorem member_untagged (other : name ≠ tagName) :
    member? name (ms.filter fun m => m.1 ≠ some tagName) = member? name ms := by
  have filtered : (ms.filter fun m => m.1 ≠ some tagName).filter (fun m => m.1 = some name) =
      ms.filter fun m => m.1 = some name := by
    rw [List.filter_filter]
    apply List.filter_congr
    intro m _
    by_cases same : m.1 = some name <;> simp [same, other]
  rw [member?, member?, filtered]

theorem Arranged.proper {n : String} (arranged : Arranged fs ms)
    (proper : (Value.object ms).isProper = true) (h : (n, some v) ∈ fs) : v.isProper = true :=
  (Value.proper_of_mem proper (arranged.mem h)).2

/-- A record with a second member comes apart no more, or cannot be read. -/
theorem split_repeats {tag : String} (holds : canHoldBack v = true)
    (repeats : Repeats ((tagName, some (word tag)) :: fs) name v)
    (distinct : (tagName :: fs.map Prod.fst).Nodup) :
    split? v = none ∨ ∃ rest, split? v = some (tag, .object rest) ∧
      fields? (fs.map Prod.fst) (.object rest) = none := by
  obtain ⟨ms, more, x, y, rfl, arranged, given, perm⟩ := repeats
  have twice := member_of_twice arranged given perm
  by_cases same : name = tagName
  · left
    subst same
    rw [split?, if_pos holds]
    simp only [twice]
  · right
    have tag : member? tagName more = some (some (word tag)) := by
      apply member_of_filter
      have filtered := perm.filter fun m => m.1 = some tagName
      rw [List.filter_cons_of_neg (by simp [same])] at filtered
      exact filtered.trans (filter_arranged arranged distinct (List.mem_cons_self ..))
    have declared : name ∈ fs.map Prod.fst := by
      rcases List.mem_cons.mp given with head | rest
      · exact absurd (congrArg Prod.fst head) same
      · exact List.mem_map.mpr ⟨_, rest, rfl⟩
    refine ⟨more.filter fun m => m.1 ≠ some tagName, ?_, ?_⟩
    · rw [split?, if_pos holds]
      simp only [tag, word, Value.ofString]
    · exact fields_of_member declared ((member_untagged same).trans twice)

/-! ## Endpoints -/

namespace Endpoint

variable {e : Endpoint}

theorem ofJson_carries (carries : Carries e.fields v) (proper : v.isProper = true) :
    ofJson? v = some e := by
  obtain ⟨ms, rfl, arranged⟩ := carries
  exact ofJson_arranged arranged (named_of_proper proper)

theorem ofJson_repeats (repeats : Repeats e.fields name v) : ofJson? v = none := by
  obtain ⟨ms, more, x, y, rfl, arranged, given, perm⟩ := repeats
  have declared : name ∈ ["ip", "port"] := by
    have mem := List.mem_map_of_mem (f := Prod.fst) given
    simpa [fields] using mem
  simp only [ofJson?, fields_of_member declared (member_of_twice arranged given perm)]
  rfl

theorem optional_object (ms : List (Json.Text × Value)) :
    optional ofJson? (some (.object ms)) = (ofJson? (.object ms)).map some := rfl

end Endpoint

theorem LinkUpdate.proper_ends {updateKind : UpdateKind} {linkKind : LinkKind}
    {peerAsn : Option String} {near far : Option Value} {tag : String}
    (arranged : Arranged ((tagName, some (word tag)) ::
      fieldsWith updateKind linkKind peerAsn near far) ms)
    (proper : (Value.object ms).isProper = true) :
    (∀ v, near = some v → v.isProper = true) ∧ (∀ v, far = some v → v.isProper = true) := by
  constructor
  · rintro v rfl
    exact arranged.proper proper (n := "local") (by simp [fieldsWith])
  · rintro v rfl
    exact arranged.proper proper (n := "remote") (by simp [fieldsWith])

/-! ## Messages -/

namespace StreamResponse

variable {m : StreamResponse}

/-- The fields that a message gives, the tag among them, when its endpoints are given in
some way. -/
inductive Gives (near far : Endpoint → Value → Prop) :
    StreamResponse → List (String × Option Value) → Prop
  | arbitration (u : ArbitrationUpdate) :
      Gives near far (.arbitration u) ((tagName, some (word "arbitration")) :: u.fields)
  | linkUpdate (u : LinkUpdate) {x y : Option Value} (first : Option.Rel near u.local? x)
      (second : Option.Rel far u.remote? y) :
      Gives near far (.linkUpdate u) ((tagName, some (word "link_update")) ::
        LinkUpdate.fieldsWith u.updateKind u.linkKind (some u.peerAsn) x y)
  | error (n : ErrorNotice) :
      Gives near far (.error n) ((tagName, some (word "error")) :: n.fields)

/-- An endpoint with its members in any order. -/
abbrev AnyOrder (e : Endpoint) (v : Value) : Prop := Carries e.fields v

/-- An endpoint with a second member for its address or its port. -/
abbrev Twice (e : Endpoint) (v : Value) : Prop := ∃ name, Repeats e.fields name v

/-- An object of the members of a message, in any order and among others. -/
def Arranges (m : StreamResponse) (v : Value) : Prop :=
  ∃ fs, Gives AnyOrder AnyOrder m fs ∧ Carries fs v

/-- Such an object with a second tag, or a second member for a field that is there. -/
inductive Spoils : StreamResponse → Value → Prop
  | member {m : StreamResponse} {fs : List (String × Option Value)} {name : String} {v : Value}
      (gives : Gives AnyOrder AnyOrder m fs) (repeats : Repeats fs name v) : Spoils m v
  | near {u : LinkUpdate} {e : Endpoint} {fs : List (String × Option Value)} {v : Value}
      (present : u.local? = some e) (gives : Gives Twice AnyOrder (.linkUpdate u) fs)
      (carries : Carries fs v) : Spoils (.linkUpdate u) v
  | far {u : LinkUpdate} {e : Endpoint} {fs : List (String × Option Value)} {v : Value}
      (present : u.remote? = some e) (gives : Gives AnyOrder Twice (.linkUpdate u) fs)
      (carries : Carries fs v) : Spoils (.linkUpdate u) v

theorem ofJson_unheld (h : canHoldBack v = false) : ofJson? v = none := by
  unfold ofJson? split?
  rw [h]
  rfl

theorem ofJson_linkUpdate {updateKind : UpdateKind} {linkKind : LinkKind}
    {peerAsn : Option String} {near far : Option Value}
    (holds : canHoldBack (.object ms) = true)
    (arranged : Arranged ((tagName, some (word "link_update")) ::
      LinkUpdate.fieldsWith updateKind linkKind peerAsn near far) ms) :
    ofJson? (.object ms) = (optional Endpoint.ofJson? near).bind fun near =>
      (optional Endpoint.ofJson? far).map fun far =>
        .linkUpdate ⟨updateKind, linkKind, peerAsn.getD "", near, far⟩ := by
  have distinct : ["kind", "type", "linkType", "peerAsn", "local", "remote"].Nodup := by decide
  have named := named_of_proper (proper_of_held holds)
  have rest : Named (ms.filter fun m => m.1 ≠ some tagName) :=
    List.all_eq_true.mpr fun m hm => List.all_eq_true.mp named m (List.mem_of_mem_filter hm)
  rw [ofJson?, split_arranged holds arranged distinct]
  simp only [LinkUpdate.ofJson_arranged .heldBack (arranged.untagged distinct) rest]
  cases optional Endpoint.ofJson? near with
  | none => rfl
  | some near => cases optional Endpoint.ofJson? far <;> rfl

/-- An endpoint that may be absent is read from its members in any order. -/
theorem optional_anyOrder {e? : Option Endpoint} {x : Option Value}
    (given : Option.Rel AnyOrder e? x) (proper : ∀ v, x = some v → v.isProper = true) :
    optional Endpoint.ofJson? x = some e? := by
  cases given with
  | none => rfl
  | @some e v carries =>
    have read := Endpoint.ofJson_carries carries (proper v rfl)
    obtain ⟨ms, rfl, -⟩ := carries
    rw [Endpoint.optional_object, read]
    rfl

theorem ofJson_arranges (holds : canHoldBack v = true) (arranges : m.Arranges v) :
    ofJson? v = some m := by
  obtain ⟨fs, gives, ms, rfl, arranged⟩ := arranges
  have proper := proper_of_held holds
  have named := named_of_proper proper
  have rest : Named (ms.filter fun m => m.1 ≠ some tagName) :=
    List.all_eq_true.mpr fun m hm => List.all_eq_true.mp named m (List.mem_of_mem_filter hm)
  cases gives with
  | arbitration u =>
    have distinct : ["kind", "vlan", "electionId", "status"].Nodup := by decide
    rw [ofJson?, split_arranged holds arranged distinct]
    simp only [ArbitrationUpdate.ofJson_arranged .heldBack (arranged.untagged distinct) rest,
      Option.map_some]
  | error n =>
    have distinct : ["kind", "message"].Nodup := by decide
    rw [ofJson?, split_arranged holds arranged distinct]
    simp only [ErrorNotice.ofJson_arranged (arranged.untagged distinct) rest, Option.map_some]
  | @linkUpdate u x y first second =>
    obtain ⟨near, far⟩ := LinkUpdate.proper_ends arranged proper
    rw [ofJson_linkUpdate holds arranged, optional_anyOrder first near,
      optional_anyOrder second far]
    rfl

/-- The encoded members are in some order, too. -/
theorem arranges_toJson (m : StreamResponse) : m.Arranges m.toJson := by
  have whole (fs : List (String × Option Value)) (tag : String) :
      Carries ((tagName, some (word tag)) :: fs) (tagged tag (entries fs)) :=
    ⟨_, rfl, arranged_entries _⟩
  have endpoint (e? : Option Endpoint) : Option.Rel AnyOrder e? (e?.map Endpoint.toJson) := by
    cases e? with
    | none => exact .none
    | some e => exact .some ⟨_, e.toJson_eq, arranged_entries _⟩
  cases m with
  | arbitration u =>
    rw [toJson, u.members_eq]
    exact ⟨_, .arbitration u, whole _ _⟩
  | linkUpdate u =>
    rw [toJson, u.members_eq]
    exact ⟨_, .linkUpdate u (endpoint _) (endpoint _), whole _ _⟩
  | error n =>
    rw [toJson, n.members_eq]
    exact ⟨_, .error n, whole _ _⟩

/-! ## Second members -/

theorem ofJson_repeats {near far : Endpoint → Value → Prop} (gives : Gives near far m fs)
    (repeats : Repeats fs name v) : ofJson? v = none := by
  cases holds : canHoldBack v with
  | false => exact ofJson_unheld holds
  | true =>
    cases gives with
    | arbitration u =>
      have distinct : ["kind", "vlan", "electionId", "status"].Nodup := by decide
      rcases split_repeats holds repeats distinct with split | ⟨rest, split, refused⟩
      · rw [ofJson?, split]
      · have refused : fields? ["vlan", "electionId", "status"] (.object rest) = none := refused
        rw [ofJson?, split]
        simp only [ArbitrationUpdate.ofJson?, refused]
        rfl
    | error n =>
      have distinct : ["kind", "message"].Nodup := by decide
      rcases split_repeats holds repeats distinct with split | ⟨rest, split, refused⟩
      · rw [ofJson?, split]
      · have refused : fields? ["message"] (.object rest) = none := refused
        rw [ofJson?, split]
        simp only [ErrorNotice.ofJson?, refused]
        rfl
    | linkUpdate u first second =>
      have distinct : ["kind", "type", "linkType", "peerAsn", "local", "remote"].Nodup := by
        decide
      rcases split_repeats holds repeats distinct with split | ⟨rest, split, refused⟩
      · rw [ofJson?, split]
      · have refused : fields? ["type", "linkType", "peerAsn", "local", "remote"]
            (.object rest) = none := refused
        rw [ofJson?, split]
        simp only [LinkUpdate.ofJson?, refused]
        rfl

theorem optional_twice {e : Endpoint} {x : Option Value} (given : Option.Rel Twice (some e) x) :
    optional Endpoint.ofJson? x = none := by
  cases given with
  | some twice =>
    obtain ⟨name, repeats⟩ := twice
    have refused := Endpoint.ofJson_repeats repeats
    obtain ⟨ms, more, x, y, rfl, -⟩ := repeats
    rw [Endpoint.optional_object, refused]
    rfl

theorem ofJson_spoils (spoils : m.Spoils v) : ofJson? v = none := by
  cases holds : canHoldBack v with
  | false => exact ofJson_unheld holds
  | true =>
    cases spoils with
    | member gives repeats => exact ofJson_repeats gives repeats
    | near present gives carries =>
      obtain ⟨ms, rfl, arranged⟩ := carries
      cases gives with
      | linkUpdate u first second =>
        rw [present] at first
        rw [ofJson_linkUpdate holds arranged, optional_twice first]
        rfl
    | far present gives carries =>
      obtain ⟨ms, rfl, arranged⟩ := carries
      cases gives with
      | @linkUpdate u x y first second =>
        rw [present] at second
        rw [ofJson_linkUpdate holds arranged, optional_twice second]
        cases optional Endpoint.ofJson? x <;> rfl

/-! ## Texts -/

/-- How the texts of a message are read, whatever its members' order and company. -/
structure ReadAnyway (m : StreamResponse) : Prop where
  arranged : ∀ v s, m.Arranges v → Within v → Spelled v → v.Writes s →
    decode? StreamResponse.ofJson? s = some m
  spoiled : ∀ v s, m.Spoils v → v.Writes s → decode? StreamResponse.ofJson? s = none

theorem decode_of_writes {s : List Char} (text : v.Writes s) :
    decode? StreamResponse.ofJson? s = ofJson? v := by
  rw [decode?, Value.parse_of_writes text]
  rfl

theorem readAnyway (m : StreamResponse) : m.ReadAnyway where
  arranged v s arranges within spelled text := by
    rw [decode_of_writes text]
    exact ofJson_arranges (canHoldBack_of_within within spelled) arranges
  spoiled v s spoils text := by
    rw [decode_of_writes text]
    exact ofJson_spoils spoils

example : decode? StreamResponse.ofJson?
    "\t\x7b \"z\": [1E+2, \x7b\x7d],\"m\\u0065ssage\" :\n\"x\", \"kind\":\"error\"\x7d\r\n".toList =
      some (.error ⟨"x"⟩) := by decide +kernel

/-- A message with one more member, a string that is half of a surrogate pair. -/
def exampleLone : Value :=
  .object [(some "kind", word "error"), (some "message", word "x"), (some "z", .text none)]

/-- Limits on depth and numbers are not enough: all strings must have a text. -/
theorem exampleLone_refused : (error ⟨"x"⟩).Arranges exampleLone ∧ Within exampleLone ∧
    exampleLone.Writes exampleLone.render ∧
    decode? StreamResponse.ofJson? exampleLone.render = none := by
  refine ⟨⟨_, .error ⟨"x"⟩, _, rfl, ?_⟩, ⟨by decide, ?_⟩, ?_, by decide +kernel⟩
  · exact ⟨[(some "z", .text none)], .refl _, by decide⟩
  · intro n h
    simp [exampleLone, Value.tokens, Value.memberTokens, word, Value.ofString] at h
  · apply Token.layout_flatMap
    intro t ht
    simp only [exampleLone, word, Value.ofString, Value.tokens, Value.memberTokens,
      List.cons_append, List.nil_append, List.mem_cons, List.not_mem_nil, or_false] at ht
    by_cases other : t = .text none
    · exact other ▸ Token.writes_lone
    · apply Token.writes_spell
      rcases ht with rfl | rfl | rfl | rfl | rfl | rfl | rfl | rfl | rfl | rfl | rfl | rfl | rfl
      all_goals trivial

end StreamResponse

end PeeringAgent.Wire
