import PeeringAgent.Link.Directive
import PeeringAgent.Proofs.Wire.Order

/-!
# Frames of link updates

What a link update on the wire makes of the numbers in it. A port is any integer there;
one that is no 32-bit number spoils the message, one that is no 16-bit number the
directive, and one that is, stays what it was.
-/

set_option autoImplicit false

namespace PeeringAgent

namespace Json.Numeral

/-- An integer as it is written. -/
def ofInt (p : Int) : Numeral := ⟨decide (p < 0), Nat.toDigits 10 p.natAbs, none, none⟩

theorem ofInt_natCast (n : Nat) : ofInt n = ofNat n := by
  have positive : ¬(n : Int) < 0 := by omega
  rw [ofInt, decide_eq_false positive, Int.natAbs_natCast, ofNat]

theorem toNat_ofInt (p : Int) : (ofInt p).toNat? = if 0 ≤ p then some p.toNat else none := by
  by_cases h : 0 ≤ p
  · obtain ⟨n, rfl⟩ := Int.eq_ofNat_of_zero_le h
    rw [ofInt_natCast, toNat_ofNat, if_pos h, Int.toNat_natCast]
  · have negative : p < 0 := by omega
    rw [ofInt, decide_eq_true negative, if_neg h]
    rfl

end Json.Numeral

namespace Wire

open PeeringAgent.Json (Value Numeral)

variable {fs : List (String × Option Value)} {v : Value} {limit : Nat}

/-! ## Objects among strangers -/

/-- Members of other names than those of some fields, not too deep, with names and values
as they may be. -/
def Strangers (limit : Nat) (fs : List (String × Option Value))
    (extras : List (Json.Text × Value)) : Prop :=
  ∀ m ∈ extras, (∀ f ∈ fs, m.1 ≠ some f.1) ∧ m.1.isSome = true ∧
    m.2.isProper = true ∧ m.2.depth < limit

/-- An object that gives some fields, in any order and among strangers. -/
def Shows (limit : Nat) (fs : List (String × Option Value)) (v : Value) : Prop :=
  ∃ ms extras, v = .object ms ∧ ms.Perm (entries fs ++ extras) ∧ Strangers limit fs extras

theorem Shows.carries (shows : Shows limit fs v) :
    ∃ ms, v = .object ms ∧ Arranged fs ms ∧ Named ms := by
  obtain ⟨ms, extras, rfl, perm, strangers⟩ := shows
  refine ⟨ms, rfl, ⟨extras, perm, fun m hm => (strangers m hm).1⟩, ?_⟩
  apply List.all_eq_true.mpr
  intro m hm
  rcases List.mem_append.mp (perm.subset hm) with own | extra
  · exact List.all_eq_true.mp (named_entries fs) m own
  · exact (strangers m extra).2.1

/-- An object may stand where what it gives may stand one level deeper. -/
theorem Shows.fits (shows : Shows limit fs v) (positive : 0 < limit)
    (h : ∀ f ∈ fs, ∀ x, f.2 = some x → x.isProper = true ∧ x.depth < limit) :
    v.isProper = true ∧ v.depth ≤ limit := by
  obtain ⟨ms, extras, rfl, perm, strangers⟩ := shows
  have each : ∀ m ∈ ms, m.1.isSome = true ∧ m.2.isProper = true ∧ m.2.depth < limit := by
    intro m hm
    rcases List.mem_append.mp (perm.subset hm) with own | extra
    · obtain ⟨f, hf, named, present⟩ := exists_of_mem_entries own
      exact ⟨by rw [named]; rfl, h f hf m.2 present⟩
    · exact (strangers m extra).2
  exact ⟨isProper_object fun m hm => ⟨(each m hm).1, (each m hm).2.1⟩,
    depth_object (fun m hm => (each m hm).2.2) positive⟩

/-! ## Frames -/

/-- One end of a link with whatever integer is given for its port. -/
structure Spot where
  ip : String
  port : Int

structure LinkFrame where
  updateKind : UpdateKind
  linkKind : LinkKind
  peerAsn : Option String
  local? : Option Spot
  remote? : Option Spot

namespace Spot

def fields (s : Spot) : List (String × Option Value) :=
  Endpoint.fieldsWith s.ip (.number (.ofInt s.port))

/-- The port is a number of 32 bits. -/
def InRange (s : Spot) : Prop := 0 ≤ s.port ∧ s.port < 4294967296

def endpoint (s : Spot) : Endpoint := ⟨s.ip, .ofNat s.port.toNat⟩

/-- How an object gives an end, or does not. -/
inductive Shown : Option Spot → Option Value → Prop
  | absent : Shown none none
  | null : Shown none (some .null)
  | given {s : Spot} {v : Value} (shows : Shows (nestingLimit - 1) s.fields v) :
      Shown (some s) (some v)

variable {s : Spot} {s? : Option Spot} {x : Option Value}

theorem word32_port (s : Spot) : word32? (.number (.ofInt s.port)) =
    if 0 ≤ s.port ∧ s.port < 4294967296 then some (.ofNat s.port.toNat) else none := by
  rw [word32?, natural?, Numeral.toNat_ofInt]
  by_cases positive : 0 ≤ s.port
  · have same : s.port.toNat < UInt32.size ↔ s.port < 4294967296 := by
      have size : UInt32.size = 4294967296 := rfl
      omega
    simp [positive, same]
  · simp [positive]

theorem ofJson_given {ms : List (Json.Text × Value)} (arranged : Arranged s.fields ms)
    (named : Named ms) : optional Endpoint.ofJson? (some (.object ms)) =
      if 0 ≤ s.port ∧ s.port < 4294967296 then some (some s.endpoint) else none := by
  rw [Endpoint.optional_object, Endpoint.ofJson_fieldsWith arranged named, word32_port]
  split <;> rfl

theorem Shown.inRange (shown : Shown s? x) (inRange : ∀ s, s? = some s → s.InRange) :
    optional Endpoint.ofJson? x = some (s?.map endpoint) := by
  cases shown with
  | absent => rfl
  | null => rfl
  | given shows =>
    obtain ⟨ms, rfl, arranged, named⟩ := shows.carries
    rw [ofJson_given arranged named]
    exact if_pos (inRange _ rfl)

theorem Shown.outOfRange (shown : Shown (some s) x) (out : ¬s.InRange) :
    optional Endpoint.ofJson? x = none := by
  cases shown with
  | given shows =>
    obtain ⟨ms, rfl, arranged, named⟩ := shows.carries
    rw [ofJson_given arranged named]
    exact if_neg out

/-- An end with a port of 32 bits may stand in a message that is held back. -/
theorem Shown.modest (shown : Shown s? x) (inRange : ∀ s, s? = some s → s.InRange) (v : Value)
    (present : x = some v) : Modest v := by
  cases shown with
  | absent => cases present
  | null =>
    cases present
    exact ⟨(by decide : 0 < nestingLimit), rfl⟩
  | @given s v shows =>
    cases present
    obtain ⟨low, high⟩ := inRange s rfl
    have number : Modest (.number (.ofInt s.port)) := by
      obtain ⟨n, same⟩ := Int.eq_ofNat_of_zero_le low
      rw [same, Numeral.ofInt_natCast]
      exact modest_ofNat (Nat.lt_of_lt_of_le (by omega : n < 4294967296) (by decide))
    have fits := shows.fits (by decide) fun f hf x given => by
      simp only [fields, Endpoint.fieldsWith, List.mem_cons, List.not_mem_nil, or_false] at hf
      rcases hf with rfl | rfl
      · cases given
        exact ⟨rfl, (by decide : 0 < nestingLimit - 1)⟩
      · cases given
        exact ⟨number.proper, (by decide : 0 < nestingLimit - 1)⟩
    exact ⟨Nat.lt_of_le_of_lt fits.2 (by decide), fits.1⟩

end Spot

namespace LinkFrame

variable {f : LinkFrame}

/-- The objects of a frame. -/
def Shown (f : LinkFrame) (v : Value) : Prop :=
  ∃ x y, Spot.Shown f.local? x ∧ Spot.Shown f.remote? y ∧
    Shows nestingLimit ((tagName, some (word "link_update")) ::
      LinkUpdate.fieldsWith f.updateKind f.linkKind f.peerAsn x y) v

/-- All ports are numbers of 32 bits. -/
def InRange (f : LinkFrame) : Prop :=
  (∀ s, f.local? = some s → s.InRange) ∧ ∀ s, f.remote? = some s → s.InRange

/-- What a frame says whose ports are numbers of 32 bits. -/
def update (f : LinkFrame) : LinkUpdate :=
  ⟨f.updateKind, f.linkKind, f.peerAsn.getD "", f.local?.map Spot.endpoint,
    f.remote?.map Spot.endpoint⟩

theorem ofJson_inRange (shown : f.Shown v) (inRange : f.InRange) :
    StreamResponse.ofJson? v = some (.linkUpdate f.update) := by
  obtain ⟨x, y, near, far, shows⟩ := shown
  have fits := shows.fits (by decide) fun g hg x given => by
    have modest : Modest x := by
      simp only [LinkUpdate.fieldsWith, List.mem_cons, List.not_mem_nil, or_false] at hg
      rcases hg with rfl | rfl | rfl | rfl | rfl | rfl
      · cases given
        exact modest_word _
      · cases given
        exact modest_word _
      · cases given
        exact modest_word _
      · obtain ⟨peer, -, rfl⟩ := Option.map_eq_some_iff.mp given
        exact modest_word peer
      · exact near.modest inRange.1 x given
      · exact far.modest inRange.2 x given
    exact ⟨modest.proper, modest.shallow⟩
  obtain ⟨ms, rfl, arranged, -⟩ := shows.carries
  have holds : canHoldBack (.object ms) = true := by
    rw [canHoldBack, fits.1, Bool.and_true]
    exact decide_eq_true fits.2
  rw [StreamResponse.ofJson_linkUpdate holds arranged, near.inRange inRange.1,
    far.inRange inRange.2]
  rfl

theorem ofJson_outOfRange (shown : f.Shown v) (out : ¬f.InRange) :
    StreamResponse.ofJson? v = none := by
  obtain ⟨x, y, near, far, shows⟩ := shown
  obtain ⟨ms, rfl, arranged, -⟩ := shows.carries
  cases holds : canHoldBack (.object ms) with
  | false => exact StreamResponse.ofJson_unheld holds
  | true =>
    rw [StreamResponse.ofJson_linkUpdate holds arranged]
    rcases not_and_or.mp out with bad | bad
    · obtain ⟨s, bad⟩ := not_forall.mp bad
      obtain ⟨present, bad⟩ := Classical.not_imp.mp bad
      rw [present] at near
      rw [near.outOfRange bad]
      rfl
    · obtain ⟨s, bad⟩ := not_forall.mp bad
      obtain ⟨present, bad⟩ := Classical.not_imp.mp bad
      rw [present] at far
      rw [far.outOfRange bad]
      cases optional Endpoint.ofJson? x <;> rfl

/-- The frame that an update is encoded in. -/
def of (u : LinkUpdate) : LinkFrame :=
  let spot (e : Endpoint) : Spot := ⟨e.ip, e.port.toNat⟩
  ⟨u.updateKind, u.linkKind, some u.peerAsn, u.local?.map spot, u.remote?.map spot⟩

theorem shown_toJson (u : LinkUpdate) : (of u).Shown (StreamResponse.linkUpdate u).toJson := by
  have endpoint (e? : Option Endpoint) :
      Spot.Shown (e?.map fun e => ⟨e.ip, e.port.toNat⟩) (e?.map Endpoint.toJson) := by
    cases e? with
    | none => exact .absent
    | some e =>
      refine .given ⟨_, [], e.toJson_eq, ?_, nofun⟩
      rw [Spot.fields, Numeral.ofInt_natCast, List.append_nil]
      exact .refl _
  refine ⟨_, _, endpoint u.local?, endpoint u.remote?, _, [], ?_, .refl _, nofun⟩
  rw [StreamResponse.toJson, u.members_eq, List.append_nil]
  rfl

/-! ## Directives -/

/-- A directive is about the link that a frame names. -/
structure Names (f : LinkFrame) (here there : Spot) (directive : LinkDirective) : Prop where
  create : directive = .create directive.link ↔ f.updateKind = .create
  destroy : directive = .destroy directive.link ↔ f.updateKind = .destroy
  kind : directive.link.kind = f.linkKind
  peerAsn : directive.link.peerAsn = f.peerAsn.getD ""
  localIp : directive.link.localIp = here.ip
  localPort : (directive.link.localPort.toNat : Int) = here.port
  remoteIp : directive.link.remoteIp = there.ip
  remotePort : (directive.link.remotePort.toNat : Int) = there.port

/-- Why a frame with ports of 32 bits names no link: the first that is wrong. -/
inductive Fault (f : LinkFrame) : String → Prop
  | noLocal (missing : f.local? = none) : Fault f "link update is missing the local endpoint"
  | noRemote {here : Spot} (near : f.local? = some here) (missing : f.remote? = none) :
      Fault f "link update is missing the remote endpoint"
  | localPort {here there : Spot} (near : f.local? = some here) (far : f.remote? = some there)
      (large : 65535 < here.port) :
      Fault f ("port " ++ toString here.port ++ " is out of range")
  | remotePort {here there : Spot} (near : f.local? = some here) (far : f.remote? = some there)
      (fits : here.port ≤ 65535) (large : 65535 < there.port) :
      Fault f ("port " ++ toString there.port ++ " is out of range")

end LinkFrame

namespace Spot

variable {s : Spot}

theorem toNat_port (inRange : s.InRange) : (s.endpoint.port.toNat : Int) = s.port := by
  obtain ⟨low, high⟩ := inRange
  have small : s.port.toNat < 4294967296 := by omega
  have exact : s.endpoint.port.toNat = s.port.toNat := UInt32.toNat_ofNat_of_lt' small
  rw [exact, Int.toNat_of_nonneg low]

theorem port_fits (inRange : s.InRange) (fits : s.port ≤ 65535) :
    ∃ p, LinkDirective.port s.endpoint.port = .ok p ∧ (p.toNat : Int) = s.port := by
  have same := toNat_port inRange
  have small : s.endpoint.port.toNat < 65536 := by omega
  have ok : LinkDirective.port s.endpoint.port = .ok s.endpoint.port.toUInt16 := if_pos small
  have exact := (LinkDirective.port_eq_ok_iff _ _).mp ok
  exact ⟨_, ok, by rw [← exact, same]⟩

theorem port_large (inRange : s.InRange) (large : 65535 < s.port) :
    LinkDirective.port s.endpoint.port = .error (.portOutOfRange s.endpoint.port) := by
  have same := toNat_port inRange
  exact if_neg (by omega)

theorem message_port (inRange : s.InRange) :
    (LinkDirective.Invalid.portOutOfRange s.endpoint.port).message =
      "port " ++ toString s.port ++ " is out of range" := by
  rw [← toNat_port inRange]
  rfl

end Spot

namespace LinkFrame

variable {f : LinkFrame} {here there : Spot}

theorem ofUpdate_names (near : f.local? = some here) (far : f.remote? = some there)
    (inRange : f.InRange) (localFits : here.port ≤ 65535) (remoteFits : there.port ≤ 65535) :
    ∃ directive, LinkDirective.ofUpdate f.update = .ok directive ∧
      f.Names here there directive := by
  obtain ⟨p, localOk, localPort⟩ := Spot.port_fits (inRange.1 here near) localFits
  obtain ⟨q, remoteOk, remotePort⟩ := Spot.port_fits (inRange.2 there far) remoteFits
  simp only [LinkDirective.ofUpdate, update, near, far, Option.map_some, localOk, remoteOk]
  cases kind : f.updateKind with
  | create =>
    exact ⟨_, rfl, by simp [LinkDirective.link, kind], by simp [LinkDirective.link, kind], rfl,
      rfl, rfl, localPort, rfl, remotePort⟩
  | destroy =>
    exact ⟨_, rfl, by simp [LinkDirective.link, kind], by simp [LinkDirective.link, kind], rfl,
      rfl, rfl, localPort, rfl, remotePort⟩

theorem ofUpdate_fault {reason : String} (fault : f.Fault reason) (inRange : f.InRange) :
    ∃ e, LinkDirective.ofUpdate f.update = .error e ∧ e.message = reason := by
  cases fault with
  | noLocal missing =>
    exact ⟨.missingLocal, by simp [LinkDirective.ofUpdate, update, missing], rfl⟩
  | noRemote near missing =>
    exact ⟨.missingRemote, by simp [LinkDirective.ofUpdate, update, near, missing], rfl⟩
  | @localPort here there near far large =>
    have bad := Spot.port_large (inRange.1 here near) large
    exact ⟨_, by simp [LinkDirective.ofUpdate, update, near, far, bad],
      Spot.message_port (inRange.1 here near)⟩
  | @remotePort here there near far fits large =>
    obtain ⟨p, ok, -⟩ := Spot.port_fits (inRange.1 here near) fits
    have bad := Spot.port_large (inRange.2 there far) large
    exact ⟨_, by simp [LinkDirective.ofUpdate, update, near, far, ok, bad],
      Spot.message_port (inRange.2 there far)⟩

end LinkFrame

/-- The update that a directive comes from. -/
def updateOf (directive : LinkDirective) : LinkUpdate :=
  let l := directive.link
  { updateKind := match directive with
      | .create _ => .create
      | .destroy _ => .destroy
    linkKind := l.kind, peerAsn := l.peerAsn, local? := some ⟨l.localIp, l.localPort.toUInt32⟩
    remote? := some ⟨l.remoteIp, l.remotePort.toUInt32⟩ }

theorem eq_of_port {raw : UInt32} {p : UInt16} (h : LinkDirective.port raw = .ok p) :
    raw = p.toUInt32 := by
  apply UInt32.toNat_inj.mp
  rw [(LinkDirective.port_eq_ok_iff raw p).mp h, UInt16.toNat_toUInt32]

/-- A directive tells all of the update that it was made of. -/
theorem eq_updateOf {u : LinkUpdate} {directive : LinkDirective}
    (h : LinkDirective.ofUpdate u = .ok directive) : u = updateOf directive := by
  obtain ⟨updateKind, linkKind, peerAsn, near, far⟩ := u
  cases near with
  | none => cases h
  | some here =>
    cases far with
    | none => cases h
    | some there =>
      simp only [LinkDirective.ofUpdate] at h
      cases localPort : LinkDirective.port here.port with
      | error e =>
        rw [localPort] at h
        cases h
      | ok p =>
        cases remotePort : LinkDirective.port there.port with
        | error e =>
          rw [localPort, remotePort] at h
          cases h
        | ok q =>
          rw [localPort, remotePort] at h
          obtain ⟨localIp, localRaw⟩ := here
          obtain ⟨remoteIp, remoteRaw⟩ := there
          cases eq_of_port localPort
          cases eq_of_port remotePort
          cases updateKind with
          | create =>
            cases h
            rfl
          | destroy =>
            cases h
            rfl

end Wire

end PeeringAgent
