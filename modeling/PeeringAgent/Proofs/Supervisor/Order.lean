import PeeringAgent.Proofs.Dialogue.Tasks
import PeeringAgent.Proofs.Supervisor.Standing

/-!
# Order among sessions

What the supervisor relies on between two events: names are distinct, and each event that
waits comes from a session of its name that is up and whose receiver has ended. Updates of
one session keep this until the agent leaves.
-/

set_option autoImplicit false

namespace PeeringAgent.Supervisor

open Dialogue

variable {d d' : Dialogue} {s s' : Supervisor}

/-- Each event comes from a session whose receiver has ended, and names it. -/
structure Coherent (s : Supervisor) : Prop where
  distinct : (s.dialogues.map Dialogue.name).Nodup
  noticed : ∀ (i : Nat) (e : StreamEnded), (i, e) ∈ s.notices →
    ∃ d, s.dialogues[i]? = some d ∧ d.session.receiver = .ended ∧
      d.session.phase = .streaming ∧ e.session = d.name
  once : (s.notices.map Prod.fst).Nodup
  /-- The session that is being released has told its end, and that has been heard. -/
  releasing : ∀ i : Nat, s.mode = .releasing i → i ∉ s.notices.map Prod.fst ∧
    ∃ d, s.dialogues[i]? = some d ∧ d.session.receiver = .ended

structure Orderly (s : Supervisor) : Prop where
  standing : Standing s
  coherent : s.mode.cause? = none → Coherent s

/-- What the supervisor has to know of an act of a session. -/
structure Advanced (d d' : Dialogue) : Prop where
  name : d'.name = d.name
  tells : d.Tells d'.session d'.ended

theorem advanced_of_act {a : Dialogue.Act} (sane : Sane d) (h : d.act? a = some d') :
    Advanced d d' := by
  have change := act_change h
  obtain ⟨f, stage⟩ := sane.stage
  refine ⟨?_, change.tells stage⟩
  show d'.session.config.name = d.session.config.name
  rw [change.config]

/-! ## Receivers -/

/-- While sessions are being connected, one with a receiver is up. -/
theorem streaming_of_starting {i k : Nat} (sane : Sane d) (placed : Placed (.starting k) i d)
    (on : d.session.receiver ≠ .absent) : d.session.phase = .streaming := by
  have absent {p : Prop} (resting : Resting d.session) : p := absurd resting.receiver on
  obtain ⟨-, before, connecting, after⟩ := placed
  by_cases up : i < k
  · exact (before up).phase
  by_cases idle : k < i ∨ i = k ∧ d.agenda = []
  · exact absent (after idle).resting
  have busy : d.agenda ≠ [] := fun none => idle (.inr ⟨by omega, none⟩)
  have stays (errand : Errand) (among : errand ∈ d.agenda) : errand.departs = false :=
    connecting (by omega) errand among
  obtain ⟨f, stage⟩ := sane.stage
  cases stage with
  | unconnected unconnected => exact absent unconnected.resting
  | dialling _ resting | dialled _ resting => exact absent resting
  | refused _ _ resting | streamless _ _ resting => exact absent resting
  | registering _ _ _ _ _ _ phase | serving _ _ _ _ _ phase => exact phase
  | hungUp _ _ _ _ _ _ phase => exact phase
  | released _ _ _ agenda =>
    obtain ⟨errand, rest, next⟩ := List.exists_cons_of_ne_nil busy
    have departs := stays errand (by simp [next])
    rcases (agenda.next next).1 with ⟨rfl, -⟩ | ⟨rfl, -⟩ <;> cases departs

/-- Until the agent leaves, a receiver that reads belongs to a session that is up. -/
theorem streaming_of_reading {i : Nat} (h : Standing s) (running : s.mode.cause? = none)
    (found : s.dialogues[i]? = some d) (reading : d.session.receiver = .reading) :
    d.session.phase = .streaming := by
  have placed := h.placed i d found
  have spent {p : Prop} (gone : d.session.tasksOver = true) : p := by
    simp [Session.tasksOver, reading] at gone
  have either (up : Open d ∨ Through d) : d.session.phase = .streaming :=
    up.elim (fun up => up.phase) fun through => spent through.spent
  cases mode : s.mode with
  | starting k =>
    rw [mode] at placed
    exact streaming_of_starting (h.sane i d found) placed (by simp [reading])
  | watching =>
    rw [mode] at placed
    exact either placed
  | releasing k =>
    rw [mode] at placed
    by_cases here : i = k
    · exact (placed.2 here).elim (fun up => up.phase) fun served => spent served.2.2
    · exact either (placed.1 here)
  | leaving k cause =>
    rw [mode] at running
    cases running
  | stopped cause =>
    rw [mode] at running
    cases running

/-! ## Updates -/

/-- An update is coherent when what is known of the receiver stays true, and an event
comes with the end of the receiver. -/
theorem Coherent.update {k : Nat} (h : Coherent s) (found : s.dialogues[k]? = some d)
    (name : d'.name = d.name)
    (keeps : k ∈ s.notices.map Prod.fst ∨ s.mode = .releasing k → d'.session.receiver = .ended)
    (stays : k ∈ s.notices.map Prod.fst → d'.session.phase = .streaming)
    (tells : d'.ended = [] ∨ (k ∉ s.notices.map Prod.fst ∧ s.mode ≠ .releasing k) ∧
      d'.session.receiver = .ended ∧ d'.session.phase = .streaming ∧
        ∃ reason, d'.ended = [⟨d.name, reason⟩]) :
    Coherent (s.update k d') := by
  have same : (s.update k d').dialogues[k]? = some d'.clear := update_same found
  constructor
  case distinct =>
    rw [update_map Dialogue.name found name]
    exact h.distinct
  case noticed =>
    intro i e among
    rcases List.mem_append.mp among with old | new
    · obtain ⟨d₀, at_i, gone, up, named⟩ := h.noticed i e old
      have known : i ∈ s.notices.map Prod.fst := List.mem_map.mpr ⟨_, old, rfl⟩
      by_cases this : i = k
      · subst this
        obtain rfl : d = d₀ := Option.some.inj (found.symm.trans at_i)
        exact ⟨_, same, keeps (.inl known), stays known, named.trans name.symm⟩
      · exact ⟨d₀, (update_other this).trans at_i, gone, up, named⟩
    · rcases tells with silent | ⟨-, gone, up, reason, told⟩
      · rw [silent] at new
        cases new
      · rw [told, List.map_singleton, List.mem_singleton, Prod.mk.injEq] at new
        obtain ⟨rfl, rfl⟩ := new
        exact ⟨_, same, gone, up, name.symm⟩
  case once =>
    show ((s.notices ++ d'.ended.map fun e => (k, e)).map Prod.fst).Nodup
    rcases tells with silent | ⟨⟨fresh, -⟩, -, -, reason, told⟩
    · rw [silent, List.map_nil, List.append_nil]
      exact h.once
    · rw [told, List.map_singleton, List.map_append]
      refine List.nodup_append.mpr ⟨h.once, by simp, ?_⟩
      rintro i among j new rfl
      obtain rfl := List.mem_singleton.mp new
      exact fresh among
  case releasing =>
    intro i mode
    obtain ⟨heard, d₀, at_i, gone⟩ := h.releasing i mode
    refine ⟨?_, ?_⟩
    · show i ∉ (s.notices ++ d'.ended.map fun e => (k, e)).map Prod.fst
      rcases tells with silent | ⟨⟨-, other⟩, -, -, reason, told⟩
      · rw [silent, List.map_nil, List.append_nil]
        exact heard
      · have different : i ≠ k := by
          rintro rfl
          exact other mode
        rw [told, List.map_singleton, List.map_append, List.mem_append, not_or]
        exact ⟨heard, by simp [different]⟩
    · by_cases this : i = k
      · subst this
        exact ⟨_, same, keeps (.inr mode)⟩
      · exact ⟨d₀, (update_other this).trans at_i, gone⟩

/-- Outside its own release a session whose receiver ends, or has been up, has to stay up. -/
theorem Coherent.advance {k : Nat} (h : Coherent s) (found : s.dialogues[k]? = some d)
    (sane : Sane d) (advanced : Advanced d d')
    (stays : s.mode ≠ .releasing k → d'.session.receiver = .ended →
      d.session.receiver = .reading ∨ d.session.phase = .streaming →
      d'.session.phase = .streaming) : Coherent (s.update k d') := by
  obtain ⟨name, tells⟩ := advanced
  have gone (known : k ∈ s.notices.map Prod.fst ∨ s.mode = .releasing k) :
      d.session.receiver = .ended := by
    rcases known with noticed | releasing
    · obtain ⟨⟨i, e⟩, among, rfl⟩ := List.mem_map.mp noticed
      obtain ⟨d₀, at_i, gone, -⟩ := h.noticed i e among
      cases found.symm.trans at_i
      exact gone
    · obtain ⟨-, d₀, at_k, gone⟩ := h.releasing k releasing
      cases found.symm.trans at_k
      exact gone
  have keeps (known : k ∈ s.notices.map Prod.fst ∨ s.mode = .releasing k) :
      d'.session.receiver = .ended := by
    rcases tells with ⟨-, keeps⟩ | ⟨-, ends, -⟩
    · exact keeps (gone known)
    · exact ends
  have streams (noticed : k ∈ s.notices.map Prod.fst) : d'.session.phase = .streaming := by
    refine stays (fun releasing => (h.releasing k releasing).1 noticed) (keeps (.inl noticed)) ?_
    obtain ⟨⟨i, e⟩, among, rfl⟩ := List.mem_map.mp noticed
    obtain ⟨d₀, at_i, -, up, -⟩ := h.noticed i e among
    cases found.symm.trans at_i
    exact .inr up
  refine h.update found name keeps streams ?_
  rcases tells with ⟨silent, -⟩ | ⟨reading, ends, reason, told⟩
  · exact .inl (silent.trans sane.told)
  · have unknown : ¬(k ∈ s.notices.map Prod.fst ∨ s.mode = .releasing k) := by
      intro known
      rw [gone known] at reading
      cases reading
    obtain ⟨fresh, other⟩ := not_or.mp unknown
    refine .inr ⟨⟨fresh, other⟩, ends, stays other ends (.inl reading), reason, ?_⟩
    rw [told, Dialogue.told, sane.supervised, if_pos rfl, sane.told]
    rfl

theorem Coherent.setMode {mode : Mode} (h : Coherent s) (quiet : ∀ i, mode ≠ .releasing i) :
    Coherent { s with mode } :=
  ⟨h.distinct, h.noticed, h.once, fun i this => absurd this (quiet i)⟩

theorem Coherent.say (h : Coherent s) (lines : List Log.Line) : Coherent (s.say lines) :=
  ⟨h.distinct, h.noticed, h.once, h.releasing⟩

end PeeringAgent.Supervisor
