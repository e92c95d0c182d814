import PeeringAgent.Proofs.Link.Report
import PeeringAgent.Proofs.Reconciler.Timetable

/-!
# What waits for a tick

A link that waits in a store is picked up by the next tick, and that one comes no later
than the interval and the action under way allow.
-/

set_option autoImplicit false

namespace PeeringAgent.Reconciler

/-- A tick deals with a link of a store that it finds in a state. -/
structure Tick.PicksUp (k : Tick) (index : Nat) (l : Link) (st : LinkState) : Prop where
  pass : ∃ p, k.swept.passes[index]? = some p ∧
    (l ∈ p.changes.created ↔ st = .pendingCreate) ∧
    (l ∈ p.changes.destroyed ↔ st = .pendingDestroy) ∧ p.site.store.state? l = st.reconciled

namespace Timeline

variable {t t' : Timeline} {limit : Nat}

structure Waits (index : Nat) (l : Link) (st : LinkState) (sites : List Site) : Prop where
  found : ∃ site, sites[index]? = some site ∧ site.store.state? l = some st

/-- A tick finds the link as it waits and settles it. -/
theorem picksUp_nextTick {index : Nat} {l : Link} {st : LinkState}
    (waits : Waits index l st t.sites) : t.nextTick.PicksUp index l st := by
  obtain ⟨site, there, state⟩ := waits.found
  refine ⟨site.pass, ?_, ?_, ?_, ?_⟩
  · show (t.sites.map Site.pass)[index]? = some site.pass
    rw [List.getElem?_map, there, Option.map_some]
  · show l ∈ site.store.reconcile.2.created ↔ st = .pendingCreate
    rw [LinkStore.mem_created, state, Option.some.injEq]
  · show l ∈ site.store.reconcile.2.destroyed ↔ st = .pendingDestroy
    rw [LinkStore.mem_destroyed, state, Option.some.injEq]
  · show site.store.reconcile.1.state? l = st.reconciled
    rw [LinkStore.state?_reconcile, state, Option.bind_some]

/-- A link that waited when some ticks had begun has been picked up by the next one, or
waits still. -/
structure Served (ticks : List Tick) (index : Nat) (l : Link) (st : LinkState)
    (t : Timeline) : Prop where
  more : ticks <+: t.ticks
  waits : t.ticks.length = ticks.length → Waits index l st t.sites
  picked : ∀ k, t.ticks[ticks.length]? = some k → k.PicksUp index l st

theorem Served.event {ticks : List Tick} {index : Nat} {l : Link} {st : LinkState}
    (h : Served ticks index l st t) (event : t.Event limit t') :
    Served ticks index l st t' := by
  obtain ⟨more, waits, picked⟩ := h
  cases event with
  | ended acting early log => exact ⟨more, waits, picked⟩
  | @ticked due idle early begun log =>
    set now : Timeline := { t with clock := begin due t.clock, tickers := [] }
    have grown : (now.ticked due begun log).ticks = t.ticks ++ [now.nextTick] := rfl
    have atLeast := more.length_le
    refine ⟨?_, ?_, ?_⟩
    · rw [grown]
      exact more.trans (List.prefix_append _ _)
    · intro none
      rw [grown, List.length_append, List.length_singleton] at none
      omega
    · intro k hk
      rw [grown] at hk
      by_cases first : t.ticks.length = ticks.length
      · rw [← first, List.getElem?_concat_length, Option.some.injEq] at hk
        exact hk ▸ picksUp_nextTick (waits first)
      · rw [List.getElem?_append_left (by omega)] at hk
        exact picked k hk

/-- A directive about something else leaves a link waiting. -/
theorem Waits.direct {index i : Nat} {l : Link} {st : LinkState} {directive : LinkDirective}
    (h : Waits index l st t.sites)
    (other : (Command.direct i directive).concerns index l = false) :
    Waits index l st (t.obey (.direct i directive)).sites := by
  obtain ⟨site, there, state⟩ := h.found
  by_cases same : i = index
  · subst same
    have apart : (LinkStore.Op.direct directive).concerns l = false := by
      simpa [Command.concerns, LinkStore.Op.concerns] using other
    refine ⟨{ site with store := site.store.apply directive }, ?_, ?_⟩
    · show (t.sites.modify i _)[i]? = _
      rw [List.getElem?_modify_eq, there]
      rfl
    · have step := LinkStore.state?_step site.store (.direct directive) l
      rw [LinkStore.evolve_of_other apart, state] at step
      exact step
  · refine ⟨site, ?_, state⟩
    show (t.sites.modify i _)[index]? = _
    rw [List.getElem?_modify_ne _ _ same, there]

theorem lasting_served (ticks : List Tick) (index : Nat) (l : Link) (st : LinkState) :
    Lasting (fun c => c.concerns index l = false) (Served ticks index l st) where
  event := Served.event
  wait _ h := ⟨h.more, h.waits, h.picked⟩
  prepare _ h := ⟨h.more, h.waits, h.picked⟩
  direct _ _ other h := ⟨h.more, fun none => (h.waits none).direct other, h.picked⟩

/-! ## The timetable -/

/-- When the action of the last tick ends, or ended. -/
def busyUntil (t : Timeline) : Nat := (t.ticks.getLast?.map Tick.ended).getD 0

/-- What holds of a schedule that starts, after some commands. -/
structure Punctual (t₀ : Timeline) (cs : List Command) (t : Timeline) : Prop where
  begun : t.ticks.map Tick.begun =
    beginnings t₀.leeway t₀.interval t₀.clock t₀.clock t.durations
  regular : Regular t₀.leeway t₀.interval t₀.clock t.durations (t.ticks.map Tick.begun)
  always : ∀ durations, Regular t₀.leeway t₀.interval t₀.clock durations
    (beginnings t₀.leeway t₀.interval t₀.clock t₀.clock durations)
  immediate : t₀.clock < t.clock → ∃ k, t.ticks[0]? = some k ∧ k.begun = t₀.clock
  next : ∀ (n : Nat) k, t.ticks[n]? = some k → max k.ended (k.begun + t₀.interval) < t.clock →
    ∃ k', t.ticks[n + 1]? = some k'
  pickedUp : ∀ before after now site index l st, cs = before ++ after →
    now = run before t₀.startTicker → now.sites[index]? = some site →
    site.store.state? l = some st → (∀ c ∈ after, c.concerns index l = false) →
    max (now.clock + t₀.interval) now.busyUntil < t.clock →
    ∃ k, t.ticks[now.ticks.length]? = some k ∧ now.clock ≤ k.begun ∧
      k.begun ≤ max (now.clock + t₀.interval) now.busyUntil ∧ k.PicksUp index l st

theorem OnTime.immediate {start : Nat} (h : OnTime start t) (later : start < t.clock) :
    ∃ k, t.ticks[0]? = some k ∧ k.begun = start := by
  cases ticks : t.ticks with
  | nil =>
    have reached := h.reached
    have ahead : t.ahead start = (start, start) := by simp [ahead, durations, ticks, outlook]
    rw [ahead, begin, Nat.max_self] at reached
    omega
  | cons k ks =>
    refine ⟨k, rfl, ?_⟩
    have begun := h.begun_at (n := 0) (by rw [ticks]; rfl)
    rw [List.take_zero, outlook, begin, Nat.max_self] at begun
    exact begun

theorem OnTime.next {start n : Nat} {k : Tick} (h : OnTime start t)
    (there : t.ticks[n]? = some k) (past : max k.ended (k.begun + t.interval) < t.clock) :
    ∃ k', t.ticks[n + 1]? = some k' := by
  cases further : t.ticks[n + 1]? with
  | some k' => exact ⟨k', rfl⟩
  | none =>
    have within := (List.getElem?_eq_some_iff.mp there).1
    have none := List.getElem?_eq_none_iff.mp further
    have ahead := h.ahead_le there (by omega)
    have reached := h.reached
    omega

/-- How long a link that waits now waits at most. -/
theorem OnTime.ahead_le_now {start : Nat} (h : OnTime start t) :
    begin (t.ahead start).1 (t.ahead start).2 ≤ max (t.clock + t.interval) t.busyUntil := by
  cases last : t.ticks.getLast? with
  | none =>
    have ahead : t.ahead start = (start, start) := by
      simp [ahead, durations, List.getLast?_eq_none_iff.mp last, outlook]
    have since := h.since
    rw [ahead, begin, Nat.max_self]
    omega
  | some k =>
    have busy : t.busyUntil = k.ended := by rw [busyUntil, last]; rfl
    have past := h.past k (List.mem_of_getLast? last)
    rw [List.getLast?_eq_getElem?] at last
    have within := (List.getElem?_eq_some_iff.mp last).1
    have ahead := h.ahead_le last (by omega)
    rw [busy]
    omega

theorem ahead_eq {start : Nat} (same : t'.measure = t.measure) (ticks : t'.ticks = t.ticks) :
    t'.ahead start = t.ahead start := by
  obtain ⟨unit, interval⟩ := Prod.mk.inj same
  rw [ahead, ahead, leeway, leeway, unit, interval, durations, durations, ticks]

theorem OnTime.pickedUp {start index : Nat} {l : Link} {st : LinkState} {site : Site}
    (h : OnTime start t) (positive : 0 < t.interval) (there : t.sites[index]? = some site)
    (waiting : site.store.state? l = some st) (after : List Command)
    (others : ∀ c ∈ after, c.concerns index l = false)
    (past : max (t.clock + t.interval) t.busyUntil < (t.run after).clock) :
    ∃ k, (t.run after).ticks[t.ticks.length]? = some k ∧ t.clock ≤ k.begun ∧
      k.begun ≤ max (t.clock + t.interval) t.busyUntil ∧ k.PicksUp index l st := by
  obtain ⟨later, same⟩ := h.run after positive
  have served : Served t.ticks index l st (t.run after) := by
    refine h.run_lasting (lasting_served t.ticks index l st) after positive others ?_
    refine ⟨List.prefix_rfl, fun _ => ⟨site, there, waiting⟩, fun k none => ?_⟩
    rw [List.getElem?_eq_none (Nat.le_refl _)] at none
    cases none
  have least := h.reached
  have most := h.ahead_le_now
  cases found : (t.run after).ticks[t.ticks.length]? with
  | none =>
    have still : (t.run after).ticks = t.ticks :=
      (served.more.eq_of_length_le (List.getElem?_eq_none_iff.mp found)).symm
    have reached := later.reached
    rw [ahead_eq same still] at reached
    omega
  | some k =>
    obtain ⟨unit, interval⟩ := Prod.mk.inj same
    obtain ⟨more, grown⟩ := served.more
    have begun : k.begun = begin (t.ahead start).1 (t.ahead start).2 := by
      have front : (t.run after).durations.take t.ticks.length = t.durations := by
        rw [durations, ← List.map_take, ← grown, List.take_left]
        rfl
      have exact := later.begun_at found
      rw [front, leeway, unit, interval] at exact
      exact exact
    refine ⟨k, rfl, ?_, ?_, served.picked k found⟩
    · rw [begun]
      exact least
    · rw [begun]
      exact most

/-- However the actions go and whatever else happens, ticks come in time. -/
theorem punctual_of_run (t₀ : Timeline) (cs : List Command) (idle : t₀.tickers = [])
    (fresh : t₀.ticks = []) (positive : 0 < t₀.interval) :
    Punctual t₀ cs (run cs t₀.startTicker) := by
  have start := onTime_start idle fresh positive
  have started : t₀.startTicker.measure = t₀.measure := by
    rw [startTicker, if_neg (Nat.ne_of_gt positive)]
    rfl
  have goes : ∀ more, OnTime t₀.clock (run more t₀.startTicker) ∧
      (run more t₀.startTicker).measure = t₀.measure := fun more => by
    have positive : 0 < t₀.startTicker.interval :=
      Nat.lt_of_lt_of_eq positive (congrArg Prod.snd started).symm
    obtain ⟨onTime, same⟩ := start.run more positive
    exact ⟨onTime, same.trans started⟩
  have interval : ∀ more, (run more t₀.startTicker).interval = t₀.interval := fun more =>
    congrArg Prod.snd (goes more).2
  have leeway : ∀ more, (run more t₀.startTicker).leeway = t₀.leeway := fun more =>
    congrArg (tolerance * ·) (congrArg Prod.fst (goes more).2)
  have begun : (run cs t₀.startTicker).ticks.map Tick.begun =
      beginnings t₀.leeway t₀.interval t₀.clock t₀.clock (run cs t₀.startTicker).durations := by
    rw [(goes cs).1.begun, interval, leeway]
  constructor
  case begun => exact begun
  case regular => exact begun ▸ regular_beginnings _ _ _ _
  case always => exact regular_beginnings _ _ _
  case immediate => exact (goes cs).1.immediate
  case next =>
    intro n k there past
    exact (goes cs).1.next there (interval cs ▸ past)
  case pickedUp =>
    rintro before after now site index l st rfl rfl there waiting others past
    rw [run_append] at past ⊢
    rw [← interval before] at past positive ⊢
    exact (goes before).1.pickedUp positive there waiting after others past

/-- A link comes, then an action that is slow; another one comes while it runs. -/
def exampleCommands : List Command :=
  let link (name : String) : Link := ⟨.core, name, "127.0.0.1", 50000, "127.0.0.1", 50001⟩
  [.direct 0 (.create (link "1")), .prepare ⟨12, .ok ()⟩, .elapse 1,
    .direct 0 (.create (link "2")), .elapse 30]

theorem exampleCommands_punctual :
    let t := run exampleCommands (start 10 ["east"]).startTicker
    Punctual (start 10 ["east"]) exampleCommands t ∧
      t.ticks.map Tick.begun = [0, 12, 24, 30] ∧ t.durations = [12, 12, 0, 0] :=
  ⟨punctual_of_run (start 10 ["east"]) exampleCommands rfl rfl (by decide), by decide, by decide⟩

end Timeline

end PeeringAgent.Reconciler
