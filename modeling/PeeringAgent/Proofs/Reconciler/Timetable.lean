import PeeringAgent.Proofs.Reconciler.Schedule
import PeeringAgent.Reconciler.Timeline.Run

/-!
# Ticks in time

A schedule of ticks keeps its times whatever happens around it: a tick begins exactly
when the durations of the actions before say so, and none is left out.
-/

set_option autoImplicit false

namespace PeeringAgent.Reconciler

def Tick.ended (k : Tick) : Nat := k.begun + k.duration

namespace Timeline

variable {t t' : Timeline} {limit due : Nat} {run? : Option ActionRun}

/-! ## One event -/

/-- The run of the action that a tick begins now would have. -/
def nextRun (t : Timeline) : Option ActionRun :=
  if t.nextTick.duration = 0 then none
  else some ⟨t.clock + t.nextTick.duration, t.action.outcome⟩

/-- The only schedule has a tick now. -/
def ticked (t : Timeline) (due : Nat) (begun : List Nat) (log : List Log.Line) : Timeline :=
  { t with
    sites := (sweep t.sites).sites, ticks := t.ticks ++ [t.nextTick]
    tickers := [⟨nextDue t.leeway t.interval due t.clock, t.nextRun⟩], begun, log }

/-- What the only schedule does next, before a time. -/
inductive Event (limit : Nat) (t : Timeline) : Timeline → Prop
  | ended {due : Nat} {run : ActionRun} (acting : t.tickers = [⟨due, some run⟩])
      (early : max t.clock run.ends < limit) (log : List Log.Line) :
      Event limit t { t with clock := max t.clock run.ends, tickers := [⟨due, none⟩], log }
  | ticked {due : Nat} (idle : t.tickers = [⟨due, none⟩]) (early : begin due t.clock < limit)
      (begun : List Nat) (log : List Log.Line) :
      Event limit t
        (({ t with clock := begin due t.clock, tickers := [] } : Timeline).ticked due begun log)

theorem await_alone (alone : t.tickers = []) (k : Ticker) :
    t.await k = { t with tickers := [k] } := by
  unfold await
  split
  · rw [alone]
  · rw [alone, List.nil_append]

theorem scheduledTick_alone (alone : t.tickers = []) (due : Nat) :
    ∃ begun log, t.scheduledTick due = t.ticked due begun log := by
  unfold scheduledTick ticked nextRun
  by_cases instant : t.nextTick.duration = 0
  · simp only [instant, bne_self_eq_false, Bool.false_eq_true, if_false, if_true]
    split
    · rw [await_alone (by exact alone)]
      exact ⟨_, _, rfl⟩
    · rw [await_alone (by exact alone)]
      exact ⟨_, _, rfl⟩
  · simp only [bne_iff_ne, ne_eq, instant, not_false_eq_true, if_true, if_false]
    rw [await_alone (by exact alone)]
    exact ⟨_, _, rfl⟩

theorem event_of_next (one : t.tickers = [⟨due, run?⟩])
    (next : t.nextEvent? limit = some t') : t.Event limit t' := by
  rw [nextEvent?, one] at next
  simp only [Ticker.first?] at next
  split at next
  case isFalse => cases next
  case isTrue early =>
    cases run? with
    | some run =>
      simp only [Option.some.injEq] at next
      rw [← next, await_alone rfl]
      exact .ended one early _
    | none =>
      simp only [Option.some.injEq] at next
      obtain ⟨begun, log, same⟩ :=
        scheduledTick_alone (t := { t with clock := begin due t.clock, tickers := [] }) rfl due
      rw [← next]
      exact same ▸ .ticked one early begun log

theorem late_of_next (one : t.tickers = [⟨due, run?⟩]) (next : t.nextEvent? limit = none) :
    limit ≤ Ticker.next t.clock ⟨due, run?⟩ := by
  rw [nextEvent?, one] at next
  simp only [Ticker.first?] at next
  split at next
  case isFalse late => exact Nat.not_lt.mp late
  case isTrue early => cases run? <;> cases next

/-! ## Up to a time -/

/-- There is one schedule, with no more than so many events before a time. -/
structure Budget (limit n : Nat) (t : Timeline) (due : Nat) (run? : Option ActionRun)
    (ticks : Nat) : Prop where
  one : t.tickers = [⟨due, run?⟩]
  enough : limit ≤ due + ticks * t.interval
  within : 2 * ticks + run?.isSome.toNat ≤ n

theorem Budget.spend {n ticks : Nat} (h : Budget limit n t due run? ticks)
    (event : t.Event limit t') :
    ∃ m due' run' rest, n = m + 1 ∧ Budget limit m t' due' run' rest := by
  obtain ⟨one, enough, within⟩ := h
  cases event with
  | ended acting early log =>
    rw [acting] at one
    cases one
    refine ⟨n - 1, due, none, ticks, ?_, rfl, enough, ?_⟩ <;>
    · simp only [Option.isSome_some, Option.isSome_none, Bool.toNat_true, Bool.toNat_false]
        at within ⊢
      omega
  | ticked idle early begun log =>
    rw [idle] at one
    cases one
    have first := begin_ge_due due t.clock
    have later := nextDue_ge_due t.leeway t.interval due (begin due t.clock)
    cases ticks with
    | zero => omega
    | succ ticks =>
      rw [Nat.succ_mul] at enough
      refine ⟨n - 1, _, _, ticks, by omega, rfl, ?_, ?_⟩
      · show limit ≤ nextDue t.leeway t.interval due (begin due t.clock) + ticks * t.interval
        omega
      · have acting := Bool.toNat_le
          (nextRun { t with clock := begin due t.clock, tickers := [] }).isSome
        omega

/-- A budget lasts until nothing is left to happen before its time. -/
theorem Budget.idle {n ticks : Nat} (h : Budget limit n t due run? ticks) :
    (t.runWithin n limit).nextEvent? limit = none := by
  induction n generalizing t due run? ticks with
  | zero =>
    cases next : t.nextEvent? limit with
    | none => exact next
    | some t' =>
      obtain ⟨m, -, -, -, more, -⟩ := h.spend (event_of_next h.one next)
      omega
  | succ n ih =>
    rw [runWithin]
    cases next : t.nextEvent? limit with
    | none => exact next
    | some t' =>
      obtain ⟨m, due', run', rest, less, budget⟩ := h.spend (event_of_next h.one next)
      cases less
      exact ih budget

/-- The bound on events is a budget. -/
theorem budget_eventBound (positive : 0 < t.interval) (one : t.tickers = [⟨due, run?⟩])
    (limit : Nat) :
    Budget limit (t.eventBound limit) t due run? ((limit - due) / t.interval + 1) := by
  have bound : t.eventBound limit = 2 * ((limit - due) / t.interval + 2) := by
    rw [eventBound, one, List.foldl_cons, List.foldl_nil, Nat.zero_add]
  refine ⟨one, ?_, ?_⟩
  · have more := Nat.lt_mul_div_succ (limit - due) positive
    rw [Nat.mul_comm] at more
    omega
  · have acting := Bool.toNat_le run?.isSome
    omega

/-- What every event keeps, a row of events keeps. -/
theorem runWithin_keeps (limit : Nat) (P : Timeline → Prop)
    (step : ∀ t t', P t → t.nextEvent? limit = some t' → P t') (n : Nat) (ht : P t) :
    P (t.runWithin n limit) := by
  induction n generalizing t with
  | zero => exact ht
  | succ n ih =>
    rw [runWithin]
    cases next : t.nextEvent? limit with
    | none => exact ht
    | some t' => exact ih (step t t' ht next)

/-! ## Exact times -/

def durations (t : Timeline) : List Nat := t.ticks.map Tick.duration

/-- When the next tick is due and the action is over, with a first tick at the start. -/
def ahead (start : Nat) (t : Timeline) : Nat × Nat :=
  outlook t.leeway t.interval start start t.durations

/-- One schedule is under way since the start, and has missed nothing. -/
structure OnTime (start : Nat) (t : Timeline) : Prop where
  one : ∃ run?, t.tickers = [⟨(t.ahead start).1, run?⟩] ∧
    (∀ run, run? = some run → run.ends = (t.ahead start).2 ∧ t.clock ≤ (t.ahead start).2) ∧
    (run? = none → (t.ahead start).2 ≤ t.clock ∧
      t.clock ≤ begin (t.ahead start).1 (t.ahead start).2)
  begun : t.ticks.map Tick.begun =
    beginnings t.leeway t.interval start start t.durations
  past : ∀ k ∈ t.ticks, k.begun ≤ t.clock
  since : start ≤ t.clock

theorem nextRun_cases (t : Timeline) :
    (∀ run, t.nextRun = some run → run.ends = t.clock + t.nextTick.duration) ∧
      (t.nextRun = none → t.nextTick.duration = 0) := by
  unfold nextRun
  split
  case isTrue instant => exact ⟨nofun, fun _ => instant⟩
  case isFalse long =>
    refine ⟨fun run same => ?_, nofun⟩
    cases same
    rfl

/-- A tick at its time. -/
theorem OnTime.ticked {start : Nat}
    (begun : t.ticks.map Tick.begun = beginnings t.leeway t.interval start start t.durations)
    (past : ∀ k ∈ t.ticks, k.begun ≤ t.clock) (since : start ≤ t.clock)
    (present : t.clock = begin (t.ahead start).1 (t.ahead start).2) (starts : List Nat)
    (log : List Log.Line) : OnTime start (t.ticked (t.ahead start).1 starts log) := by
  have durations : (t.ticked (t.ahead start).1 starts log).durations =
      t.durations ++ [t.nextTick.duration] := List.map_append
  have after : (t.ticked (t.ahead start).1 starts log).ahead start =
      (nextDue t.leeway t.interval (t.ahead start).1 t.clock,
        t.clock + t.nextTick.duration) := by
    rw [ahead, durations, present]
    exact outlook_append _ _
  obtain ⟨acting, idle⟩ := t.nextRun_cases
  refine ⟨⟨t.nextRun, ?_, ?_, ?_⟩, ?_, ?_, since⟩
  · rw [after]
    rfl
  · intro run now
    rw [after]
    exact ⟨acting run now, Nat.le_add_right _ _⟩
  · intro now
    rw [after, idle now]
    exact ⟨Nat.le_refl _, begin_ge_free _ _⟩
  · rw [durations]
    have latest : t.nextTick.begun = begin (t.ahead start).1 (t.ahead start).2 := present
    show (t.ticks ++ [t.nextTick]).map Tick.begun = _
    rw [List.map_append, List.map_singleton, begun, latest]
    exact (beginnings_concat _ _).symm
  · intro k hk
    rcases List.mem_append.mp hk with hk | hk
    · exact past k hk
    · cases List.mem_singleton.mp hk
      exact Nat.le_refl _

theorem OnTime.event {start : Nat} (h : OnTime start t) (event : t.Event limit t') :
    OnTime start t' := by
  obtain ⟨⟨run?, one, acting, idle⟩, begun, past, since⟩ := h
  cases event with
  | @ended due run now early log =>
    rw [now] at one
    cases one
    obtain ⟨ends, before⟩ := acting run rfl
    have present : max t.clock run.ends = (t.ahead start).2 := by omega
    have later : t.clock ≤ max t.clock run.ends := Nat.le_max_left _ _
    refine ⟨⟨none, rfl, nofun, fun _ => ⟨?_, ?_⟩⟩, begun, ?_, Nat.le_trans since later⟩
    · exact Nat.le_of_eq present.symm
    · exact present ▸ begin_ge_free _ _
    · exact fun k hk => Nat.le_trans (past k hk) later
  | @ticked due now early starts log =>
    rw [now] at one
    cases one
    obtain ⟨free, before⟩ := idle rfl
    have present : begin (t.ahead start).1 t.clock =
        begin (t.ahead start).1 (t.ahead start).2 := by
      unfold begin at before ⊢
      omega
    exact OnTime.ticked (t := { t with clock := begin (t.ahead start).1 t.clock, tickers := [] })
      begun (fun k hk => Nat.le_trans (past k hk) (begin_ge_free _ _))
      (Nat.le_trans since (begin_ge_free _ _)) present starts log

/-- When nothing happens before a time, the time can come. -/
theorem OnTime.wait {start : Nat} (h : OnTime start t) (nothing : t.nextEvent? limit = none)
    (later : t.clock ≤ limit) : OnTime start { t with clock := limit } := by
  obtain ⟨⟨run?, one, acting, idle⟩, begun, past, since⟩ := h
  have late := late_of_next one nothing
  refine ⟨⟨run?, one, ?_, ?_⟩, begun, fun k hk => Nat.le_trans (past k hk) later,
    Nat.le_trans since later⟩
  · rintro run rfl
    obtain ⟨ends, before⟩ := acting run rfl
    have late : limit ≤ max t.clock run.ends := late
    refine ⟨ends, ?_⟩
    show limit ≤ (t.ahead start).2
    omega
  · rintro rfl
    obtain ⟨free, before⟩ := idle rfl
    have late : limit ≤ begin (t.ahead start).1 t.clock := late
    refine ⟨Nat.le_trans free later, ?_⟩
    show limit ≤ begin (t.ahead start).1 (t.ahead start).2
    unfold begin at before late ⊢
    omega

theorem Event.clock (event : t.Event limit t') : t.clock ≤ t'.clock ∧ t'.clock < limit := by
  cases event with
  | ended acting early => exact ⟨Nat.le_max_left _ _, early⟩
  | ticked idle early => exact ⟨begin_ge_free _ _, early⟩

/-- The clock and the interval that a schedule goes by. -/
def measure (t : Timeline) : Nat × Nat := (t.millisecond, t.interval)

theorem Event.measure (event : t.Event limit t') : t'.measure = t.measure := by
  cases event <;> rfl

/-! ## Commands -/

theorem OnTime.advance {start : Nat} (h : OnTime start t) (positive : 0 < t.interval)
    (duration : Nat) :
    OnTime start (t.advance duration) ∧ (t.advance duration).measure = t.measure := by
  obtain ⟨run?, one, -⟩ := h.one
  obtain ⟨onTime, same, before⟩ := runWithin_keeps (t.clock + duration)
    (fun s => OnTime start s ∧ s.measure = t.measure ∧ s.clock ≤ t.clock + duration)
    (by
      rintro s s' ⟨onTime, same, -⟩ next
      obtain ⟨run?, one, -⟩ := onTime.one
      have event := event_of_next one next
      exact ⟨onTime.event event, event.measure.trans same, Nat.le_of_lt event.clock.2⟩)
    (t.eventBound (t.clock + duration)) ⟨h, rfl, Nat.le_add_right _ _⟩
  have idle := (budget_eventBound positive one (t.clock + duration)).idle
  exact ⟨onTime.wait idle before, same⟩

theorem OnTime.obey {start : Nat} (h : OnTime start t) (positive : 0 < t.interval)
    (c : Command) : OnTime start (t.obey c) ∧ (t.obey c).measure = t.measure := by
  cases c with
  | direct index directive => exact ⟨⟨h.one, h.begun, h.past, h.since⟩, rfl⟩
  | prepare action => exact ⟨⟨h.one, h.begun, h.past, h.since⟩, rfl⟩
  | elapse duration => exact h.advance positive duration

theorem OnTime.run {start : Nat} (cs : List Command) (h : OnTime start t)
    (positive : 0 < t.interval) :
    OnTime start (run cs t) ∧ (run cs t).measure = t.measure := by
  have interval : ∀ {s : Timeline}, s.measure = t.measure → 0 < s.interval := fun same =>
    Nat.lt_of_lt_of_eq positive (congrArg Prod.snd same).symm
  refine run_keeps (fun s => OnTime start s ∧ s.measure = t.measure) (fun _ => True) ?_ cs t
    (fun _ _ => trivial) ⟨h, rfl⟩
  rintro s c - ⟨onTime, same⟩
  obtain ⟨after, still⟩ := onTime.obey (interval same) c
  exact ⟨after, still.trans same⟩

/-- What the events of a schedule, the passing of time and some commands keep. -/
structure Lasting (ok : Command → Prop) (P : Timeline → Prop) : Prop where
  event : ∀ {limit t t'}, P t → t.Event limit t' → P t'
  wait : ∀ {t : Timeline} (clock : Nat), P t → P { t with clock }
  prepare : ∀ {t : Timeline} (action : Action), P t → P { t with action }
  direct : ∀ {t : Timeline} (index : Nat) (directive : LinkDirective),
    ok (.direct index directive) → P t → P (t.obey (.direct index directive))

theorem OnTime.run_lasting {start : Nat} {ok : Command → Prop} {P : Timeline → Prop}
    (lasting : Lasting ok P) (cs : List Command) (h : OnTime start t)
    (positive : 0 < t.interval) (hok : ∀ c ∈ cs, ok c) (ht : P t) : P (t.run cs) := by
  refine (run_keeps (fun s => (OnTime start s ∧ 0 < s.interval) ∧ P s) ok ?_ cs t hok
    ⟨⟨h, positive⟩, ht⟩).2
  rintro s c fine ⟨⟨onTime, interval⟩, hs⟩
  obtain ⟨after, still⟩ := onTime.obey interval c
  refine ⟨⟨after, Nat.lt_of_lt_of_eq interval (congrArg Prod.snd still).symm⟩, ?_⟩
  cases c with
  | direct index directive => exact lasting.direct index directive fine hs
  | prepare action => exact lasting.prepare action hs
  | elapse duration =>
    have passed := runWithin_keeps (s.clock + duration)
      (fun r => OnTime start r ∧ P r)
      (by
        intro r r' ⟨onTime, hr⟩ next
        obtain ⟨run?, one, -⟩ := onTime.one
        have event := event_of_next one next
        exact ⟨onTime.event event, lasting.event hr event⟩)
      (s.eventBound (s.clock + duration)) ⟨onTime, hs⟩
    exact lasting.wait _ passed.2

/-- A schedule that starts has its first tick due at once. -/
theorem onTime_start (idle : t.tickers = []) (fresh : t.ticks = []) (positive : 0 < t.interval) :
    OnTime t.clock t.startTicker := by
  have started : t.startTicker = { t with tickers := [⟨t.clock, none⟩] } := by
    rw [startTicker, if_neg (Nat.ne_of_gt positive), idle, List.nil_append]
  rw [started]
  refine ⟨⟨none, ?_, nofun, fun _ => ?_⟩, ?_, ?_, Nat.le_refl _⟩
  · simp [ahead, durations, fresh, outlook]
  · simp [ahead, durations, fresh, outlook, begin]
  · simp [durations, fresh, beginnings]
  · simp [fresh]

/-- No time passes beyond the next tick without it. -/
theorem OnTime.reached {start : Nat} (h : OnTime start t) :
    t.clock ≤ begin (t.ahead start).1 (t.ahead start).2 := by
  obtain ⟨run?, -, acting, idle⟩ := h.one
  cases run? with
  | none => exact (idle rfl).2
  | some run => exact Nat.le_trans (acting run rfl).2 (begin_ge_free _ _)

/-- A tick begins when the ones before it say. -/
theorem OnTime.begun_at {start n : Nat} {k : Tick} (h : OnTime start t)
    (there : t.ticks[n]? = some k) :
    k.begun = begin (outlook t.leeway t.interval start start (t.durations.take n)).1
      (outlook t.leeway t.interval start start (t.durations.take n)).2 := by
  refine begin_of_beginnings t.durations n k.begun ?_
  rw [← h.begun, List.getElem?_map, there, Option.map_some]

/-- After a tick, the next one waits for its action and for the interval, no longer. -/
theorem OnTime.ahead_le {start n : Nat} {k : Tick} (h : OnTime start t)
    (there : t.ticks[n]? = some k) (last : t.ticks.length = n + 1) :
    begin (t.ahead start).1 (t.ahead start).2 ≤ max k.ended (k.begun + t.interval) := by
  have begun := h.begun_at there
  have split : t.durations = t.durations.take n ++ [k.duration] := by
    have here : t.durations[n]? = some k.duration := by
      rw [durations, List.getElem?_map, there, Option.map_some]
    have length : t.durations.length = n + 1 := by rw [durations, List.length_map, last]
    have whole := List.take_of_length_le (Nat.le_of_eq length)
    rw [List.take_add_one, here] at whole
    exact whole.symm
  have ahead : t.ahead start =
      (nextDue t.leeway t.interval
        (outlook t.leeway t.interval start start (t.durations.take n)).1 k.begun, k.ended) := by
    rw [Timeline.ahead, split, outlook_append, ← split, Tick.ended, begun]
    rfl
  have most := nextDue_le t.leeway t.interval _ _
    (Nat.le_trans (begin_ge_due _ _) (Nat.le_of_eq begun.symm))
  rw [ahead]
  unfold begin
  omega

end Timeline

end PeeringAgent.Reconciler
