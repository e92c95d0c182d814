import PeeringAgent.Proofs.Supervisor.Pursuit

/-!
# Starting up

Connecting all sessions in one go is a run of the supervisor, errand by errand. The
log lines of a session that wait for the end of connecting are the ones that the
supervisor takes after each errand.
-/

set_option autoImplicit false

namespace PeeringAgent.Supervisor

open Dialogue

variable {d d' : Dialogue} {s : Supervisor} {k : Nat}

/-- What the supervisor does once a session has connected, or has failed to. -/
def conclude (s : Supervisor) (k : Nat) (d : Dialogue) : Except SessionError Unit → Supervisor
  | .ok () => (s.update k d).proceed k d
  | .error e => (s.update k d).giveUp k d e

theorem conclude_update (result : Except SessionError Unit) :
    (s.update k d).conclude k d' result = s.conclude k (d'.preface d.log d.ended) result := by
  cases result with
  | ok success =>
    rw [conclude, conclude, update_update]
    rfl
  | error e =>
    rw [conclude, conclude, update_update]
    rfl

/-- A failure to connect, under the index of its session. -/
def refusal? (k : Nat) : Except SessionError Unit → Option (Nat × SessionError)
  | .ok () => none
  | .error e => some (k, e)

theorem failureAt_of_carryOn {result : Except SessionError Unit} (mode : s.mode = .starting k)
    (found : s.dialogues[k]? = some d) (went : d.carryOn? = some (d', result)) :
    s.failureAt? .carryOn = refusal? k result := by
  simp only [Supervisor.failureAt?, mode, found, Option.bind_some, Dialogue.failureAt?, went]
  cases result <;> rfl

/-- Errands in one go are a run. -/
theorem exists_run_attempt (errands : List Errand) (mode : s.mode = .starting k)
    (found : s.dialogues[k]? = some d) (agenda : d.agenda = errands) (busy : errands ≠ []) :
    ∃ acts, run? acts s =
      some (s.conclude k (attempt errands d).1 (attempt errands d).2) ∧
      failure? acts s = refusal? k (attempt errands d).2 := by
  induction errands generalizing s d with
  | nil => exact absurd rfl busy
  | cons errand rest ih =>
    have idle : d.agenda ≠ [] := by
      rw [agenda]
      exact busy
    rw [attempt]
    cases result : ({ d with agenda := rest } : Dialogue).perform errand with
    | mk d' outcome =>
      have went : d.carryOn? = some (d', outcome) := by
        simp only [Dialogue.carryOn?, agenda, result]
      have told := failureAt_of_carryOn mode found went
      cases outcome with
      | error e =>
        have step : s.act? .carryOn = some (s.conclude k d' (.error e)) := by
          simp only [act?, Supervisor.carryOn?, mode, connectNext?, found, if_neg idle, went]
          rfl
        refine ⟨[.carryOn], ?_, ?_⟩
        · rw [run?, step]
          rfl
        · rw [failure?, told]
          rfl
      | ok success =>
        have left : d'.agenda = rest := perform_agenda errand result
        by_cases last : rest = []
        · have step : s.act? .carryOn = some (s.conclude k d' (.ok ())) := by
            simp only [act?, Supervisor.carryOn?, mode, connectNext?, found, if_neg idle, went,
              if_pos (left.trans last)]
            rfl
          refine ⟨[.carryOn], ?_, ?_⟩
          · rw [run?, step, last]
            rfl
          · rw [failure?, told, step, last]
            rfl
        · have step : s.act? .carryOn = some (s.update k d') := by
            have more : d'.agenda ≠ [] := by
              rw [left]
              exact last
            simp only [act?, Supervisor.carryOn?, mode, connectNext?, found, if_neg idle, went,
              if_neg more]
          obtain ⟨acts, run, failure⟩ :=
            ih (s := s.update k d') mode (update_same found) left last
          have whole := attempt_preface d'.log d'.ended rest d'.clear
          rw [preface_clear d'] at whole
          refine ⟨.carryOn :: acts, ?_, ?_⟩
          · rw [run?, step, Option.bind_some, run, conclude_update]
            show _ = some (s.conclude k (attempt rest d').1 (attempt rest d').2)
            rw [whole]
          · rw [failure?, told, step, Option.bind_some, failure]
            show _ = refusal? k (attempt rest d').2
            rw [whole]
            rfl

/-- Connecting a session in one go is a run. -/
theorem exists_run_connect (mode : s.mode = .starting k) (found : s.dialogues[k]? = some d)
    (tidy : Tidy d) : ∃ acts, run? acts s = some (s.conclude k d.connect.1 d.connect.2) ∧
      failure? acts s = refusal? k d.connect.2 := by
  have told : s.failureAt? .carryOn = none := by
    simp only [Supervisor.failureAt?, mode, found, Option.bind_some, Dialogue.failureAt?,
      Dialogue.carryOn?, tidy.agenda, Option.map_none]
  have begun : s.act? .carryOn = some (s.update k d.beginConnect) := by
    simp only [act?, Supervisor.carryOn?, mode, connectNext?, found, if_pos tidy.agenda]
  obtain ⟨acts, run, failure⟩ := exists_run_attempt (s := s.update k d.beginConnect)
    (d := d.beginConnect.clear) d.beginConnect.agenda mode (update_same found) rfl
    (List.cons_ne_nil _ _)
  have whole := attempt_preface d.beginConnect.log d.beginConnect.ended d.beginConnect.agenda
    d.beginConnect.clear
  rw [preface_clear] at whole
  refine ⟨.carryOn :: acts, ?_, ?_⟩
  · rw [run?, begun, Option.bind_some, run, conclude_update, connect, whole]
  · rw [failure?, told, begun, Option.none_or, Option.bind_some, failure, connect, whole]

/-- The first session that cannot connect, counted from an index. -/
def refused? (n : Nat) : List Dialogue → Option (Nat × SessionError)
  | [] => none
  | d :: ds => (refusal? n d.connect.2).or (refused? (n + 1) ds)

theorem refused_of_first {e : SessionError} (ds : List Dialogue) (n : Nat) {k : Nat}
    (found : ds[k]? = some d) (failed : d.connect.2 = .error e)
    (earlier : ∀ j d', j < k → ds[j]? = some d' → d'.connect.2 = .ok ()) :
    refused? n ds = some (n + k, e) := by
  induction ds generalizing n k with
  | nil => cases found
  | cons d₀ ds ih =>
    cases k with
    | zero =>
      obtain rfl := Option.some.inj found
      rw [refused?, failed]
      rfl
    | succ k =>
      have up : d₀.connect.2 = .ok () := earlier 0 d₀ (Nat.succ_pos k) rfl
      have later := ih (n + 1) found fun j d' less at_j =>
        earlier (j + 1) d' (Nat.succ_lt_succ less) at_j
      rw [refused?, up, later, Nat.add_right_comm, Nat.add_assoc]
      rfl

/-- The supervisor is about to leave: it has told why, and disconnects what is up. -/
structure TurnsBack (s : Supervisor) (startup : Startup) (k : Nat) (e : SessionError) : Prop where
  mode : s.mode = .leaving 0 (.refused k e)
  told : ∃ d earlier, s.dialogues[k]? = some d ∧
    s.log = earlier ++ [Log.error (d.tagged e.message)]
  startup : startup = ⟨(s.left (.refused k e)).dialogues, (s.left (.refused k e)).log, some e⟩

/-- Where the supervisor is once its sessions are up, or one of them has failed to connect. -/
def Arrives (s : Supervisor) (startup : Startup) : Option (Nat × SessionError) → Prop
  | none => s.mode = .watching ∧ startup = ⟨s.dialogues, s.log, none⟩
  | some (k, e) => s.TurnsBack startup k e

/-- Connecting sessions in one go is a run. -/
theorem exists_run_connectAll (ds up : List Dialogue) (log : List Log.Line)
    (fresh : ∀ d ∈ ds, Tidy d) (before : ∀ d ∈ up, Tidy d) : ∃ acts s,
      run? acts { dialogues := up ++ ds, notices := [], mode := .starting up.length, log } =
        some s ∧
      failure? acts { dialogues := up ++ ds, notices := [], mode := .starting up.length, log } =
        refused? up.length ds ∧
      s.notices = [] ∧ (∀ d ∈ s.dialogues, Tidy d) ∧
      s.Arrives (connectAll up log ds) (refused? up.length ds) := by
  induction ds generalizing up log with
  | nil =>
    have none : (up ++ ([] : List Dialogue))[up.length]? = none := by simp
    refine ⟨[.carryOn], { dialogues := up, notices := [], mode := .watching, log }, ?_, ?_, rfl,
      before, rfl, rfl⟩
    · simp only [run?, act?, Supervisor.carryOn?, connectNext?, none]
      rw [List.append_nil]
      rfl
    · simp only [failure?, act?, Supervisor.failureAt?, Supervisor.carryOn?, connectNext?, none]
      rfl
  | cons d ds ih =>
    have found : (up ++ d :: ds)[up.length]? = some d := by simp
    have tidy := fresh d List.mem_cons_self
    obtain ⟨acts, run, failure⟩ := exists_run_connect
      (s := { dialogues := up ++ d :: ds, notices := [], mode := .starting up.length, log })
      rfl found tidy
    have told : d.connect.1.ended = [] := (attempt_ended _ _).trans tidy.told
    have idle : d.connect.1.agenda = [] := by
      obtain ⟨-, -, idle⟩ := run_attempt (d := d.beginConnect) _ rfl
      exact idle
    rw [connectAll, refused?]
    cases result : d.connect with
    | mk d' outcome =>
      rw [result] at run told failure idle
      have tidy' : Tidy d'.clear := ⟨idle, rfl⟩
      have cleared (log : List Log.Line) : absorb log d' = (log ++ d'.log, d'.clear) := by
        rw [absorb, clear, ← show d'.ended = [] from told]
      have placed : (up ++ d :: ds).set up.length d'.clear = up ++ d'.clear :: ds := by
        rw [List.set_append_right _ _ (Nat.le_refl _), Nat.sub_self, List.set_cons_zero]
      cases outcome with
      | ok success =>
        cases success
        obtain ⟨more, s, rest, later, arrived⟩ := ih (up ++ [d'.clear])
          (log ++ d'.log ++ [Log.info (d'.tagged ("Session " ++ d'.session.phase.title))])
          (fun e among => fresh e (List.mem_cons_of_mem _ among))
          fun e among => (List.mem_append.mp among).elim (before e) fun last => by
            rw [List.mem_singleton.mp last]
            exact tidy'
        have reached : conclude
            { dialogues := up ++ d :: ds, notices := [], mode := .starting up.length, log }
            up.length d' (.ok ()) =
            { dialogues := (up ++ [d'.clear]) ++ ds, notices := []
              mode := .starting (up ++ [d'.clear]).length
              log := log ++ d'.log ++
                [Log.info (d'.tagged ("Session " ++ d'.session.phase.title))] } := by
          rw [conclude, update, ← clear, placed, show d'.ended = [] from told]
          simp [proceed, say]
        rw [reached] at run
        rw [List.length_append, List.length_singleton] at arrived
        refine ⟨acts ++ more, s, ?_, ?_, ?_⟩
        · rw [run_append, run]
          exact rest
        · rw [failure_append, failure, run, Option.bind_some, later, List.length_append,
            List.length_singleton]
        · simp only [cleared]
          exact arrived
      | error e =>
        refine ⟨acts, _, run, failure, ?_, ?_, ?_⟩
        · simp [conclude, giveUp, say, update, show d'.ended = [] from told]
        · intro e' among
          rw [conclude, giveUp, say, update, ← clear, placed] at among
          rcases List.mem_append.mp among with earlier | here
          · exact before e' earlier
          · rcases List.mem_cons.mp here with rfl | later
            · exact tidy'
            · exact fresh e' (List.mem_cons_of_mem _ later)
        · refine ⟨rfl, ⟨d'.clear, log ++ d'.log, ?_, rfl⟩, ?_⟩
          · rw [conclude, giveUp, say, update, ← clear, placed]
            simp
          · simp only [cleared]
            rw [conclude, giveUp, say, update, ← clear, placed]
            simp only [left, Cause.reach, Cause.release, Cause.lastLines, List.take_left,
              List.drop_left, List.append_assoc, List.append_nil]
            rfl

/-! ## A start without failures -/

/-- The stream is open, and nothing is on it. -/
structure Attentive (d : Dialogue) : Prop where
  receiver : d.session.receiver = .reading
  phase : d.session.phase = .streaming
  inbox : d.coordinator.inbox = []
  supervised : d.supervised = true
  told : d.ended = []

theorem Attentive.clear (h : Attentive d) : Attentive d.clear :=
  ⟨h.receiver, h.phase, h.inbox, h.supervised, rfl⟩

/-- An errand of registration succeeds, whatever the coordinator answers. -/
theorem exists_of_registration (errand : Errand) (h : Attentive d)
    (registers : errand.registers = true) :
    ∃ d', d.perform errand = (d', .ok ()) ∧ Attentive d' ∧ d'.name = d.name := by
  obtain ⟨receiver, phase, inbox, supervised, told⟩ := h
  cases errand with
  | bid =>
    refine ⟨d.sendBid, rfl, ?_⟩
    simp only [sendBid]
    split <;> exact ⟨⟨receiver, phase, inbox, supervised, told⟩, rfl⟩
  | portRange range =>
    refine ⟨d.setPortRange range, rfl, ?_⟩
    simp only [setPortRange]
    split <;> exact ⟨⟨receiver, phase, inbox, supervised, told⟩, rfl⟩
  | startDispatcher => exact ⟨_, rfl, ⟨receiver, phase, inbox, supervised, told⟩, rfl⟩
  | dial | openStream | closeSend | close | dismiss | retire => cases registers

theorem exists_of_registrations (errands : List Errand) (h : Attentive d)
    (registers : ∀ errand ∈ errands, errand.registers = true) :
    ∃ d', attempt errands d = (d', .ok ()) ∧ Attentive d' ∧ d'.name = d.name := by
  induction errands generalizing d with
  | nil => exact ⟨d, rfl, h, rfl⟩
  | cons errand rest ih =>
    have attentive : Attentive { d with agenda := rest } :=
      ⟨h.receiver, h.phase, h.inbox, h.supervised, h.told⟩
    obtain ⟨d₁, performed, attentive₁, name₁⟩ :=
      exists_of_registration errand attentive (registers errand List.mem_cons_self)
    obtain ⟨d', attempted, attentive', name'⟩ :=
      ih attentive₁ fun e among => registers e (List.mem_cons_of_mem _ among)
    refine ⟨d', ?_, attentive', name'.trans name₁⟩
    rw [attempt, performed]
    exact attempted

/-- The session as soon as its stream is open. -/
def opened (c : SessionConfig) : Dialogue :=
  let dialled := ({ (Dialogue.new c .agreeable).beginConnect with
    agenda := .openStream :: c.registration } : Dialogue).dial.1
  ({ dialled with agenda := c.registration } : Dialogue).openStream.1

/-- A session comes up when its coordinator agrees to everything. -/
theorem exists_of_connect (c : SessionConfig) : ∃ d', (Dialogue.new c .agreeable).connect =
    (d', .ok ()) ∧ Attentive d' ∧ d'.name = c.name := by
  have attentive : Attentive (opened c) := ⟨rfl, rfl, rfl, rfl, rfl⟩
  obtain ⟨d', attempted, attentive', name⟩ := exists_of_registrations c.registration attentive (by
    intro errand among
    obtain ⟨before, rest, split⟩ := List.append_of_mem among
    exact SessionConfig.registers_of_registration split)
  exact ⟨d', attempted, attentive', name⟩

theorem connectAll_agreeable (sessions : List SessionConfig) (up : List Dialogue)
    (log : List Log.Line) (attentive : ∀ d ∈ up, Attentive d) :
    (connectAll up log (sessions.map (Dialogue.new · .agreeable))).error = none ∧
    (connectAll up log (sessions.map (Dialogue.new · .agreeable))).dialogues.map Dialogue.name =
      up.map Dialogue.name ++ sessions.map SessionConfig.name ∧
    ∀ d ∈ (connectAll up log (sessions.map (Dialogue.new · .agreeable))).dialogues,
      Attentive d := by
  induction sessions generalizing up log with
  | nil => exact ⟨rfl, (List.append_nil _).symm, attentive⟩
  | cons c sessions ih =>
    obtain ⟨d', connected, attentive', name⟩ := exists_of_connect c
    rw [List.map_cons, connectAll, connected]
    have more (d : Dialogue) (among : d ∈ up ++ [{ d' with log := [] }]) : Attentive d := by
      rcases List.mem_append.mp among with old | new
      · exact attentive d old
      · obtain rfl := List.mem_singleton.mp new
        exact ⟨attentive'.receiver, attentive'.phase, attentive'.inbox, attentive'.supervised,
          attentive'.told⟩
    obtain ⟨success, names, attentive⟩ := ih (up ++ [{ d' with log := [] }])
      (log ++ d'.log ++ [Log.info (d'.tagged ("Session " ++ d'.session.phase.title))]) more
    refine ⟨success, names.trans ?_, attentive⟩
    rw [List.map_append, List.append_assoc, List.map_singleton, List.map_cons, ← name]
    rfl

theorem tidy_new (c : SessionConfig) (behaviour : Behaviour) : Tidy (.new c behaviour) := ⟨rfl, rfl⟩

/-- No session is refused when there is no error. -/
theorem refused_of_connectAll {ds up : List Dialogue} {log : List Log.Line} {n : Nat}
    (arrives : s.Arrives (connectAll up log ds) (refused? n ds)) :
    (connectAll up log ds).error = (refused? n ds).map Prod.snd := by
  cases refused : refused? n ds with
  | none =>
    rw [refused] at arrives
    rw [arrives.2]
    rfl
  | some failure =>
    rw [refused] at arrives
    rw [arrives.startup]
    rfl

/-- A start at which all coordinators agree to everything. -/
theorem exists_run_watching (sessions : List SessionConfig) :
    ∃ acts s, run? acts (begin sessions) = some s ∧ s.mode = .watching ∧ s.notices = [] ∧
      s.dialogues.map Dialogue.name = sessions.map SessionConfig.name ∧
      ∀ d ∈ s.dialogues, Attentive d := by
  have fresh (d : Dialogue) (among : d ∈ sessions.map (Dialogue.new · .agreeable)) : Tidy d := by
    obtain ⟨c, -, rfl⟩ := List.mem_map.mp among
    exact tidy_new c .agreeable
  obtain ⟨acts, s, run, -, silent, -, arrives⟩ :=
    exists_run_connectAll (sessions.map (Dialogue.new · .agreeable)) [] [] fresh (by simp)
  obtain ⟨success, names, attentive⟩ := connectAll_agreeable sessions [] [] (by simp)
  rw [List.length_nil] at arrives
  have error := refused_of_connectAll arrives
  rw [success] at error
  rw [Option.map_eq_none_iff.mp error.symm] at arrives
  obtain ⟨watching, startup⟩ := arrives
  rw [startup] at names attentive
  exact ⟨acts, s, run, watching, silent, names, attentive⟩

end PeeringAgent.Supervisor
