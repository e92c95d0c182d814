import PeeringAgent.Proofs.Settings.Names
import PeeringAgent.Proofs.Settings.Policies
import PeeringAgent.Proofs.Supervisor.Departure
import PeeringAgent.Proofs.Supervisor.Impasse
import PeeringAgent.Proofs.Supervisor.Startup

/-!
# How the agent ends

The agent ends when a policy file is missing, when a session cannot connect, or when it
is told to while it watches. Then each session has been disconnected once or has never
been dialled. While a release waits for the answer to a push the agent does not notice
that it is told to end.
-/

set_option autoImplicit false

namespace PeeringAgent.Supervisor

open Dialogue

variable {d : Dialogue} {s s' : Supervisor} {k : Nat} {sessions : List SessionConfig}

/-- Something that the supervisor of these sessions may come to, whatever happens. -/
def Reached (sessions : List SessionConfig) (s : Supervisor) : Prop :=
  ∃ behaviour log acts, run? acts (ready sessions behaviour log) = some s

theorem Reached.standing (h : Reached sessions s) : Standing s := by
  obtain ⟨behaviour, log, acts, run⟩ := h
  exact standing_of_run acts (standing_ready sessions behaviour log) run

theorem Reached.orderly (h : Reached sessions s)
    (distinct : (sessions.map SessionConfig.name).Nodup) : Orderly s := by
  obtain ⟨behaviour, log, acts, run⟩ := h
  exact orderly_of_run acts (orderly_ready sessions behaviour log distinct) run

theorem Reached.configs (h : Reached sessions s) : s.configs = sessions := by
  obtain ⟨behaviour, log, acts, run⟩ := h
  rw [configs_of_run acts run, Supervisor.configs, ready, List.map_map]
  exact List.map_id sessions

/-- An agent that has stopped leaves no session with a connection. -/
theorem Standing.parted {cause : Cause} (h : Standing s) (mode : s.mode = .stopped cause)
    (among : d ∈ s.dialogues) : Parted d := by
  obtain ⟨i, found⟩ := List.mem_iff_getElem?.mp among
  have placed := h.placed i d found
  rw [mode] at placed
  obtain ⟨spares, covers⟩ := placed
  have disconnected (covered : cause.Covers i) : Parted d :=
    ((covers covered).disconnected (h.sane i d found)).parted
  cases cause with
  | told => exact disconnected trivial
  | refused n e =>
    rcases Nat.lt_trichotomy i n with less | here | greater
    · exact disconnected less
    · exact (spares.1 here).refused.parted
    · exact parted_of_unconnected (spares.2 greater)

/-- A session that cannot connect is the last that the agent has to do with. -/
theorem failing_of_run {behaviour : SessionConfig → Behaviour} {log : List Log.Line}
    {acts : List Act} {e : SessionError}
    (run : run? acts (ready sessions behaviour log) = some s)
    (failure : failure? acts (ready sessions behaviour log) = some (k, e)) :
    (∀ a ∈ acts, a.isStartup = true) ∧ Failing sessions k e s := by
  have reached : Reached sessions s := ⟨behaviour, log, acts, run⟩
  obtain ⟨-, bound, leaves, startups⟩ := cause_of_failure acts run failure
  rw [← length_of_run acts run] at bound
  have failing := failing_of_standing reached.standing leaves bound
  rw [reached.configs] at failing
  exact ⟨startups, failing⟩

/-- Connecting all sessions in one go, up to the first that cannot connect. -/
theorem failed_of_startUp {behaviour : SessionConfig → Behaviour} (lines : List Log.Line)
    {c : SessionConfig} {e : SessionError} (found : sessions[k]? = some c)
    (fails : (Dialogue.new c (behaviour c)).connect.2 = .error e)
    (earlier : ∀ j c', j < k → sessions[j]? = some c' →
      (Dialogue.new c' (behaviour c')).connect.2 = .ok ()) :
    ∃ up, startUp lines (sessions.map fun c => .new c (behaviour c)) = up ∧ up.error = some e ∧
      Failed sessions k e up.dialogues ∧ ∃ before, up.log =
        before ++ Log.error (Log.tagged c.name e.message) ::
          (sessions.take k).map fun c => disconnected c.name := by
  have fresh (d : Dialogue) (among : d ∈ sessions.map fun c => .new c (behaviour c)) : Tidy d := by
    obtain ⟨c, -, rfl⟩ := List.mem_map.mp among
    exact tidy_new c (behaviour c)
  have first : refused? 0 (sessions.map fun c => .new c (behaviour c)) = some (k, e) := by
    rw [← Nat.zero_add k]
    refine refused_of_first (d := .new c (behaviour c)) _ 0 ?_ fails fun j d' less at_j => ?_
    · rw [List.getElem?_map, found]
      rfl
    · rw [List.getElem?_map] at at_j
      obtain ⟨c', at_j', rfl⟩ := Option.map_eq_some_iff.mp at_j
      exact earlier j c' less at_j'
  obtain ⟨acts, s, run, -, -, tidy, arrives⟩ :=
    exists_run_connectAll (sessions.map fun c => .new c (behaviour c)) [] lines fresh (by simp)
  rw [List.length_nil, first] at arrives
  obtain ⟨mode, ⟨d, before, at_k, told⟩, startup⟩ := arrives
  have reached : Reached sessions s := ⟨behaviour, lines, acts, run⟩
  have bound : k < s.dialogues.length := (List.getElem?_eq_some_iff.mp at_k).1
  obtain ⟨more, rest⟩ := exists_run_left mode (Nat.le_of_lt bound) tidy
  have last : Reached sessions (s.left (.refused k e)) := by
    refine ⟨behaviour, lines, acts ++ more, ?_⟩
    rw [run_append]
    exact (congrArg (Option.bind · _) run).trans rest
  have failing := failing_of_standing (k := k) (e := e) last.standing rfl (by
    rw [length_of_run more rest]
    exact bound)
  rw [last.configs] at failing
  have name : d.name = c.name := by
    have same : s.configs[k]? = some d.session.config := by
      rw [Supervisor.configs, List.getElem?_map, at_k]
      rfl
    rw [reached.configs, found] at same
    exact congrArg SessionConfig.name (Option.some.inj same).symm
  refine ⟨_, startup, rfl, failing.ended rfl, before, ?_⟩
  rw [left_log reached.standing mode tidy, told, reached.configs, Dialogue.tagged, name,
    List.append_assoc]
  rfl

/-- How an agent with these settings ends, and what can keep it from that. -/
structure Exits (files : Files Id) (arguments : List String)
    (environment : List (String × String)) (settings : Settings) : Prop where
  /-- Without one of its policy files the agent has no session and contacts nobody. -/
  unread : ∀ c ∈ settings.connections, ∀ cause, Policy.load files c.policies = .error cause →
    ∃ first, settings.connections.findSome? (Connection.flaw? files) = some first ∧
      ∀ behaviour, (Program.start files arguments environment behaviour).dialogues = [] ∧
        (Program.start files arguments environment behaviour).result = .error (.policies first)
  /-- The first session that cannot connect ends the program with its error. The sessions
  before it go in their order. -/
  refused : ∀ sessions behaviour k c e, (settings.sessions files).2 = .ok sessions →
    sessions[k]? = some c → (Dialogue.new c (behaviour c)).connect.2 = .error e →
    (∀ j c', j < k → sessions[j]? = some c' →
      (Dialogue.new c' (behaviour c')).connect.2 = .ok ()) →
    (Program.start files arguments environment behaviour).result = .error (.session e) ∧
      Failed sessions k e (Program.start files arguments environment behaviour).dialogues ∧
      ∃ before, (Program.start files arguments environment behaviour).log =
        before ++ Log.error (Log.tagged c.name e.message) ::
          (sessions.take k).map fun c => disconnected c.name
  /-- Whatever happens to the sessions meanwhile, nothing but connecting comes before the
  failure, and nothing but leaving after it. -/
  failed : ∀ sessions behaviour log acts s k e, (settings.sessions files).2 = .ok sessions →
    run? acts (ready sessions behaviour log) = some s →
    failure? acts (ready sessions behaviour log) = some (k, e) →
    (∀ a ∈ acts, a.isStartup = true) ∧ Failing sessions k e s
  /-- A signal, or the lack of one, makes the agent leave while it watches. -/
  interrupted : ∀ sessions s, (settings.sessions files).2 = .ok sessions → Reached sessions s →
    s.mode = .watching →
    (∃ m, s.act? .interrupt = some m ∧ ∀ acts s', run? acts m = some s' → Leaves s s') ∧
      ∀ cause, ∃ m, s.act? (.signalLost cause) = some m ∧
        ∀ acts s', run? acts m = some s' → Leaves s s'
  /-- While names are distinct a release is of a session whose stream is over, and puts the
  signal off until its tasks are through, unless a push is held up. -/
  released : (settings.connections.map Connection.clientName).Nodup →
    ∀ sessions s i, (settings.sessions files).2 = .ok sessions → Reached sessions s →
    s.mode = .releasing i → ∃ d, s.dialogues[i]? = some d ∧ d.session.receiver = .ended ∧
      (d.coordinator.held = false → ∃ (moves : List Move) (n : Nat) (s' : Supervisor),
        run? (moves.map (fun m => .session i (.move m)) ++ List.replicate n .carryOn) s =
          some s' ∧ s'.mode = .watching)
  /-- As long as a push is not answered the agent goes on with its release, deaf to signals,
  and disconnects nothing. -/
  unanswered : ∀ sessions s i d, (settings.sessions files).2 = .ok sessions →
    Reached sessions s → s.mode = .releasing i → s.dialogues[i]? = some d →
    d.session.dispatcher = .pushing → d.coordinator.held = true →
    ∀ acts s', (∀ a ∈ acts, a.answers i = false) → run? acts s = some s' → Impasse s s' i
  /-- However it has ended, no session is left with a connection. -/
  parted : ∀ sessions s cause, (settings.sessions files).2 = .ok sessions →
    Reached sessions s → s.mode = .stopped cause → ∀ d ∈ s.dialogues, Parted d

theorem exits_of_accepted (files : Files Id) (arguments : List String)
    (environment : List (String × String)) (settings : Settings)
    (accepted : Settings.load files (Program.settingsPath arguments environment) environment =
      .ok settings) : Exits files arguments environment settings := by
  constructor
  case unread =>
    intro c among cause broken
    obtain ⟨first, flaw⟩ := exists_flaw among broken
    exact ⟨first, flaw, fun behaviour => Program.start_of_flaw behaviour accepted flaw⟩
  case refused =>
    intro sessions behaviour k c e loaded found fails earlier
    obtain ⟨lines, up, made, start⟩ := Program.start_of_sessions behaviour accepted loaded
    obtain ⟨up', startup, error, failed, log⟩ :=
      failed_of_startUp lines found fails earlier
    obtain rfl : up = up' := made.trans startup
    rw [start, error]
    exact ⟨rfl, failed, log⟩
  case failed =>
    intro sessions behaviour log acts s k e loaded run failure
    exact failing_of_run run failure
  case interrupted =>
    intro sessions s loaded reached watching
    have leaves (reason : Log.Line) (acts : List Act) (s' : Supervisor)
        (run : run? acts (s.leave reason) = some s') : Leaves s s' :=
      leaves_of_run acts reached.standing watching run
    exact ⟨⟨_, if_pos watching, leaves _⟩, fun cause => ⟨_, if_pos watching, leaves _⟩⟩
  case released =>
    intro distinct sessions s i loaded reached releasing
    have made : Settings.sessionsOf files settings settings.connections =
        ((settings.sessions files).1, .ok sessions) := Prod.ext rfl loaded
    have names : (sessions.map SessionConfig.name).Nodup := by
      rw [names_of_sessionsOf settings.connections made]
      exact distinct
    have orderly := reached.orderly names
    obtain ⟨d, found, gone⟩ := (faithful_of_orderly orderly).gone i releasing
    exact ⟨d, found, gone, exists_run_watching_again orderly releasing found⟩
  case unanswered =>
    intro sessions s i d loaded reached releasing found pushing held acts s' silent run
    exact (waits_of_standing reached.standing releasing found pushing held).run acts silent run
  case parted =>
    intro sessions s cause loaded reached stopped d among
    exact reached.standing.parted stopped among

/-! ## Two connections -/

def pairEnvironment : List (String × String) :=
  [("COORD_CLIENT_ASN", "a"),
   ("COORD_CLIENT_CONNECTIONS",
    "[\x7bcoord=a,clientName=e,policies=p\x7d,\x7bcoord=b,clientName=f,policies=p\x7d]")]

/-- The connections of the namesakes, with a name of its own for the second. -/
def pairSettings : Settings :=
  { twinSettings with
    connections := [twinConnection "a", (twinConnection "b").rename fun _ => "f"] }

def pairSessions : List SessionConfig :=
  pairSettings.connections.map (Settings.Connection.session pairSettings [])

/-- The second coordinator cannot be reached. -/
def pairBehaviour (c : SessionConfig) : Behaviour :=
  if c.address = "b" then { Behaviour.agreeable with connectError := some .closed } else .agreeable

def pairLayer : Settings.Value :=
  .dict [("asn", .text "a"), ("connections", .array [twinValue "a",
    .dict [("coord", .text "b"), ("clientName", .text "f"), ("policies", .text "p")]])]

theorem layer_pair : Settings.Variable.layer pairEnvironment = pairLayer := by
  have asn : Settings.Variable.keys? "COORD_CLIENT_ASN" = some ["asn"] := by decide +kernel
  have connections : Settings.Variable.keys? "COORD_CLIENT_CONNECTIONS" =
      some ["connections"] := by decide +kernel
  have text : Settings.Variable.parse "a" = .text "a" := by cbv
  have array : Settings.Variable.parse
      "[\x7bcoord=a,clientName=e,policies=p\x7d,\x7bcoord=b,clientName=f,policies=p\x7d]" =
      .array [twinValue "a",
        .dict [("coord", .text "b"), ("clientName", .text "f"), ("policies", .text "p")]] := by
    cbv
  simp only [Settings.Variable.layer, pairEnvironment, List.foldl_cons, List.foldl_nil, asn,
    connections, text, array, Settings.Variable.nest]
  cbv

theorem load_pair : Settings.load twinFiles (Program.settingsPath [] pairEnvironment)
    pairEnvironment = .ok pairSettings := by
  have noFile : twinFiles.locate (Program.settingsPath [] pairEnvironment) = none := rfl
  have spelled : Settings.ofLayers? (.dict []) pairLayer = some pairSettings := by cbv
  have secrets : Settings.withSecrets twinFiles pairSettings.connections =
      .ok pairSettings.connections := rfl
  have lawful : pairSettings.violation? = none := by decide +kernel
  simp only [Settings.load, Settings.fileLayer, noFile, layer_pair, spelled, secrets, bind, pure]
  rw [Settings.check, lawful]

theorem sessions_pair : (pairSettings.sessions twinFiles).2 = .ok pairSessions := by
  simp only [Settings.sessions, pairSettings, twinConnection, Connection.rename,
    Settings.sessionsOf, policies_twin, bind, pure]
  rfl

/-- Where only the second coordinator cannot be reached, the first session is left too. -/
theorem pair_exits : (pairSettings.connections.map Connection.clientName).Nodup ∧
    Exits twinFiles [] pairEnvironment pairSettings ∧
    (Program.start twinFiles [] pairEnvironment pairBehaviour).result =
      .error (.session (.connect "b" .closed)) := by
  have exits := exits_of_accepted twinFiles [] pairEnvironment pairSettings load_pair
  refine ⟨by decide, exits, ?_⟩
  refine (exits.refused pairSessions pairBehaviour 1 _ _ sessions_pair rfl rfl ?_).1
  intro j c less at_j
  obtain rfl : j = 0 := by omega
  cases at_j
  rfl

/-- Both sessions are up. The first becomes primary and pushes, its push is not answered, and
its stream ends. -/
def exampleSilence : List Act :=
  List.replicate 11 .carryOn ++
    [.session 0 .hold, .session 0 (.arrive (.message (.arbitration ⟨none, 0, .primary⟩))),
      .session 0 (.move .receive), .session 0 (.move .dispatchArbitration),
      .session 0 (.move .startPush), .session 0 .finish, .session 0 (.move .receive), .hear]

/-- Up, with nothing called that closes it. -/
def Uncut (d : Dialogue) : Prop :=
  d.session.phase = .streaming ∧ d.session.connected = true ∧ Call.close ∉ d.coordinator.calls

instance : DecidablePred Uncut := fun d =>
  inferInstanceAs (Decidable (d.session.phase = .streaming ∧ d.session.connected = true ∧
    Call.close ∉ d.coordinator.calls))

theorem LeftAlone.uncut {d d' : Dialogue} (h : LeftAlone d d') (up : Uncut d) : Uncut d' := by
  obtain ⟨streaming, connected, unclosed⟩ := up
  obtain ⟨pushes, calls⟩ := h.calls
  refine ⟨h.phase.trans streaming, h.connected.trans connected, fun closes => ?_⟩
  rw [calls] at closes
  rcases List.mem_append.mp closes with before | pushed
  · exact unclosed before
  · cases List.eq_of_mem_replicate pushed

/-- From then on the agent cannot be told to end, and neither session is disconnected for as
long as there is no answer. -/
theorem exampleSilence_deaf : Settings.load twinFiles (Program.settingsPath [] pairEnvironment)
      pairEnvironment = .ok pairSettings ∧
    (pairSettings.connections.map Connection.clientName).Nodup ∧
    ∃ s, run? exampleSilence (ready pairSessions (fun _ => .agreeable) []) = some s ∧
      ∀ acts s', (∀ a ∈ acts, a.answers 0 = false) → run? acts s = some s' →
        s'.act? .interrupt = none ∧ s'.act? .carryOn = none ∧ s'.dialogues.length = 2 ∧
        ∀ d ∈ s'.dialogues, Uncut d := by
  have seen : (run? exampleSilence (ready pairSessions (fun _ => .agreeable) [])).map
      (fun s => (s.mode, s.dialogues.map fun d => (d.session.dispatcher, d.coordinator.held))) =
      some (.releasing 0, [(.pushing, true), (.waiting, false)]) := by decide
  have uncut : (run? exampleSilence (ready pairSessions (fun _ => .agreeable) [])).map
      (fun s => decide (∀ d ∈ s.dialogues, Uncut d)) = some true := by decide
  -- Where the run arrives has been computed; what comes then is true of every continuation.
  obtain ⟨s, run, facts⟩ := Option.map_eq_some_iff.mp seen
  obtain ⟨mode, sessions⟩ := Prod.mk.inj facts
  obtain ⟨e, rest, dialogues, first, others⟩ := List.map_eq_cons_iff.mp sessions
  obtain ⟨pushing, held⟩ := Prod.mk.inj first
  rw [run, Option.map_some, Option.some.injEq, decide_eq_true_eq] at uncut
  have reached : Reached pairSessions s := ⟨fun _ => .agreeable, [], exampleSilence, run⟩
  have found : s.dialogues[0]? = some e := by
    rw [dialogues]
    rfl
  have waits := waits_of_standing reached.standing mode found pushing held
  refine ⟨load_pair, by decide, s, run, fun acts s' silent more => ?_⟩
  obtain ⟨-, still, alone⟩ := waits.run acts silent more
  have length := length_of_run acts more
  refine ⟨still _ (by simp), still _ (by simp), ?_, fun d among => ?_⟩
  · rw [length, ← List.length_map, sessions]
    rfl
  · obtain ⟨j, at_j⟩ := List.mem_iff_getElem?.mp among
    have bound : j < s.dialogues.length := by
      rw [← length]
      exact (List.getElem?_eq_some_iff.mp at_j).1
    obtain ⟨d', found', left⟩ := alone j _ (List.getElem?_eq_getElem bound)
    obtain rfl : d = d' := Option.some.inj (at_j.symm.trans found')
    exact left.uncut (uncut _ (List.getElem_mem bound))

end PeeringAgent.Supervisor
