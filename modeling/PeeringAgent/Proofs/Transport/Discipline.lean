import PeeringAgent.Proofs.Transport.Connections

/-!
# The discipline of a channel

Whatever calls are made on a channel in whatever order: the connection that came with it
is for its first stream, every other call dials its own, and after closing there is
neither.
-/

set_option autoImplicit false

namespace PeeringAgent.Network

namespace Client

variable {c d : Client} {r : Request} {n : Nat} {first s : Socket}

/-! ## Runs -/

/-- The client after some steps. -/
def after (c : Client) (steps : List Step) : Client := (c.run steps).1

theorem after_cons (c : Client) (s : Step) (ss : List Step) :
    c.after (s :: ss) = (c.step s).1.after ss := rfl

theorem after_append (c : Client) (ss ts : List Step) :
    c.after (ss ++ ts) = (c.after ss).after ts := by
  induction ss generalizing c with
  | nil => rfl
  | cons s ss ih =>
    rw [List.cons_append, after_cons, after_cons, ih]

/-- What the steps so far have made of a client. -/
structure Kept (address : String) (credentials : Wire.Credentials) (contacts : Nat → Contact)
    (before : List Step) (c : Client) : Prop where
  address : c.channel.address = address
  credentials : c.channel.credentials = credentials
  network : c.contacts = contacts
  closed : c.channel.closed = true ↔ .close ∈ before
  pending : c.channel.pending = true ↔ .call .stream ∉ before ∧ .close ∉ before
  pool : Pool (.new (contacts 0)) c

variable {address : String} {credentials : Wire.Credentials} {contacts : Nat → Contact}
  {before : List Step}

theorem Kept.step (kept : Kept address credentials contacts before c) (s : Step) :
    Kept address credentials contacts (before ++ [s]) (c.step s).1 where
  address := by
    rw [step_channel]
    cases s with
    | call r => rw [Channel.route_address, kept.address]
    | _ => exact kept.address
  credentials := by
    rw [step_channel]
    cases s with
    | call r => rw [Channel.route_credentials, kept.credentials]
    | _ => exact kept.credentials
  network := (step_contacts c s).trans kept.network
  closed := by
    rw [step_channel, List.mem_append, List.mem_singleton]
    cases s with
    | call r => simp [kept.closed]
    | close => simp [Channel.close]
    | _ => simp [kept.closed]
  pending := by
    rw [step_channel, List.mem_append, List.mem_append, List.mem_singleton, List.mem_singleton]
    cases s with
    | call r =>
      rw [Channel.route_pending, kept.pending]
      simp [and_right_comm, eq_comm]
    | close => simp [Channel.close]
    | _ => simp [kept.pending]
  pool := kept.pool.touch (c.touches_step s kept.pool.held) pending_step

theorem Kept.run (kept : Kept address credentials contacts before c) (steps : List Step) :
    Kept address credentials contacts (before ++ steps) (c.after steps) := by
  induction steps generalizing before c with
  | nil =>
    rw [List.append_nil]
    exact kept
  | cons s ss ih =>
    have rest := ih (kept.step s)
    rwa [List.append_assoc] at rest

theorem Left.run (left : Left n s c) (pool : Pool first c) (steps : List Step) :
    Left n s (c.after steps) := by
  induction steps generalizing c with
  | nil => exact left
  | cons st ss ih =>
    have touches := c.touches_step st pool.held
    exact ih (left.touch touches pending_step) (pool.touch touches pending_step)

theorem eq_of_connect (connected : connect address credentials contacts = .ok c) :
    c = { channel := .new address credentials, contacts, dials := 1,
          sockets := [.new (contacts 0)], streams := [] } := by
  rw [connect, dial] at connected
  cases reachable : (contacts 0).unreachable with
  | some obstacle =>
    simp only [new, reachable] at connected
    cases connected
  | none =>
    simp only [new, reachable] at connected
    cases connected
    rfl

theorem kept_connect (connected : connect address credentials contacts = .ok c) :
    Kept address credentials contacts [] c := by
  rw [eq_of_connect connected]
  exact ⟨rfl, rfl, rfl, by simp [Channel.new], by simp [Channel.new],
    ⟨Nat.zero_lt_one, List.nodup_nil, nofun, fun _ => ⟨rfl, List.not_mem_nil⟩⟩⟩

theorem kept_after (connected : connect address credentials contacts = .ok c)
    (before : List Step) : Kept address credentials contacts before (c.after before) :=
  (kept_connect connected).run before

/-! ## Senders -/

/-- A stream whose sender has been closed. -/
def Sealed (i : Nat) (c : Client) : Prop := ∃ n, c.streams[i]? = some ⟨n, true⟩

theorem sealed_closeSend {i : Nat} (opened : i < c.streams.length) :
    Sealed i (c.step (.closeSend i)).1 := by
  refine ⟨c.streams[i].socket, ?_⟩
  show (c.streams.modify i fun s => { s with sendClosed := true })[i]? = _
  rw [List.getElem?_modify, List.getElem?_eq_getElem opened]
  simp

theorem Sealed.of_streams {i : Nat} (h : Sealed i c) (streams : d.streams = c.streams) :
    Sealed i d := by
  obtain ⟨n, present⟩ := h
  exact ⟨n, streams ▸ present⟩

theorem Sealed.openedOn {i : Nat} (h : Sealed i c) (n : Nat) (r : Request)
    (result : Except Halt Wire.Reply) : Sealed i (c.openedOn n r result) := by
  obtain ⟨m, present⟩ := h
  have short : i < c.streams.length := (List.getElem?_eq_some_iff.mp present).1
  rcases openedOn_streams c r n result with streams | ⟨-, streams⟩
  · exact ⟨m, streams ▸ present⟩
  · exact ⟨m, by rw [streams, List.getElem?_append_left short, present]⟩

theorem Sealed.call {i : Nat} (h : Sealed i c) (r : Request) : Sealed i (c.call r).1 := by
  apply call_keeps
  · have connects := c.connects r
    generalize c.connection r = connection at connects
    cases connects <;> exact h
  · exact fun d n operation kept => kept.of_streams (d.through_streams n operation)
  · exact fun d n result kept => kept.openedOn n r result

theorem Sealed.step {i : Nat} (h : Sealed i c) (s : Step) : Sealed i (c.step s).1 := by
  cases s with
  | call r => exact h.call r
  | send j request =>
    rw [Client.step]
    split
    · exact h.of_streams (by simp)
    · exact h
  | receive j =>
    rw [Client.step]
    split
    · exact h
    · exact h.of_streams (by simp)
  | closeSend j =>
    obtain ⟨n, present⟩ := h
    refine ⟨n, ?_⟩
    show (c.streams.modify j fun s => { s with sendClosed := true })[i]? = _
    rw [List.getElem?_modify, present]
    simp
  | close => exact h

theorem Sealed.run {i : Nat} (h : Sealed i c) (steps : List Step) : Sealed i (c.after steps) := by
  induction steps generalizing c with
  | nil => exact h
  | cons s ss ih => exact ih (h.step s)

theorem Sealed.send {i : Nat} (h : Sealed i c) (request : Wire.StreamRequest) :
    c.step (.send i request) = (c, some (.failed .closed)) := by
  obtain ⟨n, present⟩ := h
  simp only [Client.step, present]

/-! ## The discipline -/

/-- What a call may do, after which steps, and what comes of it. -/
inductive Called (address : String) (contacts : Nat → Contact) (frame : Frame.Bytes)
    (before : List Step) (c : Client) (r : Request) : Client × Option Answer → Prop
  | refused {d : Client} (closed : .close ∈ before) (dials : d.dials = c.dials)
      (sockets : d.sockets = c.sockets) :
      Called address contacts frame before c r (d, some (.failed .closed))
  | first {d : Client} {used : Socket} {result : Except Halt Wire.Reply}
      (unclosed : .close ∉ before) (stream : r = .stream) (unused : .call .stream ∉ before)
      (fresh : c.sockets[0]? = some (.new (contacts 0)))
      (conversation : Conversation (contacts 0) frame (used, result))
      (dials : d.dials = c.dials) (sockets : d.sockets = c.sockets.set 0 used) :
      Called address contacts frame before c r (d, Answer.of? (.ofReply r) result)
  | unreachable {d : Client} {obstacle : Obstacle} (unclosed : .close ∉ before)
      (again : r = .stream → .call .stream ∈ before)
      (unreachable : (contacts c.dials).unreachable = some obstacle)
      (dials : d.dials = c.dials + 1) (sockets : d.sockets = c.sockets) :
      Called address contacts frame before c r
        (d, Answer.of? (.ofReply r) (.error (obstacle.halt (.connect address))))
  | dialed {d : Client} {used : Socket} {result : Except Halt Wire.Reply}
      (unclosed : .close ∉ before) (again : r = .stream → .call .stream ∈ before)
      (reachable : (contacts c.dials).unreachable = none)
      (conversation : Conversation (contacts c.dials) frame (used, result))
      (dials : d.dials = c.dials + 1) (sockets : d.sockets = c.sockets ++ [used]) :
      Called address contacts frame before c r (d, Answer.of? (.ofReply r) result)

theorem Kept.called (kept : Kept address credentials contacts before c) (r : Request) :
    Called address contacts (c.channel.requestFrame r) before c r (c.step (.call r)) := by
  have unclosed (h : c.channel.closed = false) : .close ∉ before := fun closed => by
    rw [kept.closed.mpr closed] at h
    cases h
  have again (live : c.channel.closed = false) (h : c.channel.pending = false) :
      .call .stream ∈ before := by
    by_contra never
    rw [kept.pending.mpr ⟨never, unclosed live⟩] at h
    cases h
  have calls := c.calls r kept.pool.held
  show Called _ _ _ _ _ _ ((c.call r).1, Answer.of? (.ofReply r) (c.call r).2)
  generalize c.call r = result at calls
  cases calls with
  | refused closed dials sockets taken => exact .refused (kept.closed.mp closed) dials sockets
  | first live stream pending unused dials sockets taken =>
    have fresh := (kept.pool.unused pending).1
    cases fresh.symm.trans unused
    exact .first (unclosed live) stream (kept.pending.mp pending).1 fresh
      (conversation_ask _ _) dials sockets
  | unreachable live other unreachable dials sockets taken =>
    rw [kept.network] at unreachable
    rw [kept.address]
    exact .unreachable (unclosed live) (fun stream => again live (other stream)) unreachable
      dials sockets
  | dialed live other reachable fresh dials sockets taken =>
    subst fresh
    rw [kept.network] at reachable sockets
    rw [kept.network]
    exact .dialed (unclosed live) (fun stream => again live (other stream)) reachable
      (conversation_ask _ _) dials sockets

/-- The connection of a call that is no stream is left alone. -/
theorem Kept.left (kept : Kept address credentials contacts before c) {r : Request}
    (unary : r ≠ .stream) (new : c.sockets.length ≤ n)
    (present : (c.step (.call r)).1.sockets[n]? = some s) :
    Left n s (c.step (.call r)).1 := by
  have positive := kept.pool.nonempty
  have free : n ∉ c.taken := fun taken => Nat.not_le_of_lt (kept.pool.within n taken) new
  have calls := c.calls r kept.pool.held
  have apart : n ∉ (c.call r).1.taken := by
    generalize c.call r = result at calls
    cases calls with
    | refused closed dials sockets taken => rwa [taken]
    | first live stream pending unused dials sockets taken => exact absurd stream unary
    | unreachable live other unreachable dials sockets taken => rwa [taken]
    | dialed live other reachable fresh dials sockets taken =>
      rcases taken with taken | ⟨stream, -⟩
      · rwa [taken]
      · exact absurd stream unary
  exact ⟨present, apart, fun _ => by omega⟩

/-- How a client keeps to its connections, whatever steps have been taken before. -/
structure Disciplined (address : String) (credentials : Wire.Credentials)
    (contacts : Nat → Contact) (start : Client) : Prop where
  called : ∀ before r, ∃ frame, r.Asks credentials frame ∧
    Called address contacts frame before (start.after before) r
      ((start.after before).step (.call r))
  /-- Only the first stream uses the connection that came with the channel. -/
  once : ∀ before r,
    ((start.after before).step (.call r)).1.sockets[0]? ≠ (start.after before).sockets[0]? →
      r = .stream ∧ .call .stream ∉ before ∧ .close ∉ before
  separate : ∀ before, (start.after before).taken.Nodup
  /-- What a call has written on its connection is all that is ever written there. -/
  settled : ∀ before r n s later, r ≠ .stream → (start.after before).sockets.length ≤ n →
    ((start.after before).step (.call r)).1.sockets[n]? = some s →
      (start.after (before ++ .call r :: later)).sockets[n]? = some s
  muted : ∀ before i later request, i < (start.after before).streams.length →
    (start.after (before ++ .closeSend i :: later)).step (.send i request) =
      (start.after (before ++ .closeSend i :: later), some (.failed .closed))

theorem disciplined_of_connect {start : Client}
    (connected : connect address credentials contacts = .ok start) :
    Disciplined address credentials contacts start where
  called before r := by
    have kept := kept_after connected before
    have asks := Request.asks_requestFrame (start.after before).channel r
    rw [kept.credentials] at asks
    exact ⟨_, asks, kept.called r⟩
  once before r changed := by
    have kept := kept_after connected before
    have called := kept.called r
    generalize (start.after before).step (.call r) = result at called changed
    cases called with
    | refused closed dials sockets => exact absurd (by rw [sockets]) changed
    | first unclosed stream unused => exact ⟨stream, unused, unclosed⟩
    | unreachable unclosed again unreachable dials sockets =>
      exact absurd (by rw [sockets]) changed
    | dialed unclosed again reachable conversation dials sockets =>
      exact absurd (by rw [sockets, List.getElem?_append_left kept.pool.nonempty]) changed
  separate before := (kept_after connected before).pool.distinct
  settled before r n s later unary new present := by
    have kept := kept_after connected before
    have left := kept.left unary new present
    rw [after_append, after_cons]
    exact (left.run (kept.step (.call r)).pool later).present
  muted before i later request opened := by
    rw [after_append, after_cons]
    exact ((sealed_closeSend opened).run later).send request

/-- A coordinator that accepts, then one that cannot be reached, then one that refuses
without a reason and complains. -/
def exampleContacts : Nat → Contact
  | 0 => .saying (Frame.writeLine ['{', '}'])
  | 1 => { Contact.saying [] with unreachable := some (.fails "Connection refused") }
  | _ => .saying (Frame.encode (Wire.Reply.toJson ⟨some "", ["unknown ISD"]⟩))

def exampleCredentials : Wire.Credentials := ⟨"1-ff00:0:110", "edge-1", "s3cret"⟩

def exampleClient : Client where
  channel := .new "127.0.0.1:5000" exampleCredentials
  contacts := exampleContacts
  dials := 1
  sockets := [.new (exampleContacts 0)]
  streams := []

theorem exampleClient_disciplined :
    connect "127.0.0.1:5000" exampleCredentials exampleContacts = .ok exampleClient ∧
    Disciplined "127.0.0.1:5000" exampleCredentials exampleContacts exampleClient :=
  ⟨rfl, disciplined_of_connect rfl⟩

/-- A stream, a call that finds nobody, one that is refused, and one too late. -/
example : (exampleClient.run
    [.openStream, .setPolicies [], .setPolicies [], .close, .setPolicies []]).2 =
    [some .done, some (.failed (.connect "127.0.0.1:5000" "Connection refused")),
     some (.failed (.rejected "")), some .done, some (.failed .closed)] := by rfl

end Client

end PeeringAgent.Network
