import Mathlib.Data.List.Nodup
import PeeringAgent.Proofs.Transport.Conversation

/-!
# What a step does to connections

A call touches the first connection, one that it dials, or none, and a stream its own.
So streams never share a connection, and nobody comes back to one that no stream has.
-/

set_option autoImplicit false

namespace PeeringAgent.Network

namespace Client

variable {α : Type} {c : Client} {r : Request} {n : Nat}

/-- The connections that streams are open on. -/
def taken (c : Client) : List Nat := c.streams.map Stream.socket

/-! ## Operations -/

section Through

variable (c n) (operation : Socket → Socket × Except Halt α)

@[simp] theorem through_channel : (c.through n operation).1.channel = c.channel := by
  unfold through
  split <;> rfl

@[simp] theorem through_contacts : (c.through n operation).1.contacts = c.contacts := by
  unfold through
  split <;> rfl

@[simp] theorem through_dials : (c.through n operation).1.dials = c.dials := by
  unfold through
  split <;> rfl

@[simp] theorem through_streams : (c.through n operation).1.streams = c.streams := by
  unfold through
  split <;> rfl

/-- Only one connection is touched. -/
theorem through_sockets :
    (c.through n operation).1.sockets = c.sockets ∨
      ∃ s, (c.through n operation).1.sockets = c.sockets.set n s := by
  unfold through
  split
  · exact .inl rfl
  · exact .inr ⟨_, rfl⟩

end Through

theorem through_of_some {s : Socket} (present : c.sockets[n]? = some s)
    (operation : Socket → Socket × Except Halt α) :
    c.through n operation =
      ({ c with sockets := c.sockets.set n (operation s).1 }, (operation s).2) := by
  rw [through, present]

section OpenedOn

variable (c n r) (result : Except Halt Wire.Reply)

@[simp] theorem openedOn_channel : (c.openedOn n r result).channel = c.channel := by
  unfold openedOn
  split <;> rfl

@[simp] theorem openedOn_contacts : (c.openedOn n r result).contacts = c.contacts := by
  unfold openedOn
  split <;> rfl

@[simp] theorem openedOn_dials : (c.openedOn n r result).dials = c.dials := by
  unfold openedOn
  split <;> rfl

@[simp] theorem openedOn_sockets : (c.openedOn n r result).sockets = c.sockets := by
  unfold openedOn
  split <;> rfl

theorem openedOn_streams :
    (c.openedOn n r result).streams = c.streams ∨
      r = .stream ∧ (c.openedOn n r result).streams = c.streams ++ [⟨n, false⟩] := by
  unfold openedOn
  split
  · exact .inr ⟨rfl, rfl⟩
  · exact .inl rfl

end OpenedOn

/-- How a request gets its connection. -/
inductive Connects (c : Client) (r : Request) : Client × Except Halt Nat → Prop
  | refused (closed : c.channel.closed = true) :
      Connects c r ({ c with channel := (c.channel.route r).1 }, .error (.failed .closed))
  | first (unclosed : c.channel.closed = false) (stream : r = .stream)
      (pending : c.channel.pending = true) :
      Connects c r ({ c with channel := (c.channel.route r).1 }, .ok 0)
  | unreachable {obstacle : Obstacle} (unclosed : c.channel.closed = false)
      (again : r = .stream → c.channel.pending = false)
      (unreachable : (c.contacts c.dials).unreachable = some obstacle) :
      Connects c r ({ c with channel := (c.channel.route r).1, dials := c.dials + 1 },
        .error (obstacle.halt (.connect c.channel.address)))
  | dialed (unclosed : c.channel.closed = false)
      (again : r = .stream → c.channel.pending = false)
      (reachable : (c.contacts c.dials).unreachable = none) :
      Connects c r
        ({ c with channel := (c.channel.route r).1, dials := c.dials + 1,
                  sockets := c.sockets ++ [.new (c.contacts c.dials)] }, .ok c.sockets.length)

theorem connects (c : Client) (r : Request) : c.Connects r (c.connection r) := by
  rw [connection]
  cases closed : c.channel.closed with
  | true =>
    simp only [c.channel.route_of_closed r closed]
    exact .refused closed
  | false =>
    by_cases first : r = .stream ∧ c.channel.pending = true
    · obtain ⟨rfl, pending⟩ := first
      simp only [c.channel.route_of_pending closed pending]
      exact .first closed rfl pending
    · have again : r = .stream → c.channel.pending = false := by
        intro stream
        exact Bool.eq_false_iff.mpr fun pending => first ⟨stream, pending⟩
      simp only [c.channel.route_of_again r closed again, dial, Channel.route_address]
      cases reachable : (c.contacts c.dials).unreachable with
      | some obstacle => exact .unreachable closed again reachable
      | none => exact .dialed closed again reachable

/-! ## Calls -/

theorem openedOn_taken (c : Client) (n : Nat) (r : Request) (result : Except Halt Wire.Reply) :
    (c.openedOn n r result).taken = c.taken ∨
      r = .stream ∧ (c.openedOn n r result).taken = c.taken ++ [n] := by
  unfold openedOn
  split
  · exact .inr ⟨rfl, List.map_append⟩
  · exact .inl rfl

/-- What a call does to a client that still has its first connection while it is to be
used, and how it ends. -/
inductive Calls (c : Client) (r : Request) : Client × Except Halt Wire.Reply → Prop
  | refused {d : Client} (closed : c.channel.closed = true) (dials : d.dials = c.dials)
      (sockets : d.sockets = c.sockets) (taken : d.taken = c.taken) :
      Calls c r (d, .error (.failed .closed))
  | first {d : Client} {s : Socket} (unclosed : c.channel.closed = false)
      (stream : r = .stream) (pending : c.channel.pending = true)
      (unused : c.sockets[0]? = some s) (dials : d.dials = c.dials)
      (sockets : d.sockets = c.sockets.set 0 (s.ask (c.channel.requestFrame r)).1)
      (taken : d.taken = c.taken ∨ d.taken = c.taken ++ [0]) :
      Calls c r (d, (s.ask (c.channel.requestFrame r)).2)
  | unreachable {d : Client} {obstacle : Obstacle} (unclosed : c.channel.closed = false)
      (again : r = .stream → c.channel.pending = false)
      (unreachable : (c.contacts c.dials).unreachable = some obstacle)
      (dials : d.dials = c.dials + 1) (sockets : d.sockets = c.sockets)
      (taken : d.taken = c.taken) :
      Calls c r (d, .error (obstacle.halt (.connect c.channel.address)))
  | dialed {d : Client} {s : Socket} (unclosed : c.channel.closed = false)
      (again : r = .stream → c.channel.pending = false)
      (reachable : (c.contacts c.dials).unreachable = none)
      (fresh : s = .new (c.contacts c.dials)) (dials : d.dials = c.dials + 1)
      (sockets : d.sockets = c.sockets ++ [(s.ask (c.channel.requestFrame r)).1])
      (taken : d.taken = c.taken ∨
        r = .stream ∧ d.taken = c.taken ++ [c.sockets.length]) :
      Calls c r (d, (s.ask (c.channel.requestFrame r)).2)

theorem calls (c : Client) (r : Request)
    (held : c.channel.pending = true → ∃ s, c.sockets[0]? = some s) : c.Calls r (c.call r) := by
  have frame : (c.channel.route r).1.requestFrame r = c.channel.requestFrame r := by
    rw [Channel.requestFrame, Channel.route_credentials]
    rfl
  have connects := c.connects r
  rw [call]
  generalize c.connection r = connection at connects
  cases connects with
  | refused closed => exact .refused closed rfl rfl rfl
  | first unclosed stream pending =>
    obtain ⟨s, present⟩ := held pending
    simp only
    rw [through_of_some (c := { c with channel := (c.channel.route r).1 }) present]
    simp only [frame]
    refine .first unclosed stream pending present (by simp) (by simp) ?_
    exact (openedOn_taken _ 0 r _).imp id And.right
  | unreachable unclosed again unreachable =>
    exact .unreachable unclosed again unreachable rfl rfl rfl
  | dialed unclosed again reachable =>
    have present : (c.sockets ++ [Socket.new (c.contacts c.dials)])[c.sockets.length]? =
        some (.new (c.contacts c.dials)) := List.getElem?_concat_length
    simp only
    rw [through_of_some (c := { c with channel := _, dials := _, sockets := _ }) present]
    simp only [frame]
    refine .dialed unclosed again reachable rfl (by simp) (by simp) ?_
    exact openedOn_taken _ _ r _

/-- What each part of a call keeps, the call keeps. -/
theorem call_keeps {P : Client → Prop} (c : Client) (r : Request)
    (connection : P (c.connection r).1)
    (through : ∀ (c : Client) n (operation : Socket → Socket × Except Halt Wire.Reply),
      P c → P (c.through n operation).1)
    (openedOn : ∀ (c : Client) n result, P c → P (c.openedOn n r result)) : P (c.call r).1 := by
  rw [call]
  generalize c.connection r = result at connection
  obtain ⟨d, halt | n⟩ := result
  · exact connection
  · exact openedOn _ n _ (through d n _ connection)

@[simp] theorem call_channel (c : Client) (r : Request) :
    (c.call r).1.channel = (c.channel.route r).1 := by
  apply call_keeps (P := fun d => d.channel = (c.channel.route r).1)
  · have connects := c.connects r
    generalize c.connection r = connection at connects
    cases connects <;> rfl
  · exact fun d n operation kept => (d.through_channel n operation).trans kept
  · exact fun d n result kept => (d.openedOn_channel r n result).trans kept

@[simp] theorem call_contacts (c : Client) (r : Request) : (c.call r).1.contacts = c.contacts := by
  apply call_keeps (P := fun d => d.contacts = c.contacts)
  · have connects := c.connects r
    generalize c.connection r = connection at connects
    cases connects <;> rfl
  · exact fun d n operation kept => (d.through_contacts n operation).trans kept
  · exact fun d n result kept => (d.openedOn_contacts r n result).trans kept

/-! ## Steps -/

theorem step_contacts (c : Client) (s : Step) : (c.step s).1.contacts = c.contacts := by
  cases s with
  | call r => exact c.call_contacts r
  | send i request =>
    rw [step]
    split <;> simp
  | receive i =>
    rw [step]
    split <;> simp
  | closeSend i => rfl
  | close => rfl

/-- A channel changes with calls and when it is closed. -/
theorem step_channel (c : Client) (s : Step) :
    (c.step s).1.channel = match s with
      | .call r => (c.channel.route r).1
      | .close => c.channel.close
      | _ => c.channel := by
  cases s with
  | call r => exact c.call_channel r
  | send i request =>
    rw [step]
    split <;> simp
  | receive i =>
    rw [step]
    split <;> simp
  | closeSend i => rfl
  | close => rfl

/-- What a step does to the connections and to the streams on them. -/
inductive Touches (c d : Client) : Prop
  | still (sockets : d.sockets = c.sockets) (taken : d.taken = c.taken)
  | own {n : Nat} {s : Socket} (own : n ∈ c.taken) (sockets : d.sockets = c.sockets.set n s)
      (taken : d.taken = c.taken)
  | first {s : Socket} (pending : c.channel.pending = true)
      (past : d.channel.pending = false) (sockets : d.sockets = c.sockets.set 0 s)
      (taken : d.taken = c.taken ∨ d.taken = c.taken ++ [0])
  | dialed {s : Socket} (sockets : d.sockets = c.sockets ++ [s])
      (taken : d.taken = c.taken ∨ d.taken = c.taken ++ [c.sockets.length])

theorem mem_taken {c : Client} {i : Nat} {stream : Stream} (present : c.streams[i]? = some stream) :
    stream.socket ∈ c.taken :=
  List.mem_map.mpr ⟨stream, List.mem_of_getElem? present, rfl⟩

/-- An operation on the connection of a stream. -/
theorem touches_through {c : Client} {n : Nat} (own : n ∈ c.taken)
    (operation : Socket → Socket × Except Halt α) : c.Touches (c.through n operation).1 := by
  have taken : (c.through n operation).1.taken = c.taken := by
    rw [Client.taken, through_streams]
    rfl
  rcases through_sockets c n operation with sockets | ⟨s, sockets⟩
  · exact .still sockets taken
  · exact .own own sockets taken

theorem taken_modify (c : Client) (i : Nat) {f : Stream → Stream}
    (same : ∀ s, (f s).socket = s.socket) :
    ({ c with streams := c.streams.modify i f } : Client).taken = c.taken := by
  apply List.ext_getElem?
  intro j
  simp only [taken, List.getElem?_map, List.getElem?_modify, Option.map_eq_map, Option.map_map]
  congr 1
  funext s
  simp only [Function.comp]
  split
  · exact same s
  · rfl

theorem touches_step (c : Client) (s : Step)
    (held : c.channel.pending = true → ∃ s, c.sockets[0]? = some s) :
    c.Touches (c.step s).1 := by
  cases s with
  | call r =>
    have past : r = .stream → (c.call r).1.channel.pending = false := by
      rintro rfl
      rw [call_channel]
      rfl
    have calls := c.calls r held
    show c.Touches (c.call r).1
    generalize c.call r = result at calls past
    cases calls with
    | refused closed dials sockets taken => exact .still sockets taken
    | first unclosed stream pending unused dials sockets taken =>
      exact .first pending (past stream) sockets taken
    | unreachable unclosed again unreachable dials sockets taken => exact .still sockets taken
    | dialed unclosed again reachable fresh dials sockets taken =>
      exact .dialed sockets (taken.imp id And.right)
  | send i request =>
    rw [step]
    split
    case h_1 present => exact touches_through (mem_taken present) _
    case h_2 => exact .still rfl rfl
  | receive i =>
    rw [step]
    split
    case h_1 => exact .still rfl rfl
    case h_2 present => exact touches_through (mem_taken present) _
  | closeSend i => exact .still rfl (c.taken_modify i fun _ => rfl)
  | close => exact .still rfl rfl

theorem pending_step {c : Client} {s : Step} (h : (c.step s).1.channel.pending = true) :
    c.channel.pending = true := by
  rw [step_channel] at h
  cases s with
  | call r => exact ((Channel.route_pending _ _).mp h).1
  | close => cases h
  | send | receive | closeSend => exact h

/-! ## Connections of their own -/

/-- Every stream has a connection of its own, and none has the first one while that is to
be used. -/
structure Pool (first : Socket) (c : Client) : Prop where
  nonempty : 0 < c.sockets.length
  distinct : c.taken.Nodup
  within : ∀ n ∈ c.taken, n < c.sockets.length
  unused : c.channel.pending = true → c.sockets[0]? = some first ∧ 0 ∉ c.taken

/-- A connection that nobody comes back to. -/
structure Left (n : Nat) (s : Socket) (c : Client) : Prop where
  present : c.sockets[n]? = some s
  free : n ∉ c.taken
  used : c.channel.pending = true → n ≠ 0

variable {d : Client} {first : Socket} {s : Socket}

theorem Pool.held (pool : Pool first c) (pending : c.channel.pending = true) :
    ∃ s, c.sockets[0]? = some s := ⟨first, (pool.unused pending).1⟩

theorem Pool.touch (pool : Pool first c) (touches : c.Touches d)
    (later : d.channel.pending = true → c.channel.pending = true) : Pool first d := by
  have more (m : Nat) (fresh : m ∉ c.taken)
      (taken : d.taken = c.taken ∨ d.taken = c.taken ++ [m]) : d.taken.Nodup := by
    rcases taken with taken | taken
    · rw [taken]
      exact pool.distinct
    · rw [taken, ← List.concat_eq_append]
      exact pool.distinct.concat fresh
  have inside (m length : Nat) (grown : c.sockets.length ≤ length) (short : m < length)
      (taken : d.taken = c.taken ∨ d.taken = c.taken ++ [m]) :
      ∀ n ∈ d.taken, n < length := by
    intro n hn
    rcases taken with taken | taken
    · exact Nat.lt_of_lt_of_le (pool.within n (taken ▸ hn)) grown
    · rcases List.mem_append.mp (taken ▸ hn) with old | new
      · exact Nat.lt_of_lt_of_le (pool.within n old) grown
      · rwa [List.mem_singleton.mp new]
  cases touches with
  | still sockets taken =>
    refine ⟨by rw [sockets]; exact pool.nonempty, by rw [taken]; exact pool.distinct, ?_, ?_⟩
    · rw [taken, sockets]
      exact pool.within
    · intro pending
      rw [taken, sockets]
      exact pool.unused (later pending)
  | @own n s own sockets taken =>
    have length : d.sockets.length = c.sockets.length := by rw [sockets, List.length_set]
    refine ⟨length ▸ pool.nonempty, by rw [taken]; exact pool.distinct, ?_, ?_⟩
    · rw [taken, length]
      exact pool.within
    · intro pending
      obtain ⟨present, free⟩ := pool.unused (later pending)
      have other : n ≠ 0 := fun same => free (same ▸ own)
      rw [taken, sockets, List.getElem?_set_ne other]
      exact ⟨present, free⟩
  | first pending past sockets taken =>
    have length : d.sockets.length = c.sockets.length := by rw [sockets, List.length_set]
    refine ⟨length ▸ pool.nonempty, more 0 (pool.unused pending).2 taken, ?_, ?_⟩
    · rw [length]
      exact inside 0 _ (Nat.le_refl _) pool.nonempty taken
    · intro pending'
      rw [past] at pending'
      cases pending'
  | dialed sockets taken =>
    have length : d.sockets.length = c.sockets.length + 1 := by
      rw [sockets, List.length_append, List.length_singleton]
    have fresh : c.sockets.length ∉ c.taken := fun h => Nat.lt_irrefl _ (pool.within _ h)
    refine ⟨by rw [length]; exact Nat.succ_pos _, more _ fresh taken, ?_, ?_⟩
    · rw [length]
      exact inside _ _ (Nat.le_succ _) (Nat.lt_succ_self _) taken
    · intro pending
      obtain ⟨present, free⟩ := pool.unused (later pending)
      refine ⟨by rw [sockets, List.getElem?_append_left pool.nonempty, present], ?_⟩
      rcases taken with taken | taken
      · rwa [taken]
      · rw [taken, List.mem_append, List.mem_singleton]
        exact not_or.mpr ⟨free, Nat.ne_of_lt pool.nonempty⟩

theorem Left.touch (left : Left n s c) (touches : c.Touches d)
    (later : d.channel.pending = true → c.channel.pending = true) : Left n s d := by
  have short : n < c.sockets.length := (List.getElem?_eq_some_iff.mp left.present).1
  have used : d.channel.pending = true → n ≠ 0 := fun pending => left.used (later pending)
  have apart (m : Nat) (other : n ≠ m)
      (taken : d.taken = c.taken ∨ d.taken = c.taken ++ [m]) : n ∉ d.taken := by
    rcases taken with taken | taken
    · rw [taken]
      exact left.free
    · rw [taken, List.mem_append, List.mem_singleton]
      exact not_or.mpr ⟨left.free, other⟩
  cases touches with
  | still sockets taken =>
    exact ⟨by rw [sockets, left.present], by rw [taken]; exact left.free, used⟩
  | @own m s own sockets taken =>
    have other : m ≠ n := fun same => left.free (same ▸ own)
    exact ⟨by rw [sockets, List.getElem?_set_ne other, left.present],
      by rw [taken]; exact left.free, used⟩
  | first pending past sockets taken =>
    have other := left.used pending
    exact ⟨by rw [sockets, List.getElem?_set_ne other.symm, left.present],
      apart 0 other taken, used⟩
  | dialed sockets taken =>
    exact ⟨by rw [sockets, List.getElem?_append_left short, left.present],
      apart _ (Nat.ne_of_lt short) taken, used⟩

end Client

end PeeringAgent.Network
