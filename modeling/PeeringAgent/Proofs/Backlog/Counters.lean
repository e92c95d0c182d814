import PeeringAgent.Backlog.History

/-!
# The counters of a watched queue

While somebody receives, the depth that is counted is the number of items that wait. So
a send is reported when it takes the backlog past the mark and at no other time, and
between two such sends the backlog has fallen to the mark again.
-/

set_option autoImplicit false

namespace PeeringAgent.Backlog

variable {α : Type} {q e q' : Backlog α} {op : Op α}

/-- What an operation can make of a queue. -/
inductive Change (q : Backlog α) : Op α → Backlog α → Prop
  | accepted (item : α) (sender : q.senderOpen = true) (receiver : q.receiverOpen = true) :
      Change q (.send item) (q.send item).1
  | returned (item : α) (sender : q.senderOpen = true) (receiver : q.receiverOpen = false) :
      Change q (.send item) q
  | taken {item : α} {rest : List α} (receiver : q.receiverOpen = true)
      (next : q.waiting = item :: rest) : Change q .receive (q.taken rest)
  | nothing (receiver : q.receiverOpen = true) (empty : q.waiting = []) : Change q .receive q
  | senderGone (sender : q.senderOpen = true) : Change q .dropSender q.dropSender
  | receiverGone (receiver : q.receiverOpen = true) : Change q .dropReceiver q.dropReceiver

theorem step_change (h : q.step? op = some e) : q.Change op e := by
  cases op with
  | send item =>
    obtain ⟨sender, rfl⟩ := Option.ite_none_right_eq_some.mp h |>.imp_right Option.some.inj
    cases receiver : q.receiverOpen with
    | true => exact .accepted item sender receiver
    | false =>
      rw [send_returned q item receiver]
      exact .returned item sender receiver
  | receive =>
    obtain ⟨receiver, rfl⟩ := Option.ite_none_right_eq_some.mp h |>.imp_right Option.some.inj
    cases waiting : q.waiting with
    | nil =>
      rw [show q.receive.1 = q by simp [receive, waiting]]
      exact .nothing receiver waiting
    | cons item rest =>
      rw [receive_cons q item rest waiting]
      exact .taken receiver waiting
  | dropSender =>
    obtain ⟨sender, rfl⟩ := Option.ite_none_right_eq_some.mp h |>.imp_right Option.some.inj
    exact .senderGone sender
  | dropReceiver =>
    obtain ⟨receiver, rfl⟩ := Option.ite_none_right_eq_some.mp h |>.imp_right Option.some.inj
    exact .receiverGone receiver

/-- A send to a receiver, counter by counter. -/
theorem send_open (item : α) (h : q.receiverOpen = true) :
    q.send item =
      ({ q with
          waiting := q.waiting ++ [item]
          depth := q.depth + 1
          peak := max q.peak (q.depth + 1)
          crossings := if q.depth = q.highWater then q.crossings + 1 else q.crossings },
       .accepted (q.depth == q.highWater)) := by
  have past : (q.depth + 1 == q.highWater + 1) = (q.depth == q.highWater) := by
    rw [Bool.eq_iff_iff]
    simp
  simp only [send, h, if_true, past, beq_iff_eq]

theorem size_send (item : α) (h : q.receiverOpen = true) : (q.send item).1.size = q.size + 1 := by
  simp [send_open item h, size]

theorem send_name (item : α) :
    (q.send item).1.name = q.name ∧ (q.send item).1.highWater = q.highWater := by
  unfold send
  dsimp only
  split <;> exact ⟨rfl, rfl⟩

/-! ## One history -/

/-- What is known of a queue after some operations: what went in and came out, and how far
each send took the backlog. -/
structure Counted (start : Backlog α) (done : List (Op α)) (put got : List α)
    (risen : List (Nat × Nat)) (q : Backlog α) : Prop where
  name : q.name = start.name
  mark : q.highWater = start.highWater
  sender : q.senderOpen = false ↔ Op.dropSender ∈ done
  receiver : q.receiverOpen = false ↔ Op.dropReceiver ∈ done
  order : got <+: put
  whole : q.receiverOpen = true → got ++ q.waiting = put
  forgotten : q.receiverOpen = false → q.waiting = []
  depth : q.receiverOpen = true → q.depth = q.size
  peak : ∀ n, q.peak ≤ n ↔ ∀ rise ∈ risen, rise.2 ≤ n
  /-- The backlog has risen to its peak item by item. -/
  climbed : q.size ≤ q.peak ∧ ∀ n < q.peak, (n, n + 1) ∈ risen
  crossings : q.crossings = risen.count (start.highWater, start.highWater + 1)

section Step

variable {start : Backlog α} {done : List (Op α)} {put got : List α} {risen : List (Nat × Nat)}

theorem counted_empty (name : String) (highWater : Nat) :
    Counted (empty name highWater : Backlog α) [] [] [] [] (empty name highWater) := by
  constructor
  case order => exact List.nil_prefix
  case climbed => exact ⟨Nat.le_refl _, fun n low => absurd low (Nat.not_lt_zero n)⟩
  case sender | receiver => simp [empty]
  case peak => simp [empty]
  case name | mark | whole | forgotten | depth | crossings => intros; rfl

/-- A send that is heard adds one item to the queue, and to each account of it. -/
theorem Counted.send (h : Counted start done put got risen q) (item : α)
    (receiver : q.receiverOpen = true) :
    Counted start (done ++ [.send item]) (put ++ [item]) got (risen ++ [(q.size, q.size + 1)])
      (q.send item).1 := by
  have depth := h.depth receiver
  have higher := size_send item receiver
  have most : (q.send item).1.peak = max q.peak (q.size + 1) := by
    rw [send_open item receiver, depth]
  constructor
  case name => exact (congrArg (·.1.name) (send_open item receiver)).trans h.name
  case mark => exact (congrArg (·.1.highWater) (send_open item receiver)).trans h.mark
  case sender => simp [send_open item receiver, h.sender]
  case receiver => simp [send_open item receiver, h.receiver]
  case order => exact h.order.trans (List.prefix_append _ _)
  case whole =>
    intro _
    rw [send_waiting q item receiver, ← List.append_assoc, h.whole receiver]
  case forgotten =>
    intro gone
    rw [send_open item receiver] at gone
    rw [receiver] at gone
    cases gone
  case depth =>
    intro _
    rw [higher, ← depth, send_open item receiver]
  case peak =>
    intro n
    rw [most, Nat.max_le, h.peak, List.forall_mem_append, List.forall_mem_singleton]
  case climbed =>
    rw [most, higher]
    refine ⟨Nat.le_max_right _ _, fun n low => List.mem_append.mpr ?_⟩
    by_cases before : n < q.peak
    · exact .inl (h.climbed.2 n before)
    · -- Only the last step is new: the backlog was at most at the peak before it.
      have reached := h.climbed.1
      obtain rfl : n = q.size := by omega
      exact .inr (List.mem_singleton_self _)
  case crossings =>
    rw [send_open item receiver, depth, List.count_append, ← h.crossings, h.mark]
    by_cases full : q.size = start.highWater
    · simp [full]
    · simp [full]

/-- A send that nobody hears comes back and leaves everything as it was. -/
theorem Counted.returned (h : Counted start done put got risen q) (item : α)
    (receiver : q.receiverOpen = false) :
    Counted start (done ++ [.send item]) put got (risen ++ [(q.size, q.size)]) q := by
  have empty : q.size = 0 := by rw [size, h.forgotten receiver]; rfl
  constructor
  case name => exact h.name
  case mark => exact h.mark
  case sender => simp [h.sender]
  case receiver => simp [h.receiver]
  case order => exact h.order
  case whole => exact h.whole
  case forgotten => exact h.forgotten
  case depth => exact h.depth
  case peak =>
    intro n
    rw [h.peak, List.forall_mem_append, List.forall_mem_singleton, empty]
    exact (and_iff_left (Nat.zero_le n)).symm
  case climbed => exact ⟨h.climbed.1, fun n low => List.mem_append_left _ (h.climbed.2 n low)⟩
  case crossings => simp [h.crossings, empty]

/-- What is received leaves the queue and its count. -/
theorem Counted.taken (h : Counted start done put got risen q) {item : α} {rest : List α}
    (receiver : q.receiverOpen = true) (next : q.waiting = item :: rest) :
    Counted start (done ++ [.receive]) put (got ++ [item]) risen (q.taken rest) := by
  have whole := h.whole receiver
  rw [next] at whole
  have size : q.size = rest.length + 1 := by rw [Backlog.size, next]; rfl
  constructor
  case name => exact h.name
  case mark => exact h.mark
  case sender => simp [Backlog.taken, h.sender]
  case receiver => simp [Backlog.taken, h.receiver]
  case order => exact ⟨rest, by simp [← whole]⟩
  case whole => intro _; simp [Backlog.taken, ← whole]
  case forgotten =>
    intro gone
    rw [show q.receiverOpen = false from gone] at receiver
    cases receiver
  case depth =>
    intro _
    show q.depth - 1 = rest.length
    rw [h.depth receiver, size]
    rfl
  case peak => exact h.peak
  case climbed =>
    have lower : (q.taken rest).size ≤ q.size := by rw [size]; exact Nat.le_succ _
    exact ⟨Nat.le_trans lower h.climbed.1, h.climbed.2⟩
  case crossings => exact h.crossings

/-- Every operation keeps the account. -/
theorem Counted.step (h : Counted start done put got risen q) (he : q.step? op = some e) :
    Counted start (done ++ [op]) (put ++ q.puts op) (got ++ q.gets op) (risen ++ q.rises op) e := by
  cases step_change he with
  | accepted item sender receiver =>
    have one : q.puts (.send item) = [item] := by simp [puts, send_open item receiver]
    have none : q.gets (.send item) = [] := rfl
    have step : q.rises (.send item) = [(q.size, q.size + 1)] := by
      rw [rises, size_send item receiver]
    rw [one, none, step, List.append_nil]
    exact h.send item receiver
  | returned item sender receiver =>
    have none : q.puts (.send item) = [] := by simp [puts, send_returned q item receiver]
    have step : q.rises (.send item) = [(q.size, q.size)] := by
      simp [rises, send_returned q item receiver]
    rw [none, step, List.append_nil, show q.gets (.send item) = [] from rfl, List.append_nil]
    exact h.returned item receiver
  | @taken item rest receiver next =>
    have one : q.gets .receive = [item] := by simp [gets, receive_cons q item rest next]
    rw [one, show q.puts .receive = [] from rfl, show q.rises .receive = [] from rfl,
      List.append_nil, List.append_nil]
    exact h.taken receiver next
  | nothing receiver empty =>
    have none : q.gets .receive = [] := by
      cases sender : q.senderOpen <;> simp [gets, receive, empty, sender]
    rw [none, show q.puts .receive = [] from rfl, show q.rises .receive = [] from rfl,
      List.append_nil, List.append_nil, List.append_nil]
    exact { h with sender := by simp [h.sender], receiver := by simp [h.receiver] }
  | senderGone sender =>
    rw [show q.gets .dropSender = [] from rfl, show q.puts .dropSender = [] from rfl,
      show q.rises .dropSender = [] from rfl, List.append_nil, List.append_nil, List.append_nil]
    exact { h with sender := by simp [dropSender], receiver := by simp [dropSender, h.receiver] }
  | receiverGone receiver =>
    rw [show q.gets .dropReceiver = [] from rfl, show q.puts .dropReceiver = [] from rfl,
      show q.rises .dropReceiver = [] from rfl, List.append_nil, List.append_nil, List.append_nil]
    have off (on : q.dropReceiver.receiverOpen = true) : False := by cases on
    exact { h with
      sender := by simp [dropReceiver, h.sender]
      receiver := by simp [dropReceiver]
      whole := fun on => (off on).elim
      forgotten := fun _ => rfl
      depth := fun on => (off on).elim
      climbed := ⟨Nat.zero_le _, h.climbed.2⟩ }

theorem Counted.run (ops : List (Op α)) (h : Counted start done put got risen q)
    (run : run? ops q = some q') :
    Counted start (done ++ ops) (put ++ accepted ops q) (got ++ received ops q)
      (risen ++ sends ops q) q' := by
  induction ops generalizing q done put got risen with
  | nil =>
    cases run
    show Counted start (done ++ []) (put ++ []) (got ++ []) (risen ++ []) _
    rwa [List.append_nil, List.append_nil, List.append_nil, List.append_nil]
  | cons op ops ih =>
    obtain ⟨e, he, hr⟩ := Option.bind_eq_some_iff.mp run
    have next := ih (h.step he) hr
    rw [accepted, received, sends, gather_cons _ he, gather_cons _ he, gather_cons _ he,
      ← List.append_assoc, ← List.append_assoc, ← List.append_assoc]
    rwa [List.append_assoc] at next

end Step

/-- A queue without a receiver gets none again. -/
theorem run_deserted (ops : List (Op α)) (closed : q.receiverOpen = false)
    (run : run? ops q = some q') : q'.receiverOpen = false := by
  induction ops generalizing q with
  | nil =>
    cases run
    exact closed
  | cons op ops ih =>
    obtain ⟨e, he, hr⟩ := Option.bind_eq_some_iff.mp run
    refine ih ?_ hr
    cases step_change he with
    | accepted item sender receiver | taken receiver next | nothing receiver empty
    | receiverGone receiver =>
      rw [closed] at receiver
      cases receiver
    | returned | senderGone => exact closed

/-- A backlog gets lower one received item at a time. -/
theorem exists_fall (ops : List (Op α)) {n : Nat} (above : n < q.size) (below : q'.size ≤ n)
    (receiver : q'.receiverOpen = true) (run : run? ops q = some q') :
    ∃ front back e, ops = front ++ .receive :: back ∧
      run? (front ++ [.receive]) q = some e ∧ e.size = n := by
  induction ops generalizing q with
  | nil =>
    cases run
    omega
  | cons op ops ih =>
    obtain ⟨e, he, hr⟩ := Option.bind_eq_some_iff.mp run
    by_cases still : n < e.size
    · obtain ⟨front, back, m, split, part, falls⟩ := ih still hr
      refine ⟨op :: front, back, m, by rw [split]; rfl, ?_, falls⟩
      rw [List.cons_append, run?, he]
      exact part
    · cases step_change he with
      | accepted item sender listener =>
        have higher := size_send item listener
        omega
      | returned | nothing => exact absurd above still
      | senderGone => exact absurd above still
      | receiverGone =>
        rw [run_deserted ops rfl hr] at receiver
        cases receiver
      | @taken item rest listener next =>
        have first : q.size = (q.taken rest).size + 1 := by rw [size, next]; rfl
        refine ⟨[], ops, q.taken rest, rfl, ?_, by omega⟩
        rw [List.nil_append, run?, he]
        rfl

/-- What a queue with a mark has done in a history, and what it does next. -/
structure Watched (name : String) (highWater : Nat) (ops : List (Op α)) (q : Backlog α) :
    Prop where
  /-- Items come out once each and in the order in which they were accepted. -/
  order : received ops (empty name highWater) <+: accepted ops (empty name highWater)
  /-- None is lost while somebody receives. -/
  whole : .dropReceiver ∉ ops →
    received ops (empty name highWater) ++ q.waiting = accepted ops (empty name highWater)
  item : ∀ value, q.receive.2 = .item value →
    ∃ rest, accepted ops (empty name highWater) =
      received ops (empty name highWater) ++ value :: rest
  pending : .dropReceiver ∉ ops → q.receive.2 = .pending →
    .dropSender ∉ ops ∧ received ops (empty name highWater) = accepted ops (empty name highWater)
  closed : .dropReceiver ∉ ops → q.receive.2 = .closed →
    .dropSender ∈ ops ∧ received ops (empty name highWater) = accepted ops (empty name highWater)
  /-- The depth counts what has been accepted and not yet received. -/
  depth : .dropReceiver ∉ ops →
    (received ops (empty name highWater)).length + q.depth =
      (accepted ops (empty name highWater)).length
  /-- It is counted down from a positive number only. -/
  positive : ∀ value, q.receive.2 = .item value → q.receive.1.depth + 1 = q.depth
  /-- A send is reported when it takes the backlog from the mark to one more. -/
  crossed : ∀ item, (q.send item).2 = .accepted true ↔
    q.size = highWater ∧ (q.send item).1.size = highWater + 1
  warned : ∀ item, (q.send item).2.lines (q.send item).1 =
    if q.size = highWater ∧ (q.send item).1.size = highWater + 1 then
      [Log.warn (name ++ " queue backlog exceeds " ++ toString highWater ++
        " messages, dispatcher is lagging")]
    else []
  crossings : q.crossings =
    (sends ops (empty name highWater)).count (highWater, highWater + 1)
  /-- Between two such sends an item is received that brings the backlog to the mark. -/
  apart : ∀ front x between y back e e', ops = front ++ .send x :: (between ++ .send y :: back) →
    run? front (empty name highWater) = some e → (e.send x).2 = .accepted true →
    run? (front ++ .send x :: between) (empty name highWater) = some e' →
    (e'.send y).2 = .accepted true →
    ∃ first last m, between = first ++ .receive :: last ∧
      run? (front ++ .send x :: (first ++ [.receive])) (empty name highWater) = some m ∧
      m.size = highWater
  /-- The peak is the largest backlog behind a send. -/
  peak : ∀ n, q.peak ≤ n ↔ ∀ rise ∈ sends ops (empty name highWater), rise.2 ≤ n
  exceeded : highWater < q.peak ↔ 0 < q.crossings
  /-- A live receiver is sent every item; without one every item comes back. -/
  heard : .dropReceiver ∉ ops → ∀ item, ∃ crossed, (q.send item).2 = .accepted crossed
  returned : .dropReceiver ∈ ops → ∀ item, q.send item = (q, .returned item)

section Watched

variable {name : String} {highWater : Nat} {ops : List (Op α)}
  {done : List (Op α)} {put got : List α} {risen : List (Nat × Nat)}

theorem Counted.listens (h : Counted (empty name highWater) done put got risen q)
    (kept : .dropReceiver ∉ done) : q.receiverOpen = true := by
  cases receiver : q.receiverOpen with
  | true => rfl
  | false => exact absurd (h.receiver.mp receiver) kept

theorem Counted.crossed (h : Counted (empty name highWater) done put got risen q) (item : α) :
    (q.send item).2 = .accepted true ↔
      q.size = highWater ∧ (q.send item).1.size = highWater + 1 := by
  cases receiver : q.receiverOpen with
  | false =>
    have empty : q.size = 0 := by rw [size, h.forgotten receiver]; rfl
    rw [send_returned q item receiver, empty]
    simp
  | true =>
    have mark : q.highWater = highWater := h.mark
    rw [send_open item receiver, h.depth receiver, mark]
    simp [size]

/-- An item comes only to a live receiver. -/
theorem Counted.item (h : Counted (empty name highWater) done put got risen q) {value : α}
    (next : q.receive.2 = .item value) :
    ∃ rest, q.receiverOpen = true ∧ q.waiting = value :: rest ∧ q.receive.1 = q.taken rest := by
  obtain ⟨rest, waiting, same⟩ := exists_of_receive_item (Prod.ext rfl next)
  refine ⟨rest, ?_, waiting, same⟩
  cases receiver : q.receiverOpen with
  | true => rfl
  | false =>
    rw [h.forgotten receiver] at waiting
    cases waiting

theorem receive_empty (h : ∀ value, q.receive.2 ≠ .item value) :
    q.waiting = [] ∧ q.receive.2 = if q.senderOpen then .pending else .closed := by
  cases waiting : q.waiting with
  | nil => exact ⟨rfl, by simp [receive, waiting]⟩
  | cons value rest => exact absurd (by rw [receive_cons q value rest waiting]) (h value)

/-- A receiver that finds nothing has been given everything. -/
theorem Counted.drained (h : Counted (empty name highWater) done put got risen q)
    (kept : .dropReceiver ∉ done) (nothing : ∀ value, q.receive.2 ≠ .item value) :
    got = put ∧ (q.receive.2 = .closed ↔ Op.dropSender ∈ done) := by
  obtain ⟨empty, answer⟩ := receive_empty nothing
  constructor
  · rw [← h.whole (h.listens kept), empty, List.append_nil]
  · rw [answer, ← h.sender]
    cases q.senderOpen <;> simp

/-- The report of a crossing carries the name and the mark of the queue. -/
theorem Counted.warned (h : Counted (empty name highWater) done put got risen q) (item : α) :
    (q.send item).2.lines (q.send item).1 =
      if q.size = highWater ∧ (q.send item).1.size = highWater + 1 then
        [Log.warn (name ++ " queue backlog exceeds " ++ toString highWater ++
          " messages, dispatcher is lagging")]
      else [] := by
  by_cases up : q.size = highWater ∧ (q.send item).1.size = highWater + 1
  · have same := send_name item (q := q)
    rw [if_pos up, (h.crossed item).mpr up, Sent.lines, lagWarning, same.1, same.2, h.name, h.mark]
    rfl
  · rw [if_neg up]
    cases outcome : (q.send item).2 with
    | returned => rfl
    | accepted crossed =>
      cases crossed with
      | false => rfl
      | true => exact absurd ((h.crossed item).mp outcome) up

theorem accepted_listens {item : α} {crossed : Bool} (h : (q.send item).2 = .accepted crossed) :
    q.receiverOpen = true := by
  cases receiver : q.receiverOpen with
  | true => rfl
  | false =>
    rw [send_returned q item receiver] at h
    cases h

/-- From above the mark a backlog comes down to it by a receive. -/
theorem exists_fall_between (between : List (Op α)) {x : α}
    (top : (q.send x).1.size = highWater + 1) (mark : q'.size = highWater)
    (listens : q'.receiverOpen = true) (run : run? (.send x :: between) q = some q') :
    ∃ first last m, between = first ++ .receive :: last ∧
      run? (.send x :: (first ++ [.receive])) q = some m ∧ m.size = highWater := by
  obtain ⟨e, sent, rest⟩ := Option.bind_eq_some_iff.mp run
  obtain ⟨-, rfl⟩ := Option.ite_none_right_eq_some.mp sent |>.imp_right Option.some.inj
  obtain ⟨first, last, m, cut, falls, low⟩ :=
    exists_fall between (top ▸ Nat.lt_succ_self highWater) (Nat.le_of_eq mark) listens rest
  refine ⟨first, last, m, cut, ?_, low⟩
  rw [run?, sent]
  exact falls

/-- Whatever is sent and received, and whichever end goes first, the counters tell the truth
about the queue. -/
theorem watched_of_run (name : String) (highWater : Nat) (ops : List (Op α)) (q : Backlog α)
    (run : run? ops (empty name highWater) = some q) : Watched name highWater ops q := by
  have counted (before : List (Op α)) (e : Backlog α)
      (part : run? before (empty name highWater) = some e) :=
    (counted_empty (α := α) name highWater).run before part
  simp only [List.nil_append] at counted
  have now := counted ops q run
  constructor
  case order => exact now.order
  case whole => exact fun kept => now.whole (now.listens kept)
  case item =>
    intro value next
    obtain ⟨rest, listens, waiting, -⟩ := now.item next
    exact ⟨rest, by rw [← now.whole listens, waiting]⟩
  case pending =>
    intro kept next
    obtain ⟨all, answer⟩ := now.drained kept (by simp [next])
    refine ⟨fun gone => ?_, all⟩
    rw [answer.mpr gone] at next
    cases next
  case closed =>
    intro kept next
    obtain ⟨all, answer⟩ := now.drained kept (by simp [next])
    exact ⟨answer.mp next, all⟩
  case depth =>
    intro kept
    rw [← now.whole (now.listens kept), now.depth (now.listens kept), List.length_append, size]
  case positive =>
    intro value next
    obtain ⟨rest, listens, waiting, same⟩ := now.item next
    have depth : q.depth = rest.length + 1 := by rw [now.depth listens, size, waiting]; rfl
    rw [same, taken, depth]
    rfl
  case crossed => exact now.crossed
  case warned => exact now.warned
  case crossings => exact now.crossings
  case apart =>
    intro front x between y back e e' split part first whole second
    have top := (((counted front e part).crossed x).mp first).2
    have mark := (((counted _ e' whole).crossed y).mp second).1
    rw [run_append, part, Option.bind_some] at whole
    obtain ⟨early, late, m, cut, falls, low⟩ :=
      exists_fall_between between top mark (accepted_listens second) whole
    refine ⟨early, late, m, cut, ?_, low⟩
    rw [run_append, part]
    exact falls
  case peak => exact now.peak
  case exceeded =>
    rw [now.crossings, List.count_pos_iff]
    constructor
    · exact now.climbed.2 highWater
    · intro crossing
      exact (now.peak q.peak).mp (Nat.le_refl _) _ crossing
  case heard =>
    intro kept item
    exact ⟨_, congrArg Prod.snd (send_open item (now.listens kept))⟩
  case returned =>
    intro gone item
    exact send_returned q item (now.receiver.mpr gone)

/-- The backlog passes a mark of one item twice; its receiver is dropped over the rest. -/
def exampleHistory : List (Op Nat) :=
  [.send 1, .send 2, .send 3, .receive, .receive, .send 4, .receive, .dropReceiver, .send 5,
   .dropSender]

theorem exampleHistory_watched :
    ∃ q, run? exampleHistory (empty "link update" 1) = some q ∧
      Watched "link update" 1 exampleHistory q := by
  have possible : (run? exampleHistory (empty "link update" 1)).isSome = true := by decide
  obtain ⟨q, run⟩ := Option.isSome_iff_exists.mp possible
  exact ⟨q, run, watched_of_run _ _ _ q run⟩

end Watched

end PeeringAgent.Backlog
