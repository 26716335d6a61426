import L3Extract.System.Exclusive

/-!
# Every call returns after the end

A user may drop the stack and its generator while calls wait. Nobody handles their events then: the
wakers are dropped with the sockets, what is in the channel is dropped with the receiver, and the
closures that run late get their events back. `all_released` says that this is enough. From any such
state the threads come to an end in every order, after no more operations than `Op.work` allows, and
then no reference is left but those of the calls that wait: each can return, and has its buffer
alone.
-/

namespace L3Extract

open OperationEvent Transition Threads TcpStack

variable {S : Smoltcp}

/-! ## The work that is left -/

/-- How many operations there are at most to do for an operation, with what it leaves to do: the
closure of a waker that is called may get its event back, and drops two fields of it. -/
def Op.work : Op S → ℕ
  | register _ _ _ => 3
  | wake _ _ => 5
  | remove _ => 5
  | send _ => 4
  | _ => 1

/-- An event is dropped in two pieces of work. -/
theorem work_drop_ops (e : OperationEvent) : weight Op.work (drop_ops e : List (Op S)) ≤ 2 := by
  cases e <;> simp [drop_ops, Op.work]

/-- The waker of a side is dropped in two pieces of work. -/
theorem work_drop_waker_ops (t : TcpStack S) (i : ℕ) (side : Side) :
    weight Op.work (t.drop_waker_ops i side) ≤ 2 := by
  unfold drop_waker_ops
  cases t.waker i side with
  | none => simp
  | some e => exact work_drop_ops e

/-- What an operation leaves to do is less than there was to do before. -/
theorem work_next (t : TcpStack S) (op : Op S) : 1 + weight Op.work (t.next op) ≤ op.work := by
  cases op with
  | register i side e =>
    simp only [next, Op.work]
    split
    · have := work_drop_waker_ops t i side
      omega
    · have := work_drop_ops (S := S) e
      omega
  | wake i side =>
    simp only [next, Op.work]
    cases t.waker i side with
    | none => simp
    | some e => cases e <;> simp [waker_ops, Op.work]
  | remove i =>
    have recv := work_drop_waker_ops t i .recv
    have send := work_drop_waker_ops t i .send
    simp only [next, Op.work, weight_append]
    omega
  | send e =>
    simp only [next, Op.work]
    split
    · simp
    · cases e <;> simp [send_failed_ops, drop_ops, Op.work]
  | _ => simp [next, Op.work]

namespace Concurrent

/-- The turn of a thread uses up some of the work. -/
theorem work_run {s s' : Concurrent S} {i : ℕ} (steps : s.run i = some s') :
    1 + weigh Op.work s'.threads ≤ weigh Op.work s.threads := by
  unfold Concurrent.run at steps
  split at steps
  · rename_i op ops hi
    cases steps
    have weighs := weigh_set Op.work hi (s.sys.stack.next op ++ ops)
    have less := work_next s.sys.stack op
    rw [weight_cons, weight_append] at weighs
    dsimp only
    omega
  · cases steps

/-! ## After the stack was dropped -/

/-- What the drop of the stack and of the generator leaves behind. -/
structure Ended (s : Concurrent S) : Prop where
  sockets : s.dropped = true → ∀ i, s.sys.stack.socket_set.val i = none
  driving : s.dropped = true → s.sys.driving = none
  queue : s.sys.stack.operation_event.connected = false → s.sys.stack.operation_event.queue = []

/-- No operation makes a socket. -/
theorem val_apply {t : TcpStack S} (none : ∀ i, t.socket_set.val i = none) (op : Op S) (i : ℕ) :
    (t.apply op).socket_set.val i = .none := by
  cases op with
  | put j socket => simp [apply, put, Arena.val_modify, none]
  | register j side e => simp [apply, register, Arena.val_modify, none]
  | wake j side =>
    simp only [apply]
    split
    · simp [unregister, Arena.val_modify, none]
    · exact none i
  | remove j => simp [apply, Arena.val_remove, none]
  | advance now => simp [apply, advance, none]
  | _ => exact none i

/-- Only a closure that sends its event again has to do with the channel. -/
theorem operation_event_apply (t : TcpStack S) (op : Op S) :
    (t.apply op).operation_event = t.operation_event ∨
      ∃ e, (t.apply op).operation_event = t.operation_event.send e := by
  cases op with
  | send e => exact .inr ⟨e, rfl⟩
  | wake i side =>
    simp only [apply]
    split
    · exact .inl rfl
    · exact .inl rfl
  | _ => exact .inl rfl

/-- Without a receiver, sending leaves the channel as it is. -/
theorem send_of_disconnected {α : Type} {ch : Channel α} (h : ch.connected = false) (v : α) :
    ch.send v = ch := by
  simp [Channel.send, h]

/-- No operation disconnects the event channel. -/
theorem connected_apply (t : TcpStack S) (op : Op S) :
    (t.apply op).operation_event.connected = t.operation_event.connected := by
  rcases operation_event_apply t op with same | ⟨e, sent⟩
  · rw [same]
  · rw [sent, Channel.connected_send]

/-- `init_tcp` sends no event. -/
theorem operation_event_init_tcp (t : TcpStack S) (dst : SocketAddr) :
    (t.init_tcp dst).1.operation_event = t.operation_event := by
  unfold init_tcp
  split <;> rfl

/-- `try_init_udp` sends one event or none. -/
theorem operation_event_try_init_udp {t : TcpStack S} (dst : SocketAddr) :
    (t.try_init_udp dst).1.operation_event = t.operation_event ∨
      ∃ e, (t.try_init_udp dst).1.operation_event = t.operation_event.send e := by
  unfold try_init_udp
  split
  · exact .inl rfl
  · split
    · exact .inl rfl
    · dsimp only
      split
      · exact .inr ⟨_, rfl⟩
      · exact .inl rfl

/-- A packet puts at most one event into the channel. -/
theorem operation_event_arrive {t t' : TcpStack S} {packet : Option Packet}
    {res : Except DriveError Unit} (ok : t.arrive packet = .ok (t', res)) :
    t'.operation_event = t.operation_event ∨
      ∃ e, t'.operation_event = t.operation_event.send e := by
  cases packet with
  | none =>
    cases ok
    exact .inl rfl
  | some p =>
    simp only [arrive, receive, bind, Except.bind, pure, Except.pure] at ok
    cases hparse : parse_packet p with
    | error panic =>
      simp only [hparse] at ok
      cases ok
    | ok ty =>
      rcases ty with _ | ⟨src, dst⟩ | ⟨src, dst⟩
      · simp only [hparse] at ok
        cases ok
        exact .inl rfl
      · have same := operation_event_init_tcp t dst
        simp only [hparse] at ok
        split at ok <;> cases ok
        · exact .inl same
        · exact .inl same
      · have sends := operation_event_try_init_udp (t := t) dst
        simp only [hparse] at ok
        split at ok <;> cases ok
        · exact sends
        · exact sends

/-- When nothing but a send happens to the channel, a disconnected one stays empty. -/
theorem queue_of_send {ch ch' : Channel OperationEvent}
    (empty : ch.connected = false → ch.queue = []) (sends : ch' = ch ∨ ∃ e, ch' = ch.send e) :
    ch'.connected = false → ch'.queue = [] := by
  rcases sends with rfl | ⟨e, rfl⟩
  · exact empty
  · intro disconnected
    rw [Channel.connected_send] at disconnected
    rw [send_of_disconnected disconnected, empty disconnected]

/-- Nothing has ended at first. -/
theorem ended_new (size : ℕ) (interface : S.Interface) : Ended (new size interface) where
  sockets := fun dropped => by cases dropped
  driving := fun dropped => by cases dropped
  queue := fun _ => rfl

/-- An operation of a thread brings nothing back. -/
theorem Ended.run {s s' : Concurrent S} (h : Ended s) {i : ℕ} (steps : s.run i = some s') :
    Ended s' := by
  unfold Concurrent.run at steps
  split at steps
  · rename_i op ops hi
    cases steps
    have dropped : (s.count op).dropped = s.dropped := by cases op <;> rfl
    refine ⟨fun gone => ?_, fun gone => ?_, ?_⟩
    · rw [dropped] at gone
      exact val_apply (h.sockets gone) op
    · rw [dropped] at gone
      exact h.driving gone
    · exact queue_of_send h.queue (operation_event_apply s.sys.stack op)
  · cases steps

/-- Before the stack is dropped there is only the channel to look at. -/
theorem Ended.of_alive {s : Concurrent S} (alive : s.dropped = false)
    (queue : s.sys.stack.operation_event.connected = false →
      s.sys.stack.operation_event.queue = []) : Ended s where
  sockets := fun dropped => by rw [alive] at dropped; cases dropped
  driving := fun dropped => by rw [alive] at dropped; cases dropped
  queue := queue

/-- A call of `drive_once` brings nothing back. -/
theorem Ended.start {s s' : Concurrent S} (h : Ended s) {packet : Option Packet} {now : ℕ}
    {batch : Option ℕ} (steps : s.start packet now batch = some s') : Ended s' := by
  unfold Concurrent.start at steps
  split at steps
  · cases steps
  rename_i free
  simp only [Bool.or_eq_true, not_or, Bool.not_eq_true] at free
  have alive : s.dropped = false := free.1.1
  split at steps
  · cases steps
  split at steps
  · cases steps
  · rename_i stack err ok
    cases steps
    exact .of_alive alive (queue_of_send h.queue (operation_event_arrive ok))
  · rename_i stack ok
    split at steps
    · cases steps
    cases steps
    exact .of_alive alive (queue_of_send h.queue (operation_event_arrive ok))

/-- What the parties do among themselves keeps the sockets, and puts at most one event into the
channel or takes all out. -/
theorem Ended.of_sys {s : Concurrent S} {sys : System S} (h : Ended s)
    (sockets : sys.stack.socket_set = s.sys.stack.socket_set)
    (driving : s.sys.driving = none → sys.driving = none)
    (queue : sys.stack.operation_event.connected = false → sys.stack.operation_event.queue = []) :
    Ended { s with sys } where
  sockets := fun dropped => sockets ▸ h.sockets dropped
  driving := fun dropped => driving (h.driving dropped)
  queue := queue

/-- An action beside the threads brings nothing back. -/
theorem Ended.of_quiet {s s' : Concurrent S} (h : Ended s) {a : Action} (quiet : quiet a = true)
    (steps : (s.sys.step a).map (fun sys => { s with sys }) = some s') : Ended s' := by
  obtain ⟨sys, hsys, rfl⟩ := Option.map_eq_some_iff.mp steps
  cases System.steps_of_step hsys with
  | finished action driving eq =>
    subst eq
    exact h.of_sys rfl (fun _ => rfl) h.queue
  | generated action connected eq =>
    subst eq
    exact h.of_sys rfl id fun _ => rfl
  | accepted_tcp info rest action queue eq =>
    subst eq
    exact h.of_sys rfl id h.queue
  | accepted_udp info rest action queue eq =>
    subst eq
    exact h.of_sys rfl id h.queue
  | tcp_acceptor_dropped action eq =>
    subst eq
    exact h.of_sys rfl id h.queue
  | udp_acceptor_dropped action eq =>
    subst eq
    exact h.of_sys rfl id h.queue
  | tcp_stream_dropped stream action held idle eq =>
    subst eq
    exact h.of_sys rfl id (queue_of_send h.queue (.inr ⟨_, rfl⟩))
  | udp_socket_dropped socket action held idle eq =>
    subst eq
    exact h.of_sys rfl id (queue_of_send h.queue (.inr ⟨_, rfl⟩))
  | started packet now batch events batches stack res action => subst action; cases quiet
  | handled e events stack action => subst action; cases quiet
  | batch_dropped i action => subst action; cases quiet
  | generator_dropped action => subst action; cases quiet
  | called c action => subst action; cases quiet
  | refused c action => subst action; cases quiet
  | returned futures action =>
    rcases action with ⟨rx, rfl⟩ | ⟨rx, rfl⟩
    · cases quiet
    · cases quiet

/-- A call of a user brings nothing back. -/
theorem Ended.call {s : Concurrent S} (h : Ended s) (c : Call) : Ended (s.call c) := by
  unfold Concurrent.call
  dsimp only
  split
  · refine ⟨h.sockets, h.driving, ?_⟩
    dsimp only
    exact queue_of_send h.queue (.inr ⟨_, rfl⟩)
  · exact ⟨h.sockets, h.driving, h.queue⟩

/-- No action brings anything back. -/
theorem Ended.act {s s' : Concurrent S} (h : Ended s) {a : Action} (steps : s.act a = some s') :
    Ended s' := by
  cases a with
  | start packet now batch => exact h.start steps
  | event =>
    simp only [Concurrent.act, Concurrent.event] at steps
    split at steps
    · rename_i e events driving
      -- A call of `drive_once` is running, so the stack is there.
      have alive : s.dropped = false := by
        by_contra dropped
        rw [Bool.not_eq_false] at dropped
        rw [h.driving dropped] at driving
        cases driving
      split at steps
      · split at steps <;> cases steps
        exact .of_alive alive h.queue
      · cases steps
    · cases steps
  | finish =>
    simp only [Concurrent.act] at steps
    split at steps
    · exact h.of_quiet rfl steps
    · cases steps
  | drop_batch i =>
    obtain ⟨sys, hsys, rfl⟩ := Option.map_eq_some_iff.mp steps
    simp only [System.step] at hsys
    split at hsys <;> cases hsys
    exact ⟨h.sockets, h.driving, h.queue⟩
  | drop_generator =>
    obtain rfl := Option.some.inj steps
    exact ⟨h.sockets, h.driving, fun _ => rfl⟩
  | call c =>
    simp only [Concurrent.act] at steps
    split at steps <;> cases steps
    exact h.call c
  | return_ rx =>
    simp only [Concurrent.act] at steps
    split at steps <;> cases steps
    exact ⟨h.sockets, h.driving, h.queue⟩
  | drop_future rx =>
    simp only [Concurrent.act] at steps
    split at steps <;> cases steps
    split_ifs
    · exact ⟨h.sockets, h.driving, h.queue⟩
    · exact ⟨h.sockets, h.driving, h.queue⟩
  | generate => exact h.of_quiet rfl steps
  | accept_tcp => exact h.of_quiet rfl steps
  | accept_udp => exact h.of_quiet rfl steps
  | drop_tcp_acceptor => exact h.of_quiet (a := .drop_tcp_acceptor) rfl steps
  | drop_udp_acceptor => exact h.of_quiet (a := .drop_udp_acceptor) rfl steps
  | drop_tcp_stream stream => exact h.of_quiet rfl steps
  | drop_udp_socket socket => exact h.of_quiet rfl steps

/-- No turn brings anything back. -/
theorem ended_step {s s' : Concurrent S} {turn : Turn} (h : Ended s)
    (steps : s.step turn = some s') : Ended s' := by
  cases turn with
  | run i => exact h.run steps
  | drop_stack =>
    simp only [Concurrent.step] at steps
    split at steps
    · cases steps
    · rename_i free
      simp only [Bool.or_eq_true, not_or, Bool.not_eq_true, Option.isSome_eq_false_iff,
        Option.isNone_iff_eq_none] at free
      cases steps
      exact ⟨fun _ i => Arena.val_empty i, fun _ => free.1.2, h.queue⟩
  | generate_failed =>
    simp only [Concurrent.step] at steps
    split at steps <;> cases steps
    exact ⟨h.sockets, h.driving, fun _ => rfl⟩
  | act a => exact h.act steps

/-- In every run what was dropped is gone. -/
theorem ended_of_run {size : ℕ} {interface : S.Interface} {s : Concurrent S}
    (run : Reachable step (new size interface) s) : Ended s :=
  run.invariant (ended_new size interface) fun _ _ _ _ _ steps ended => ended_step ended steps

/-! ## All references come back -/

/-- The stack and the generator were dropped, and no batch is left. -/
structure Over (s : Concurrent S) : Prop where
  dropped : s.dropped = true
  generator : s.sys.stack.operation_event.connected = false
  batches : s.sys.batches = []

/-- The turn of a thread brings none of them back. -/
theorem Over.run {s s' : Concurrent S} (h : Over s) {i : ℕ} (steps : s.run i = some s') :
    Over s' := by
  unfold Concurrent.run at steps
  split at steps
  · rename_i op ops hi
    cases steps
    have dropped : (s.count op).dropped = s.dropped := by cases op <;> rfl
    exact ⟨dropped.trans h.dropped, (connected_apply _ op).trans h.generator, h.batches⟩
  · cases steps

/-- Threads that cannot go on have nothing left to do. -/
theorem eq_nil_of_run {s : Concurrent S} (rest : ∀ i, s.run i = none) :
    ∀ ops ∈ s.threads, ops = [] := by
  intro ops hops
  obtain ⟨i, hi⟩ := List.mem_iff_getElem?.mp hops
  cases ops with
  | nil => rfl
  | cons op ops =>
    have stuck := rest i
    simp [Concurrent.run, hi] at stuck

/-- When it is over and the threads are done, nothing is held but the references of the callers. -/
theorem Over.held {s : Concurrent S} (h : Over s) (ended : Ended s)
    (rest : ∀ ops ∈ s.threads, ops = []) : s.held = ↑(s.callers.map Token.caller) := by
  have parked : s.sys.stack.parked = 0 := by
    refine Multiset.eq_zero_of_forall_notMem fun e he => ?_
    obtain ⟨i, side, hw⟩ := exists_waker_of_mem_parked he
    simp [waker, ended.sockets h.dropped i] at hw
  have stack : s.sys.stack.tokens = 0 := by
    rw [TcpStack.tokens, TcpStack.pending, parked, ended.queue h.generator]
    rfl
  have collected : s.sys.collected = [] := by
    rw [System.collected, h.batches, ended.driving h.dropped]
    rfl
  have threads : weigh Op.tokens s.threads = 0 := by
    refine Multiset.eq_zero_of_forall_notMem fun x hx => ?_
    obtain ⟨ops, hops, hx⟩ := exists_of_mem_weigh hx
    rw [rest ops hops] at hx
    simp at hx
  rw [Concurrent.held, System.tokens_eq, stack, collected, threads]
  simp

/-- In every run, after the stack and the generator were dropped and no batch is left, the threads
come to an end: in whatever order they go on, each turn uses up some of the work that was left. When
none can go on, no reference to a buffer is left but those of the calls that wait, and no sender.
Every call can return, with its buffer alone. -/
theorem all_released {size : ℕ} {interface : S.Interface} {s t : Concurrent S}
    (run : Reachable step (new size interface) s) (dropped : s.dropped = true)
    (generator : s.sys.stack.operation_event.connected = false) (batches : s.sys.batches = [])
    {turns : List ℕ} (h : exec Concurrent.run s turns = some t) :
    turns.length + weigh Op.work t.threads ≤ weigh Op.work s.threads ∧
    ((∀ i, t.run i = none) → (∀ b, t.strong_count b = t.callers.count b) ∧
      (∀ tx, t.senders tx = 0) ∧ (∀ f ∈ t.sys.futures, (t.act (.return_ f.rx)).isSome) ∧
      ∀ b ∈ t.callers, t.holders b = {.caller} ∧ t.strong_count b = 1) := by
  constructor
  · have each : ∀ (s : Concurrent S) (i : ℕ) (s' : Concurrent S), Concurrent.run s i = some s' →
        1 + weigh Op.work s'.threads ≤ 0 + weigh Op.work s.threads := by
      intro s i s' steps
      have := work_run steps
      omega
    have work := exec_cost_le (Φ := fun s => weigh Op.work s.threads) each h
    simpa using work
  · intro rest
    have along : Reachable step (new size interface) t ∧ Over t := by
      refine (Run.of_exec h).invariant
        (I := fun u => Reachable step (new size interface) u ∧ Over u)
        ⟨run, dropped, generator, batches⟩ fun u i u' _ _ steps hu => ⟨?_, hu.2.run steps⟩
      exact .tail (a := .run i) hu.1 trivial steps
    obtain ⟨reached, ends⟩ := along
    have sound := sound_of_run reached
    have held := ends.held (ended_of_run reached) (eq_nil_of_run rest)
    have no_buffer : ∀ b, t.held.count (.buffer b) = 0 := by
      intro b
      rw [held]
      exact Multiset.count_eq_zero_of_notMem (by simp)
    have senders : ∀ tx, t.senders tx = 0 := by
      intro tx
      rw [sound.senders, held]
      exact Multiset.count_eq_zero_of_notMem (by simp)
    have learns : ∀ rx, t.learns rx = true := by
      intro rx
      simp [Concurrent.learns, senders rx]
    refine ⟨fun b => ?_, senders, fun f hf => ?_, fun b hb => ?_⟩
    · rw [sound.strong_count, no_buffer, held, add_zero, Multiset.coe_count]
      exact List.count_map_of_injective _ _ (fun _ _ => Token.caller.inj) b
    · have known : f.rx ∈ t.sys.futures.map Future.rx := List.mem_map_of_mem hf
      simp [Concurrent.act, known, learns]
    · exact sound.holders_of_learns hb (learns b)

open Reference in
/-- A recv is parked when the stack and the generator are dropped. -/
def dropped_while_parked : List Turn := [
  .act (.start (some (udp_packet 1 2 [7])) 0 none), .run 0, .run 0, .act .finish, .act .generate,
  .act (.start none 0 (some 0)), .run 0, .act .event, .run 0, .act .finish, .act .accept_udp,
  .act (.call (.recv ⟨⟨0, 0⟩, server_addr 2⟩ ⟨[1, 2], 0⟩)),
  .act (.call (.recv ⟨⟨0, 0⟩, server_addr 2⟩ ⟨[1, 2], 0⟩)), .act .generate,
  .act (.start none 0 (some 0)), .run 0, .act .event, .run 0, .run 0, .run 0, .run 0, .run 0,
  .act .event, .run 0, .act .finish, .drop_stack, .act .drop_generator]

/-- Two operations of the thread that dropped the stack are left, and after them both calls can
return. -/
theorem all_released_parked : ∃ s t : Concurrent reference,
    Reachable step (new 64 ()) s ∧ exec Concurrent.run s [0, 0] = some t ∧
    weigh Op.work s.threads = 2 ∧ t.callers = [0, 1] ∧ (∀ i, t.run i = none) ∧
    ∀ b ∈ t.callers, t.holders b = {.caller} ∧ t.strong_count b = 1 := by
  obtain ⟨s, hs, ht⟩ := exists_of_exec_any step (new 64 () : Concurrent reference)
    dropped_while_parked
    (fun s => (s.dropped = true ∧ s.sys.stack.operation_event.connected = false ∧
      s.sys.batches = [] ∧ weigh Op.work s.threads = 2) ∧
      (exec Concurrent.run s [0, 0]).any fun t => t.callers = [0, 1] ∧
        ∀ ops ∈ t.threads, ops.isEmpty)
    (by decide +kernel)
  obtain ⟨⟨dropped, generator, batches, work⟩, later⟩ := of_decide_eq_true ht
  obtain ⟨t, turns, final⟩ := (Option.any_eq_true _ _).mp later
  obtain ⟨callers, done⟩ := of_decide_eq_true final
  have rest : ∀ i, t.run i = none := by
    intro i
    unfold Concurrent.run
    split
    · rename_i op ops hi
      have empty := done _ (List.mem_of_getElem? hi)
      cases empty
    · rfl
  have run : Reachable step (new 64 ()) s := .of_exec hs
  obtain ⟨-, ends⟩ := all_released run dropped generator batches turns
  exact ⟨s, t, run, turns, work, callers, rest, (ends rest).2.2.2⟩

end Concurrent

end L3Extract
