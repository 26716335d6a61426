import L3Extract.Stack.Handlers
import Mathlib.Algebra.Order.Group.Multiset
import Mathlib.Tactic.Abel

/-!
# What the primitive operations change

Each handler is composed of a few primitives: `put`, `register`, `answer`, `fill`, `wake`, the two
`close`s, `add`, and `remove`. This module says what each of them does to the views through which
the rest of the development looks at a stack: which sockets there are (`SameTables`), the socket and
the wakers of a slot, the event channel, and two multisets. `pending` has the events that the stack
will still get to handle, queued or parked. `requests` has the result channels of pending requests
and of answers given; waking never changes it, whether or not the event channel is connected.
-/

namespace L3Extract

open OperationEvent

variable {S : Smoltcp}

/-- What `filterMap` makes of one element. -/
theorem filterMap_singleton {α β : Type*} (f : α → Option β) (a : α) :
    Multiset.filterMap f {a} = ↑(f a).toList := by
  rw [← Multiset.coe_singleton, Multiset.filterMap_coe]
  cases h : f a <;> simp [h]

/-- The events that the wakers of an item were made from. -/
def Item.parked (item : Item S) : Multiset OperationEvent :=
  ↑(item.wakers .recv).toList + ↑(item.wakers .send).toList

/-- The closure of a waker that was made from this event sends it again. -/
def OperationEvent.resends : OperationEvent → Bool
  | .shutdown .. => false
  | _ => true

/-- Sending does not disconnect a channel. -/
@[simp] theorem Channel.connected_send {α : Type} (ch : Channel α) (v : α) :
    (ch.send v).connected = ch.connected := by
  unfold Channel.send
  split <;> rfl

/-- The channel after more values were put into it. -/
def Channel.extend {α : Type} (ch : Channel α) (vs : List α) : Channel α :=
  { ch with queue := ch.queue ++ vs, sent := ch.sent ++ vs }

/-- Nothing more waits in a channel to which nothing was added. -/
@[simp] theorem Channel.extend_nil {α : Type} (ch : Channel α) : ch.extend [] = ch := by
  simp [Channel.extend]

/-- Messages are added one list after the other. -/
theorem Channel.extend_append {α : Type} (ch : Channel α) (vs ws : List α) :
    ch.extend (vs ++ ws) = (ch.extend vs).extend ws := by
  simp [Channel.extend]

/-- A message that is sent is added at the end, if there is somebody to receive it. -/
theorem Channel.send_eq_extend {α : Type} (ch : Channel α) (v : α) :
    ch.send v = ch.extend (if ch.connected then [v] else []) := by
  obtain ⟨queue, connected, sent⟩ := ch
  cases connected <;> simp [Channel.send, Channel.extend]

/-- What was sent was sent before, or is the value. -/
theorem Channel.mem_sent_send {α : Type} {ch : Channel α} {v w : α}
    (h : w ∈ (ch.send v).sent) : w ∈ ch.sent ∨ w = v := by
  unfold Channel.send at h
  split at h
  · simpa using h
  · exact .inl h

namespace TcpStack

/-- The events that the registered wakers were made from. -/
def parked (t : TcpStack S) : Multiset OperationEvent := t.socket_set.sum Item.parked

/-- The events in the event channel and in wakers. -/
def pending (t : TcpStack S) : Multiset OperationEvent := ↑t.operation_event.queue + t.parked

/-- The result channels of pending requests, and those that were answered. -/
def requests (t : TcpStack S) : Multiset ResultTx :=
  t.pending.filterMap result_tx + ↑(t.answers.map Prod.fst)

/-- `t'` has the sockets of `t`, up to their values and wakers, and the same tables. -/
structure SameTables (t t' : TcpStack S) : Prop where
  gen : t'.socket_set.gen = t.socket_set.gen
  next : t'.socket_set.next = t.socket_set.next
  kind : t'.kind_at = t.kind_at
  socket_handles : t'.socket_handles = t.socket_handles
  accepted_udp_sockets : t'.accepted_udp_sockets = t.accepted_udp_sockets

/-- A stack has its own tables. -/
theorem SameTables.refl (t : TcpStack S) : SameTables t t := ⟨rfl, rfl, rfl, rfl, rfl⟩

/-- The tables stay the same over two changes that keep them. -/
theorem SameTables.trans {t u v : TcpStack S} (h : SameTables t u) (h' : SameTables u v) :
    SameTables t v where
  gen := h'.gen.trans h.gen
  next := h'.next.trans h.next
  kind := h'.kind.trans h.kind
  socket_handles := h'.socket_handles.trans h.socket_handles
  accepted_udp_sockets := h'.accepted_udp_sockets.trans h.accepted_udp_sockets

/-! ## Sockets by slot -/

/-- The slots that hold a socket are those with a generation. -/
theorem gen_isSome (t : TcpStack S) (i : ℕ) :
    (t.socket_set.gen i).isSome = (t.socket_at i).isSome := by
  simp [socket_at, t.socket_set.gen_isSome]

/-- `sockets` is `socket_at`, as a list. -/
theorem get_sockets (t : TcpStack S) (i : ℕ) : Slots.get t.sockets i = t.socket_at i := by
  simp only [Slots.get, sockets, socket_at, Arena.val, List.getElem?_map, Option.map_map]
  cases t.socket_set.slots[i]? with
  | none => rfl
  | some o => cases o <;> rfl

/-- A slot holds a TCP socket. -/
theorem tcp_at_eq_some {t : TcpStack S} {i : ℕ} {c : S.Tcp} :
    t.tcp_at i = some c ↔ t.socket_at i = some (.tcp c) := by
  unfold tcp_at
  split <;> simp_all

/-- A slot holds a UDP socket. -/
theorem udp_at_eq_some {t : TcpStack S} {i : ℕ} {u : S.Udp} :
    t.udp_at i = some u ↔ t.socket_at i = some (.udp u) := by
  unfold udp_at
  split <;> simp_all

/-- `get_mut::<TcpSocket>` finds the TCP socket in the slot, and only that. -/
theorem get_tcp_eq_ok {t : TcpStack S} {handle : SocketHandle} {c : S.Tcp} :
    t.get_tcp handle = .ok c ↔ t.socket_at handle.index = some (.tcp c) := by
  unfold get_tcp
  split <;> simp_all

/-- `get_mut::<UdpSocket>` finds the UDP socket in the slot, and only that. -/
theorem get_udp_eq_ok {t : TcpStack S} {handle : SocketHandle} {u : S.Udp} :
    t.get_udp handle = .ok u ↔ t.socket_at handle.index = some (.udp u) := by
  unfold get_udp
  split <;> simp_all

/-- A slot with a TCP socket is of that kind. -/
theorem kind_of_tcp {t : TcpStack S} {i : ℕ} {c : S.Tcp} (h : t.socket_at i = some (.tcp c)) :
    t.kind_at i = some .tcp := by
  simp [kind_at, h, AnySocket.protocol]

/-- A slot with a UDP socket is of that kind. -/
theorem kind_of_udp {t : TcpStack S} {i : ℕ} {u : S.Udp} (h : t.socket_at i = some (.udp u)) :
    t.kind_at i = some .udp := by
  simp [kind_at, h, AnySocket.protocol]

/-- A slot of kind TCP holds a TCP socket. -/
theorem tcp_of_kind {t : TcpStack S} {i : ℕ} (h : t.kind_at i = some .tcp) :
    ∃ c, t.socket_at i = some (.tcp c) := by
  obtain ⟨socket, hs, hp⟩ := Option.map_eq_some_iff.mp h
  cases socket with
  | tcp c => exact ⟨c, hs⟩
  | udp u => simp [AnySocket.protocol] at hp

/-- A slot of kind UDP holds a UDP socket. -/
theorem udp_of_kind {t : TcpStack S} {i : ℕ} (h : t.kind_at i = some .udp) :
    ∃ u, t.socket_at i = some (.udp u) := by
  obtain ⟨socket, hs, hp⟩ := Option.map_eq_some_iff.mp h
  cases socket with
  | tcp c => simp [AnySocket.protocol] at hp
  | udp u => exact ⟨u, hs⟩

/-! ## `put` -/

/-- A socket is set in a slot that holds one. -/
theorem socket_at_put (t : TcpStack S) (i j : ℕ) (socket : S.Socket) :
    (t.put i socket).socket_at j =
      (t.socket_at j).map fun s => if j = i then socket else s := by
  simp only [socket_at, put, Arena.val_modify]
  split_ifs <;> cases t.socket_set.val j <;> simp [Item.put]

/-- Setting a socket leaves its wakers. -/
theorem waker_put (t : TcpStack S) (i j : ℕ) (socket : S.Socket) (side : Side) :
    (t.put i socket).waker j side = t.waker j side := by
  simp only [waker, put, Arena.val_modify]
  split_ifs <;> cases t.socket_set.val j <;> rfl

/-- Setting a socket leaves what is parked. -/
theorem parked_put (t : TcpStack S) (i : ℕ) (socket : S.Socket) :
    (t.put i socket).parked = t.parked := by
  cases h : t.socket_set.val i with
  | none => exact Arena.sum_modify_of_none _ h _
  | some item => exact add_left_cancel (Arena.sum_modify Item.parked h (.put socket))

/-- Setting a socket leaves what is pending. -/
theorem pending_put (t : TcpStack S) (i : ℕ) (socket : S.Socket) :
    (t.put i socket).pending = t.pending := by
  simp only [pending, parked_put]
  rfl

/-- A socket value of the same kind keeps the tables. -/
theorem same_put {t : TcpStack S} {i : ℕ} (socket : S.Socket)
    (h : t.kind_at i = some socket.protocol) : SameTables t (t.put i socket) where
  gen := by funext j; simp [put]
  next := rfl
  kind := by
    funext j
    simp only [kind_at, socket_at_put, Option.map_map]
    by_cases hj : j = i
    · subst hj
      obtain ⟨s, hs, hp⟩ := Option.map_eq_some_iff.mp h
      simp [hs, hp]
    · cases t.socket_at j <;> simp [hj]
  socket_handles := rfl
  accepted_udp_sockets := rfl

/-! ## `register` -/

/-- Registering a waker leaves the sockets. -/
@[simp] theorem socket_at_register (t : TcpStack S) (i j : ℕ) (side : Side) (e : OperationEvent) :
    (t.register i side e).socket_at j = t.socket_at j := by
  simp only [socket_at, register, Arena.val_modify]
  split_ifs <;> cases t.socket_set.val j <;> rfl

/-- A waker goes into the slot's registration, if there is a socket. -/
theorem waker_register (t : TcpStack S) (i j : ℕ) (side side' : Side) (e : OperationEvent) :
    (t.register i side e).waker j side' =
      if j = i ∧ side' = side ∧ (t.socket_at i).isSome then some e else t.waker j side' := by
  simp only [waker, register, Arena.val_modify, socket_at, Option.isSome_map]
  by_cases hj : j = i
  · subst hj
    cases t.socket_set.val j with
    | none => simp
    | some item => by_cases hs : side' = side <;> simp [Item.register, hs]
  · simp [hj]

/-- Registering a waker leaves the tables. -/
theorem same_register (t : TcpStack S) (i : ℕ) (side : Side) (e : OperationEvent) :
    SameTables t (t.register i side e) where
  gen := by funext j; simp [register]
  next := rfl
  kind := by funext j; simp [kind_at]
  socket_handles := rfl
  accepted_udp_sockets := rfl

/-- A new waker exchanges the events parked on its side. -/
theorem parked_register_add (item : Item S) (side : Side) (e : OperationEvent) :
    (item.register side e).parked + ↑(item.wakers side).toList = {e} + item.parked := by
  cases side with
  | recv =>
    have hr : (item.register .recv e).parked = {e} + ↑(item.wakers .send).toList := rfl
    rw [hr, Item.parked]
    abel
  | send =>
    have hr : (item.register .send e).parked = ↑(item.wakers .recv).toList + {e} := rfl
    rw [hr, Item.parked]
    abel

/-- Registering a waker parks its event, and drops the one that was parked there. -/
theorem pending_register {t : TcpStack S} {i : ℕ} (h : (t.socket_at i).isSome) (side : Side)
    (e : OperationEvent) :
    (t.register i side e).pending + ↑(t.waker i side).toList = {e} + t.pending := by
  obtain ⟨item, hi⟩ := Option.isSome_iff_exists.mp (by simpa [socket_at] using h)
  have hsum := Arena.sum_modify Item.parked hi (.register side e)
  have hitem := parked_register_add item side e
  have hw : t.waker i side = item.wakers side := by simp [waker, hi]
  simp only [pending, parked, register, hw] at hsum ⊢
  refine add_left_cancel (a := item.parked) ?_
  calc item.parked + (↑t.operation_event.queue +
        (t.socket_set.modify i (.register side e)).sum Item.parked + ↑(item.wakers side).toList)
      = ↑t.operation_event.queue + (item.parked +
        (t.socket_set.modify i (.register side e)).sum Item.parked) +
        ↑(item.wakers side).toList := by abel
    _ = ↑t.operation_event.queue + t.socket_set.sum Item.parked +
        ((item.register side e).parked + ↑(item.wakers side).toList) := by rw [hsum]; abel
    _ = _ := by rw [hitem]; abel

/-- Registering a waker adds at most its event. -/
theorem pending_register_le (t : TcpStack S) (i : ℕ) (side : Side) (e : OperationEvent) :
    (t.register i side e).pending ≤ {e} + t.pending := by
  cases h : t.socket_at i with
  | none =>
    have hv : t.socket_set.val i = none := by simpa [socket_at] using h
    rw [pending, parked, register, Arena.sum_modify_of_none _ hv]
    exact Multiset.le_add_left _ _
  | some s =>
    rw [← pending_register (t := t) (i := i) (by simp [h]) side e]
    exact Multiset.le_add_right _ _

/-! ## `answer`, `fill`, and `send_event` -/

/-- Answering a request leaves the tables. -/
theorem same_answer (t : TcpStack S) (tx : ResultTx) (a : Answer) :
    SameTables t (t.answer tx a) := ⟨rfl, rfl, rfl, rfl, rfl⟩

/-! ## Waking -/

/-- What the closure of a waker sends on result channels. -/
def waker_answers (t : TcpStack S) : OperationEvent → List (ResultTx × Answer)
  | .shutdown _ tx => [(tx, .ok .done)]
  | e => if t.operation_event.connected then [] else (wake_failed e).toList

/-- The closure of a waker sends its event again, or answers, and does nothing else. -/
theorem run_waker_eq (t : TcpStack S) (e : OperationEvent) :
    t.run_waker e = { t with
      operation_event := if e.resends then t.operation_event.send e else t.operation_event
      answers := t.answers ++ t.waker_answers e } := by
  cases e <;> cases hc : t.operation_event.connected <;>
    simp [run_waker, waker_answers, wake_failed, resends, answer, send_event, hc, Channel.send]

/-- The waker of one side is taken out. -/
def unregister (t : TcpStack S) (i : ℕ) (side : Side) : TcpStack S :=
  { t with socket_set := t.socket_set.modify i (.unregister side) }

/-- Waking a side without a waker does nothing. -/
theorem wake_of_none {t : TcpStack S} {i : ℕ} {side : Side} (h : t.waker i side = none) :
    t.wake i side = t := by
  simp [wake, h]

/-- Waking a side takes its waker and runs it. -/
theorem wake_of_some {t : TcpStack S} {i : ℕ} {side : Side} {e : OperationEvent}
    (h : t.waker i side = some e) : t.wake i side = (t.unregister i side).run_waker e := by
  simp [wake, h, unregister]

/-- Taking a waker leaves the sockets. -/
@[simp] theorem socket_at_unregister (t : TcpStack S) (i j : ℕ) (side : Side) :
    (t.unregister i side).socket_at j = t.socket_at j := by
  simp only [socket_at, unregister, Arena.val_modify]
  split_ifs <;> cases t.socket_set.val j <;> rfl

/-- The waker that is taken is gone, and the others stay. -/
theorem waker_unregister (t : TcpStack S) (i j : ℕ) (side side' : Side) :
    (t.unregister i side).waker j side' =
      if j = i ∧ side' = side then none else t.waker j side' := by
  simp only [waker, unregister, Arena.val_modify]
  by_cases hj : j = i
  · subst hj
    cases t.socket_set.val j with
    | none => simp
    | some item => by_cases hs : side' = side <;> simp [Item.unregister, hs]
  · simp [hj]

/-- Taking out a waker takes its event away. -/
theorem parked_unregister {t : TcpStack S} {i : ℕ} {side : Side} {e : OperationEvent}
    (h : t.waker i side = some e) : (t.unregister i side).parked + {e} = t.parked := by
  obtain ⟨item, hi, he⟩ := Option.bind_eq_some_iff.mp h
  have hsum := Arena.sum_modify Item.parked hi (.unregister side)
  have hitem : (item.unregister side).parked + {e} = item.parked := by
    cases side with
    | recv =>
      have hu : (item.unregister .recv).parked = 0 + ↑(item.wakers .send).toList := rfl
      have hp : item.parked = {e} + ↑(item.wakers .send).toList := by rw [Item.parked, he]; rfl
      rw [hu, hp]
      abel
    | send =>
      have hu : (item.unregister .send).parked = ↑(item.wakers .recv).toList + 0 := rfl
      have hp : item.parked = ↑(item.wakers .recv).toList + {e} := by rw [Item.parked, he]; rfl
      rw [hu, hp]
      abel
  refine add_left_cancel (a := (item.unregister side).parked) ?_
  calc (item.unregister side).parked + ((t.unregister i side).parked + {e})
      = ((item.unregister side).parked + {e}) + (t.unregister i side).parked := by abel
    _ = item.parked + (t.unregister i side).parked := by rw [hitem]
    _ = _ := hsum

/-- Waking leaves the sockets. -/
@[simp] theorem socket_at_wake (t : TcpStack S) (i j : ℕ) (side : Side) :
    (t.wake i side).socket_at j = t.socket_at j := by
  cases h : t.waker i side with
  | none => rw [wake_of_none h]
  | some e =>
    rw [wake_of_some h, run_waker_eq]
    exact socket_at_unregister t i j side

/-- Waking empties one waker slot, and no other. -/
theorem waker_wake (t : TcpStack S) (i j : ℕ) (side side' : Side) :
    (t.wake i side).waker j side' = if j = i ∧ side' = side then none else t.waker j side' := by
  cases h : t.waker i side with
  | none =>
    rw [wake_of_none h]
    split_ifs with hij
    · rw [hij.1, hij.2, h]
    · rfl
  | some e =>
    rw [wake_of_some h, run_waker_eq]
    exact waker_unregister t i j side side'

/-- Waking leaves the tables. -/
theorem same_wake (t : TcpStack S) (i : ℕ) (side : Side) : SameTables t (t.wake i side) := by
  cases h : t.waker i side with
  | none => rw [wake_of_none h]; exact .refl t
  | some e =>
    rw [wake_of_some h, run_waker_eq]
    refine ⟨?_, rfl, ?_, rfl, rfl⟩
    · funext j
      simp [unregister]
    · funext j
      simp only [kind_at]
      rw [← socket_at_unregister t i j side]
      rfl

/-- Waking does not disconnect the event channel. -/
@[simp] theorem connected_wake (t : TcpStack S) (i : ℕ) (side : Side) :
    (t.wake i side).operation_event.connected = t.operation_event.connected := by
  cases h : t.waker i side with
  | none => rw [wake_of_none h]
  | some e =>
    rw [wake_of_some h, run_waker_eq]
    dsimp only [unregister]
    split
    · exact Channel.connected_send _ _
    · rfl

/-- Waking sends again what was parked, unless the channel is disconnected or the waker was that of
a Shutdown. -/
theorem channel_wake (t : TcpStack S) (i : ℕ) (side : Side) :
    (t.wake i side).operation_event = t.operation_event.extend
      ((t.waker i side).toList.filter fun e => e.resends && t.operation_event.connected) := by
  cases h : t.waker i side with
  | none => rw [wake_of_none h]; simp
  | some e =>
    rw [wake_of_some h, run_waker_eq]
    cases hr : e.resends <;> cases hc : t.operation_event.connected <;>
      simp [unregister, Channel.send_eq_extend, hr, hc]

/-- A waker that is run sends its event again, if that is what it does and there is a receiver. -/
theorem queue_wake (t : TcpStack S) (i : ℕ) (side : Side) :
    (t.wake i side).operation_event.queue = t.operation_event.queue ++
      (t.waker i side).toList.filter fun e => e.resends && t.operation_event.connected :=
  congrArg Channel.queue (channel_wake t i side)

/-- Waking loses a pending event only when its waker does not send it again. -/
theorem pending_wake (t : TcpStack S) (i : ℕ) (side : Side) :
    (t.wake i side).pending + ↑((t.waker i side).toList.filter fun e =>
      !(e.resends && t.operation_event.connected)) = t.pending := by
  cases h : t.waker i side with
  | none => rw [wake_of_none h]; simp
  | some e =>
    have hp : (t.wake i side).parked = (t.unregister i side).parked := by
      rw [wake_of_some h, run_waker_eq]
      rfl
    rw [pending, pending, queue_wake, hp, ← parked_unregister h, h, ← Multiset.coe_add]
    cases hr : e.resends && t.operation_event.connected with
    | true =>
      simp only [Option.toList_some, List.filter_singleton, hr, Bool.not_true, cond_true,
        cond_false, Multiset.coe_singleton, Multiset.coe_nil]
      abel
    | false =>
      simp only [Option.toList_some, List.filter_singleton, hr, Bool.not_false, cond_true,
        cond_false, Multiset.coe_singleton, Multiset.coe_nil]
      abel

/-- The closure of a waker answers its request unless it sends it again. -/
theorem waker_answers_fst (t : TcpStack S) (e : OperationEvent) :
    (t.waker_answers e).map Prod.fst =
      ([e].filter fun e => !(e.resends && t.operation_event.connected)).filterMap result_tx := by
  cases e <;> cases hc : t.operation_event.connected <;>
    simp [waker_answers, wake_failed, resends, result_tx, hc]

/-- Waking keeps the account of requests. -/
theorem requests_wake (t : TcpStack S) (i : ℕ) (side : Side) :
    (t.wake i side).requests = t.requests := by
  cases h : t.waker i side with
  | none => rw [wake_of_none h]
  | some e =>
    have ha : (t.wake i side).answers = t.answers ++ t.waker_answers e := by
      rw [wake_of_some h, run_waker_eq]
      cases e <;> rfl
    rw [requests, requests, ← pending_wake t i side, ha, h, List.map_append, waker_answers_fst,
      Multiset.filterMap_add, ← Multiset.coe_add]
    simp only [Option.toList_some, Multiset.filterMap_coe]
    abel

/-- The closure of a waker answers its own request. -/
theorem result_tx_of_waker_answers {t : TcpStack S} {e : OperationEvent} {a : ResultTx × Answer}
    (h : a ∈ t.waker_answers e) : e.result_tx = some a.1 := by
  have hm : a.1 ∈ (t.waker_answers e).map Prod.fst := List.mem_map_of_mem h
  rw [waker_answers_fst] at hm
  obtain ⟨e', he', htx⟩ := List.mem_filterMap.mp hm
  obtain rfl : e' = e := by simpa using List.mem_of_mem_filter he'
  exact htx

/-- An answer to the request `e` that comes without any effect: a Read, Write, Recv, or Send gets an
error. -/
def Declines (e : OperationEvent) (a : ResultTx × Answer) : Prop :=
  e.result_tx = some a.1 ∧ (e.deferred.isSome = true → ∃ err, a.2 = .error err)

/-- A waker that gives an answer has done nothing for its request. -/
theorem declines_of_waker_answers {t : TcpStack S} {e : OperationEvent} {a : ResultTx × Answer}
    (h : a ∈ t.waker_answers e) : Declines e a := by
  refine ⟨result_tx_of_waker_answers h, fun deferred => ?_⟩
  cases e <;> cases hc : t.operation_event.connected <;>
    simp_all [waker_answers, wake_failed, OperationEvent.deferred]

/-- The errors that `t'` has answered and `t` has not are those of wakers that found the event
channel without its receiver. -/
def Breaks (t t' : TcpStack S) : Prop :=
  ∀ (tx : ResultTx) err, (tx, .error err) ∈ t'.answers → (tx, .error err) ∈ t.answers ∨
    t.operation_event.connected = false ∧ ∃ text, err = .message .broken_pipe text

/-- Nothing is answered. -/
theorem Breaks.same {t t' : TcpStack S} (answers : t'.answers = t.answers) : Breaks t t' :=
  fun _ _ answered => .inl (answers ▸ answered)

/-- A waker that finds the receiver gives no error. -/
theorem breaks_wake (t : TcpStack S) (i : ℕ) (side : Side) : Breaks t (t.wake i side) := by
  cases h : t.waker i side with
  | none => exact .same (by rw [wake_of_none h])
  | some e =>
    intro tx err answered
    rw [wake_of_some h, run_waker_eq] at answered
    rcases List.mem_append.mp answered with old | new
    · exact .inl old
    · refine .inr ?_
      have new : (tx, .error err) ∈ t.waker_answers e := new
      cases e <;> cases hc : t.operation_event.connected <;>
        simp_all [waker_answers, wake_failed]

/-- All that is answered when a waker is run is that its event could not be sent. -/
theorem answers_wake (t : TcpStack S) (i : ℕ) (side : Side) :
    ∃ new, (t.wake i side).answers = t.answers ++ new ∧
      ∀ a ∈ new, ∃ e, t.waker i side = some e ∧ Declines e a := by
  cases h : t.waker i side with
  | none => exact ⟨[], by rw [wake_of_none h, List.append_nil], by simp⟩
  | some e =>
    refine ⟨t.waker_answers e, ?_, fun a ha => ⟨e, rfl, declines_of_waker_answers ha⟩⟩
    rw [wake_of_some h, run_waker_eq]
    cases e <;> rfl

/-- `t'` comes from `t` by running wakers. -/
structure Wakes (t t' : TcpStack S) : Prop where
  same : SameTables t t'
  socket_at : t'.socket_at = t.socket_at
  waker : ∀ i side, t'.waker i side = t.waker i side ∨ t'.waker i side = none
  channel : ∃ resent, t'.operation_event = t.operation_event.extend resent
  moved : ∀ i side e, t.waker i side = some e → e.resends = true →
    t.operation_event.connected = true →
    t'.waker i side = some e ∨ e ∈ t'.operation_event.queue
  pending : t'.pending ≤ t.pending
  requests : t'.requests = t.requests
  tcp_stream : t'.tcp_stream = t.tcp_stream
  udp_stream : t'.udp_stream = t.udp_stream
  interface : t'.interface = t.interface
  virtual_iface : t'.virtual_iface = t.virtual_iface
  memory : t'.memory = t.memory
  answers : ∃ new, t'.answers = t.answers ++ new ∧
    ∀ a ∈ new, ∃ i side e, t.waker i side = some e ∧ Declines e a
  breaks : Breaks t t'
  connected : t'.operation_event.connected = t.operation_event.connected

/-- A stack may come from itself by waking nothing. -/
theorem Wakes.refl (t : TcpStack S) : Wakes t t where
  same := .refl t
  socket_at := rfl
  waker _ _ := .inl rfl
  channel := ⟨[], by simp⟩
  moved _ _ _ h _ _ := .inl h
  pending := le_rfl
  requests := rfl
  tcp_stream := rfl
  udp_stream := rfl
  interface := rfl
  virtual_iface := rfl
  memory := rfl
  answers := ⟨[], (List.append_nil _).symm, by simp⟩
  breaks := .same rfl
  connected := rfl

/-- A waker that the run leaves was registered before it. -/
theorem Wakes.waker_of_some {t t' : TcpStack S} (wakes : Wakes t t') {i : ℕ} {side : Side}
    {e : OperationEvent} (h : t'.waker i side = some e) : t.waker i side = some e := by
  rcases wakes.waker i side with kept | taken
  · rwa [kept] at h
  · rw [taken] at h
    cases h

/-- Waking some and then others is waking. -/
theorem Wakes.trans {t u v : TcpStack S} (h : Wakes t u) (h' : Wakes u v) : Wakes t v where
  same := h.same.trans h'.same
  socket_at := h'.socket_at.trans h.socket_at
  waker i side := by
    rcases h'.waker i side with hv | hv
    · rw [hv]
      exact h.waker i side
    · exact .inr hv
  channel := by
    obtain ⟨r, hr⟩ := h.channel
    obtain ⟨r', hr'⟩ := h'.channel
    exact ⟨r ++ r', by rw [hr', hr, Channel.extend_append]⟩
  moved i side e hw hr hc := by
    obtain ⟨r, hq⟩ := h'.channel
    rcases h.moved i side e hw hr hc with hu | hu
    · exact h'.moved i side e hu hr (by rw [h.connected, hc])
    · exact .inr (by rw [hq]; exact List.mem_append_left _ hu)
  pending := h'.pending.trans h.pending
  requests := h'.requests.trans h.requests
  tcp_stream := h'.tcp_stream.trans h.tcp_stream
  udp_stream := h'.udp_stream.trans h.udp_stream
  interface := h'.interface.trans h.interface
  virtual_iface := h'.virtual_iface.trans h.virtual_iface
  memory := h'.memory.trans h.memory
  answers := by
    obtain ⟨new, hn, hfrom⟩ := h.answers
    obtain ⟨new', hn', hfrom'⟩ := h'.answers
    refine ⟨new ++ new', by rw [hn', hn, List.append_assoc], fun a ha => ?_⟩
    rcases List.mem_append.mp ha with ha | ha
    · exact hfrom a ha
    · obtain ⟨i, side, e, hw, declines⟩ := hfrom' a ha
      exact ⟨i, side, e, h.waker_of_some hw, declines⟩
  breaks tx err answered := by
    rcases h'.breaks tx err answered with before | ⟨disconnected, text⟩
    · exact h.breaks tx err before
    · exact .inr ⟨h.connected ▸ disconnected, text⟩
  connected := h'.connected.trans h.connected

/-- Waking one side is waking. -/
theorem wakes_wake (t : TcpStack S) (i : ℕ) (side : Side) : Wakes t (t.wake i side) where
  same := same_wake t i side
  socket_at := by funext j; simp
  waker j side' := by
    rw [waker_wake]
    split_ifs
    · exact .inr rfl
    · exact .inl rfl
  channel := ⟨_, channel_wake t i side⟩
  moved j side' e hw hr hc := by
    rw [waker_wake, queue_wake]
    split_ifs with hj
    · rw [hj.1, hj.2] at hw
      simp [hw, hr, hc]
    · exact .inl hw
  pending := by
    rw [← pending_wake t i side]
    exact Multiset.le_add_right _ _
  requests := requests_wake t i side
  tcp_stream := by
    cases h : t.waker i side with
    | none => rw [wake_of_none h]
    | some e => rw [wake_of_some h, run_waker_eq]; rfl
  udp_stream := by
    cases h : t.waker i side with
    | none => rw [wake_of_none h]
    | some e => rw [wake_of_some h, run_waker_eq]; rfl
  interface := by
    cases h : t.waker i side with
    | none => rw [wake_of_none h]
    | some e => rw [wake_of_some h, run_waker_eq]; rfl
  virtual_iface := by
    cases h : t.waker i side with
    | none => rw [wake_of_none h]
    | some e => rw [wake_of_some h, run_waker_eq]; rfl
  memory := by
    cases h : t.waker i side with
    | none => rw [wake_of_none h]
    | some e => rw [wake_of_some h, run_waker_eq]; rfl
  answers := by
    obtain ⟨new, hn, hfrom⟩ := answers_wake t i side
    exact ⟨new, hn, fun a ha => ⟨i, side, hfrom a ha⟩⟩
  breaks := breaks_wake t i side
  connected := connected_wake t i side

/-- Waking both sides of a socket is waking. -/
theorem wakes_wake_both (t : TcpStack S) (i : ℕ) : Wakes t (t.wake_both i) :=
  (wakes_wake t i .recv).trans (wakes_wake _ i .send)

/-- Waking a list of sides one by one is waking. -/
theorem wakes_foldl (woken : List (ℕ × Side)) (t : TcpStack S) :
    Wakes t (woken.foldl (fun t w => t.wake w.1 w.2) t) := by
  induction woken generalizing t with
  | nil => exact .refl t
  | cons w woken ih => exact (wakes_wake t w.1 w.2).trans (ih _)

/-- A waker that is woken has run. -/
theorem waker_foldl {woken : List (ℕ × Side)} {i : ℕ} {side : Side} (h : (i, side) ∈ woken)
    (t : TcpStack S) : (woken.foldl (fun t w => t.wake w.1 w.2) t).waker i side = none := by
  induction woken generalizing t with
  | nil => cases h
  | cons w woken ih =>
    rw [List.foldl_cons]
    rcases List.mem_cons.mp h with rfl | h
    · have none : (t.wake i side).waker i side = none := by rw [waker_wake, if_pos ⟨rfl, rfl⟩]
      rcases (wakes_foldl woken (t.wake i side)).waker i side with kept | taken
      · rw [kept, none]
      · exact taken
    · exact ih h _

/-- A waker that is not woken stays. -/
theorem waker_foldl_of_not_mem {woken : List (ℕ × Side)} {i : ℕ} {side : Side}
    (h : (i, side) ∉ woken) (t : TcpStack S) :
    (woken.foldl (fun t w => t.wake w.1 w.2) t).waker i side = t.waker i side := by
  induction woken generalizing t with
  | nil => rfl
  | cons w woken ih =>
    have other : ¬ (i = w.1 ∧ side = w.2) := by
      rintro ⟨rfl, rfl⟩
      exact h List.mem_cons_self
    rw [List.foldl_cons, ih (fun mem => h (List.mem_cons_of_mem _ mem)), waker_wake, if_neg other]

/-! ## What wakers say -/

/-- What was put into channels between `t` and `t'` comes from wakers of slot `i`: answers to the
requests of these wakers, and their events sent again. -/
structure WokenAt (t : TcpStack S) (i : ℕ) (t' : TcpStack S) : Prop where
  answers : ∃ new, t'.answers = t.answers ++ new ∧
    ∀ a ∈ new, ∃ side e, t.waker i side = some e ∧ e.result_tx = some a.1
  resent : ∃ new, t'.operation_event = t.operation_event.extend new ∧
    ∀ e ∈ new, ∃ side, t.waker i side = some e

/-- A stack may come from itself by waking nothing at a slot. -/
theorem WokenAt.refl (t : TcpStack S) (i : ℕ) : WokenAt t i t where
  answers := ⟨[], (List.append_nil _).symm, by simp⟩
  resent := ⟨[], (Channel.extend_nil _).symm, by simp⟩

/-- Wakers that are there after the first step were there before it. -/
theorem WokenAt.trans {t u v : TcpStack S} {i : ℕ} (h : WokenAt t i u) (h' : WokenAt u i v)
    (waker : ∀ side e, u.waker i side = some e → t.waker i side = some e) : WokenAt t i v where
  answers := by
    obtain ⟨new, hn, hfrom⟩ := h.answers
    obtain ⟨new', hn', hfrom'⟩ := h'.answers
    refine ⟨new ++ new', by rw [hn', hn, List.append_assoc], fun a ha => ?_⟩
    rcases List.mem_append.mp ha with ha | ha
    · exact hfrom a ha
    · obtain ⟨side, e, hw, htx⟩ := hfrom' a ha
      exact ⟨side, e, waker side e hw, htx⟩
  resent := by
    obtain ⟨new, hn, hfrom⟩ := h.resent
    obtain ⟨new', hn', hfrom'⟩ := h'.resent
    refine ⟨new ++ new', by rw [hn', hn, Channel.extend_append], fun e he => ?_⟩
    rcases List.mem_append.mp he with he | he
    · exact hfrom e he
    · obtain ⟨side, hw⟩ := hfrom' e he
      exact ⟨side, waker side e hw⟩

/-- Waking a side of a slot wakes at that slot only. -/
theorem woken_wake (t : TcpStack S) (i : ℕ) (side : Side) : WokenAt t i (t.wake i side) where
  answers := by
    obtain ⟨new, hn, hfrom⟩ := answers_wake t i side
    refine ⟨new, hn, fun a ha => ?_⟩
    obtain ⟨e, hw, declines⟩ := hfrom a ha
    exact ⟨side, e, hw, declines.1⟩
  resent := by
    refine ⟨_, channel_wake t i side, fun e he => ⟨side, ?_⟩⟩
    exact Option.mem_toList.mp (List.mem_filter.mp he).1

/-- Waking both sides of a slot wakes at that slot only. -/
theorem woken_wake_both (t : TcpStack S) (i : ℕ) : WokenAt t i (t.wake_both i) := by
  refine (woken_wake t i .recv).trans (woken_wake _ i .send) fun side e hw => ?_
  rw [waker_wake] at hw
  split_ifs at hw
  exact hw

/-! ## Slots that are left alone -/

/-- Setting a socket leaves the other slots. -/
theorem val_put_of_ne (t : TcpStack S) {i j : ℕ} (h : j ≠ i) (socket : S.Socket) :
    (t.put i socket).socket_set.val j = t.socket_set.val j := by
  rw [put, Arena.val_modify, if_neg h]

/-- Registering a waker leaves the other slots. -/
theorem val_register_of_ne (t : TcpStack S) {i j : ℕ} (h : j ≠ i) (side : Side)
    (e : OperationEvent) : (t.register i side e).socket_set.val j = t.socket_set.val j := by
  rw [register, Arena.val_modify, if_neg h]

/-- Waking a side of a slot leaves the other slots. -/
theorem val_wake_of_ne (t : TcpStack S) {i j : ℕ} (h : j ≠ i) (side : Side) :
    (t.wake i side).socket_set.val j = t.socket_set.val j := by
  cases hw : t.waker i side with
  | none => rw [wake_of_none hw]
  | some e =>
    rw [wake_of_some hw, run_waker_eq]
    dsimp only [unregister]
    rw [Arena.val_modify, if_neg h]

/-- Waking both sides of a slot leaves the other slots. -/
theorem val_wake_both_of_ne (t : TcpStack S) {i j : ℕ} (h : j ≠ i) :
    (t.wake_both i).socket_set.val j = t.socket_set.val j := by
  rw [wake_both, val_wake_of_ne _ h, val_wake_of_ne _ h]

/-- Closing a TCP socket leaves the other slots. -/
theorem val_close_tcp_of_ne (t : TcpStack S) {i j : ℕ} (h : j ≠ i) (c : S.Tcp) :
    (t.close_tcp i c).socket_set.val j = t.socket_set.val j := by
  unfold close_tcp
  dsimp only
  split_ifs
  · exact val_put_of_ne t h _
  · rw [val_wake_both_of_ne _ h, val_put_of_ne t h]

/-- Closing a UDP socket leaves the other slots. -/
theorem val_close_udp_of_ne (t : TcpStack S) {i j : ℕ} (h : j ≠ i) (u : S.Udp) :
    (t.close_udp i u).socket_set.val j = t.socket_set.val j := by
  rw [close_udp, val_wake_both_of_ne _ h, val_put_of_ne t h]

/-! ## `close` -/

/-- `close` of a TCP socket sets its value, and may run wakers. -/
theorem wakes_close_tcp (t : TcpStack S) (i : ℕ) (c : S.Tcp) :
    Wakes (t.put i (.tcp (S.tcp.close c))) (t.close_tcp i c) := by
  unfold close_tcp
  dsimp only
  split_ifs
  · exact .refl _
  · exact wakes_wake_both _ i

/-- `close` of a UDP socket resets its value, and runs its wakers. -/
theorem wakes_close_udp (t : TcpStack S) (i : ℕ) (u : S.Udp) :
    Wakes (t.put i (.udp (S.udp.close u))) (t.close_udp i u) := wakes_wake_both _ i

/-- Setting the value of a socket leaves its wakers alone. -/
theorem WokenAt.of_put {t t' : TcpStack S} {i : ℕ} {socket : S.Socket}
    (h : WokenAt (t.put i socket) i t') : WokenAt t i t' := by
  refine WokenAt.trans (u := t.put i socket) ⟨?_, ?_⟩ h fun side e hw => ?_
  · exact ⟨[], (List.append_nil _).symm, by simp⟩
  · exact ⟨[], (Channel.extend_nil _).symm, by simp⟩
  · rwa [waker_put] at hw

/-- Closing a TCP socket wakes at its slot only. -/
theorem woken_close_tcp (t : TcpStack S) (i : ℕ) (c : S.Tcp) :
    WokenAt t i (t.close_tcp i c) := by
  unfold close_tcp
  dsimp only
  split_ifs
  · exact WokenAt.of_put (.refl _ i)
  · exact (woken_wake_both _ i).of_put

/-- Closing a UDP socket wakes at its slot only. -/
theorem woken_close_udp (t : TcpStack S) (i : ℕ) (u : S.Udp) :
    WokenAt t i (t.close_udp i u) := (woken_wake_both _ i).of_put

end TcpStack

end L3Extract
