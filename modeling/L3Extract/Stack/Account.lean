import L3Extract.Stack.Tables

/-!
# The account of events and requests

Handling an event takes it from the batch that it came in. This module says where it goes: into a
waker, into an acceptor's channel, or nowhere, and which other events are lost on the way. An event
is lost only when a waker is overwritten by another one or goes with its socket.
-/

namespace L3Extract

open OperationEvent

variable {S : Smoltcp}

namespace TcpStack

/-! ## Requests after each primitive operation -/

/-- Setting a socket leaves the requests. -/
theorem requests_put (t : TcpStack S) (i : ℕ) (socket : S.Socket) :
    (t.put i socket).requests = t.requests :=
  congrArg (fun p => Multiset.filterMap result_tx p + _) (pending_put t i socket)

/-- Registering a waker exchanges the requests of the two events. -/
theorem requests_register {t : TcpStack S} {i : ℕ} (h : (t.socket_at i).isSome) (side : Side)
    (e : OperationEvent) :
    (t.register i side e).requests + (↑(t.waker i side).toList : Multiset _).filterMap result_tx =
      ↑e.result_tx.toList + t.requests := by
  have hp := congrArg (Multiset.filterMap result_tx) (pending_register h side e)
  rw [Multiset.filterMap_add, Multiset.filterMap_add, filterMap_singleton] at hp
  have ha : (t.register i side e).answers = t.answers := rfl
  rw [requests, requests, ha]
  calc (t.register i side e).pending.filterMap result_tx + ↑(t.answers.map Prod.fst) +
        (↑(t.waker i side).toList : Multiset _).filterMap result_tx
      = ((t.register i side e).pending.filterMap result_tx +
        (↑(t.waker i side).toList : Multiset _).filterMap result_tx) +
        ↑(t.answers.map Prod.fst) := by abel
    _ = _ := by rw [hp]; abel

/-- An answer is a request that is settled. -/
theorem requests_answer (t : TcpStack S) (tx : ResultTx) (a : Answer) :
    (t.answer tx a).requests = {tx} + t.requests := by
  have hp : (t.answer tx a).pending = t.pending := rfl
  have ha : (t.answer tx a).answers = t.answers ++ [(tx, a)] := rfl
  rw [requests, requests, hp, ha, List.map_append, ← Multiset.coe_add]
  simp only [List.map_cons, List.map_nil, Multiset.coe_singleton]
  abel

/-- `close` of a TCP socket only moves events. -/
theorem requests_close_tcp (t : TcpStack S) (i : ℕ) (c : S.Tcp) :
    (t.close_tcp i c).requests = t.requests := by
  rw [(wakes_close_tcp t i c).requests, requests_put]

/-- Closing a TCP socket makes no event pending. -/
theorem pending_close_tcp_le (t : TcpStack S) (i : ℕ) (c : S.Tcp) :
    (t.close_tcp i c).pending ≤ t.pending := by
  rw [← pending_put t i (.tcp (S.tcp.close c))]
  exact (wakes_close_tcp t i c).pending

/-- A waker's event is among the pending ones. -/
theorem mem_parked_of_waker {t : TcpStack S} {i : ℕ} {side : Side} {e : OperationEvent}
    (h : t.waker i side = some e) : e ∈ t.parked := by
  rw [← parked_unregister h]
  simp

/-- What is parked is pending. -/
theorem mem_pending_of_waker {t : TcpStack S} {i : ℕ} {side : Side} {e : OperationEvent}
    (h : t.waker i side = some e) : e ∈ t.pending :=
  Multiset.mem_add.mpr (.inr (mem_parked_of_waker h))

/-- What waits in the event channel is pending. -/
theorem mem_pending_of_queue {t : TcpStack S} {e : OperationEvent}
    (h : e ∈ t.operation_event.queue) : e ∈ t.pending :=
  Multiset.mem_add.mpr (.inl (Multiset.mem_coe.mpr h))

/-- A parked event is in some waker. -/
theorem exists_waker_of_mem_parked {t : TcpStack S} {e : OperationEvent} (h : e ∈ t.parked) :
    ∃ i side, t.waker i side = some e := by
  obtain ⟨i, item, hi, he⟩ := Arena.exists_of_mem_sum h
  rcases Multiset.mem_add.mp he with he | he
  · exact ⟨i, .recv, by simpa [waker, hi, eq_comm] using he⟩
  · exact ⟨i, .send, by simpa [waker, hi, eq_comm] using he⟩

/-- An event whose waker sends it again stays pending when wakers run. -/
theorem Wakes.mem_pending {t t' : TcpStack S} (wakes : Wakes t t') {e : OperationEvent}
    (h : e ∈ t.pending) (resends : e.resends = true)
    (connected : t.operation_event.connected = true) : e ∈ t'.pending := by
  rcases Multiset.mem_add.mp h with h | h
  · obtain ⟨resent, hq⟩ := wakes.channel
    refine mem_pending_of_queue ?_
    rw [hq]
    exact List.mem_append_left _ (Multiset.mem_coe.mp h)
  · obtain ⟨i, side, hw⟩ := exists_waker_of_mem_parked h
    rcases wakes.moved i side e hw resends connected with hw | hq
    · exact mem_pending_of_waker hw
    · exact mem_pending_of_queue hq

/-- The events parked at a slot go with its socket. -/
theorem pending_remove {t : TcpStack S} {i : ℕ} (h : (t.socket_at i).isSome) :
    ({ t with socket_set := t.socket_set.remove i } : TcpStack S).pending +
      (↑(t.waker i .recv).toList + ↑(t.waker i .send).toList) = t.pending := by
  obtain ⟨item, hi⟩ := Option.isSome_iff_exists.mp (by simpa [socket_at] using h)
  have hw : ∀ side, t.waker i side = item.wakers side := fun side => by simp [waker, hi]
  have hsum := Arena.sum_remove Item.parked hi
  rw [Item.parked, ← hw, ← hw] at hsum
  simp only [pending, parked]
  rw [← hsum]
  abel

/-! ## Where a handled event goes -/

/-- Handling an event makes no new pending event. -/
theorem Outcome.pending_le {t t' : TcpStack S} {e : OperationEvent} (outcome : Outcome t e t') :
    t'.pending ≤ {e} + t.pending := by
  cases outcome with
  | answered tx a result_tx refuses eq =>
    subst eq
    exact Multiset.le_add_left _ _
  | served tx a s s' memory result_tx found socket serves eq =>
    subst eq
    have hp : (t.put e.index s').pending ≤ {e} + t.pending := by
      rw [pending_put]
      exact Multiset.le_add_left _ _
    exact hp
  | parked side parks eq =>
    subst eq
    exact pending_register_le t _ side e
  | shutdown handle tx c event found socket eq =>
    subst eq
    exact (pending_close_tcp_le _ _ c).trans (pending_register_le t _ _ e)
  | closing handle c event found socket active eq =>
    subst eq
    exact (pending_register_le _ _ _ e).trans
      (add_le_add_right (pending_close_tcp_le t _ c) {e})
  | removed h s s' accepted u event found socket closes wakes others woken eq =>
    subst eq
    have hu : (u.socket_at h.handle.index).isSome := by
      rw [wakes.socket_at, socket_at_put, socket]
      rfl
    have hp := wakes.pending
    rw [pending_put] at hp
    -- The wakers that are left at the socket go with it.
    have hr : ({ u with socket_set := u.socket_set.remove h.handle.index } : TcpStack S).pending ≤
        u.pending := by
      rw [← pending_remove hu]
      exact Multiset.le_add_right _ _
    exact (hr.trans hp).trans (Multiset.le_add_left _ _)
  | delivered_tcp handle c remote local_ event socket may_recv remote_eq local_eq eq =>
    subst eq
    exact Multiset.le_add_left t.pending {e}
  | delivered_udp handle u ip event socket bound eq =>
    subst eq
    exact Multiset.le_add_left t.pending {e}
  | ignored h event gone eq =>
    subst eq
    exact Multiset.le_add_left _ _

/-- What handling an event does to the tables, to the pending events, and to the channels of the
acceptors. -/
inductive Summary (t : TcpStack S) (e : OperationEvent) (t' : TcpStack S) : Prop
  | kept (same : SameTables t t') (pending : t'.pending ≤ {e} + t.pending)
      (tcp_stream : t'.tcp_stream = t.tcp_stream) (udp_stream : t'.udp_stream = t.udp_stream)
  | removed (h : TypedSocketHandle) (event : e = .close h) (removes : Removes t h t')
      (pending : t'.pending ≤ t.pending)
  | delivered_tcp (handle : SocketHandle) (remote local_ : IpEndpoint)
      (event : e = .ready (.tcp handle)) (same : SameTables t t') (pending : t'.pending = t.pending)
      (tcp_stream : t'.tcp_stream =
        t.tcp_stream.send ⟨handle, remote.socket_addr, local_.socket_addr⟩)
      (udp_stream : t'.udp_stream = t.udp_stream)
  | delivered_udp (handle : SocketHandle) (addr : SocketAddr) (event : e = .ready (.udp handle))
      (same : SameTables t t') (pending : t'.pending = t.pending)
      (tcp_stream : t'.tcp_stream = t.tcp_stream)
      (udp_stream : t'.udp_stream = t.udp_stream.send ⟨handle, addr⟩)

/-- A removed socket takes its parked events with it. -/
theorem pending_of_removed {t u : TcpStack S} {h : TypedSocketHandle} {s s' : S.Socket}
    (socket : t.socket_at h.handle.index = some s) (wakes : Wakes (t.put h.handle.index s') u) :
    ({ u with socket_set := u.socket_set.remove h.handle.index } : TcpStack S).pending +
      (↑(u.waker h.handle.index .recv).toList + ↑(u.waker h.handle.index .send).toList) =
      u.pending :=
  pending_remove (by rw [wakes.socket_at, socket_at_put, socket]; rfl)

/-- Every outcome of a handler is of one of these kinds. -/
theorem Outcome.summary {t t' : TcpStack S} {e : OperationEvent} (outcome : Outcome t e t') :
    Summary t e t' := by
  have pending := outcome.pending_le
  have tables := outcome.tables
  cases outcome with
  | removed h s s' accepted u event found socket closes wakes others woken eq =>
    rcases tables with same | ⟨h', event', removes⟩
    · -- The socket is gone from its slot, so the tables are not the same.
      exfalso
      have hgen := congrFun same.gen h.handle.index
      have hk := gen_isSome t h.handle.index
      rw [← hgen, eq, socket] at hk
      simp [Arena.gen_remove] at hk
    · obtain rfl : h = h' := by rw [event] at event'; cases event'; rfl
      refine .removed h event removes ?_
      have hp := wakes.pending
      rw [pending_put, ← pending_of_removed socket wakes] at hp
      rw [eq]
      exact (Multiset.le_add_right _ _).trans hp
  | delivered_tcp handle c remote local_ event socket may_recv remote_eq local_eq eq =>
    subst eq
    exact .delivered_tcp handle remote local_ event ⟨rfl, rfl, rfl, rfl, rfl⟩ rfl rfl rfl
  | delivered_udp handle u ip event socket bound eq =>
    subst eq
    exact .delivered_udp handle _ event ⟨rfl, rfl, rfl, rfl, rfl⟩ rfl rfl rfl
  | answered tx a result_tx refuses eq =>
    subst eq
    exact .kept (same_answer t tx a) pending rfl rfl
  | served tx a s s' memory result_tx found socket serves eq =>
    subst eq
    rcases tables with same | ⟨h, rfl, -⟩
    · exact .kept same pending rfl rfl
    · cases result_tx
  | parked side parks eq =>
    subst eq
    exact .kept (same_register t _ side e) pending rfl rfl
  | shutdown handle tx c event found socket eq =>
    rcases tables with same | ⟨h, event', -⟩
    · have wakes := wakes_close_tcp (t.register handle.index .send e) handle.index c
      rw [← eq] at wakes
      exact .kept same pending wakes.tcp_stream wakes.udp_stream
    · rw [event] at event'
      cases event'
  | closing handle c event found socket active eq =>
    have wakes := wakes_close_tcp t handle.index c
    have hput := same_put (.tcp (S.tcp.close c)) (kind_of_tcp socket)
    subst eq
    exact .kept ((hput.trans wakes.same).trans (same_register _ _ _ _)) pending
      wakes.tcp_stream wakes.udp_stream
  | ignored h event gone eq =>
    subst eq
    exact .kept (.refl _) pending rfl rfl

/-! ## Which requests are lost -/

/-- The side on which the handler of a request, of a Ready, or of a Shutdown registers a waker, if
it does. -/
def parks (t : TcpStack S) : OperationEvent → Option Side
  | .ready (.tcp handle) =>
    (t.tcp_at handle.index).bind fun c => if S.tcp.may_recv c then none else some .recv
  | .read handle _ _ =>
    if t.contains (.tcp handle) then (t.tcp_at handle.index).bind fun c =>
      if S.tcp.recv_queue c = 0 ∧ S.tcp.may_recv c then some .recv else none
    else none
  | .write handle _ _ =>
    if t.contains (.tcp handle) then (t.tcp_at handle.index).bind fun c =>
      if !S.tcp.can_send c ∧ S.tcp.may_send c then some .send else none
    else none
  | .recv handle _ _ =>
    if t.contains (.udp handle) then (t.udp_at handle.index).bind fun u =>
      if S.udp.can_recv u then none else some .recv
    else none
  | .send handle _ _ _ =>
    if t.contains (.udp handle) then (t.udp_at handle.index).bind fun u =>
      if S.udp.can_send u then none else some .send
    else none
  | .shutdown (.tcp handle) _ => if t.contains (.tcp handle) then some .send else none
  | _ => none

/-- `parks` is what the handlers do. -/
theorem parks_of_parks {t : TcpStack S} {e : OperationEvent} {side : Side} (h : t.Parks e side) :
    t.parks e = some side := by
  cases h with
  | ready socket may_recv => simp [parks, tcp_at_eq_some.mpr socket, may_recv]
  | read found socket drained may_recv =>
    simp [parks, found, tcp_at_eq_some.mpr socket, drained, may_recv]
  | write found socket full may_send =>
    simp [parks, found, tcp_at_eq_some.mpr socket, full, may_send]
  | recv found socket drained => simp [parks, found, udp_at_eq_some.mpr socket, drained]
  | send found socket full => simp [parks, found, udp_at_eq_some.mpr socket, full]

/-- A handler registers a waker only on a side on which the event waits. -/
theorem waits_of_parks {t : TcpStack S} {e : OperationEvent} {side : Side}
    (hp : t.parks e = some side) : e.waits side = true := by
  cases e with
  | ready h => rfl
  | close h => cases hp
  | shutdown h tx =>
    cases h with
    | tcp handle =>
      simp only [parks] at hp
      split_ifs at hp
      cases hp
      rfl
    | udp handle => cases hp
  | read handle buffer tx =>
    simp only [parks] at hp
    split_ifs at hp
    obtain ⟨c, -, hc⟩ := Option.bind_eq_some_iff.mp hp
    split_ifs at hc
    cases hc
    rfl
  | write handle buffer tx =>
    simp only [parks] at hp
    split_ifs at hp
    obtain ⟨c, -, hc⟩ := Option.bind_eq_some_iff.mp hp
    split_ifs at hc
    cases hc
    rfl
  | recv handle buffer tx =>
    simp only [parks] at hp
    split_ifs at hp
    obtain ⟨u, -, hu⟩ := Option.bind_eq_some_iff.mp hp
    split_ifs at hu
    cases hu
    rfl
  | send handle src buffer tx =>
    simp only [parks] at hp
    split_ifs at hp
    obtain ⟨u, -, hu⟩ := Option.bind_eq_some_iff.mp hp
    split_ifs at hu
    cases hu
    rfl

/-- The socket that a parked event waits for exists. -/
theorem Parks.socket {t : TcpStack S} {e : OperationEvent} {side : Side} (h : t.Parks e side) :
    (t.socket_at e.index).isSome := by
  cases h with
  | ready socket => exact Option.isSome_of_eq_some socket
  | read found socket => exact Option.isSome_of_eq_some socket
  | write found socket => exact Option.isSome_of_eq_some socket
  | recv found socket => exact Option.isSome_of_eq_some socket
  | send found socket => exact Option.isSome_of_eq_some socket

/-- The events whose wakers are lost when `e` is handled: the one that its own waker replaces, and
those at the socket that a Close closes. -/
def Loses (t : TcpStack S) (e lost : OperationEvent) : Prop :=
  (∃ side, t.parks e = some side ∧ t.waker e.index side = some lost) ∨
    ∃ h side, e = .close h ∧ t.waker h.handle.index side = some lost

/-- The wakers that a close leaves at the socket of a Close were there before, and are lost. -/
theorem Wakes.loses {t u : TcpStack S} {h : TypedSocketHandle} {s : S.Socket}
    (wakes : Wakes (t.put h.handle.index s) u) {side : Side} {e : OperationEvent}
    (left : u.waker h.handle.index side = some e) : t.Loses (.close h) e := by
  have was := wakes.waker_of_some left
  rw [waker_put] at was
  exact .inr ⟨h, side, rfl, was⟩

/-- An event that is pending while another is handled stays pending, or is lost. -/
theorem Outcome.mem_pending {t t' : TcpStack S} {e e₀ : OperationEvent} (outcome : Outcome t e t')
    (h : e₀ ∈ t.pending) (resends : e₀.resends = true)
    (connected : t.operation_event.connected = true) : e₀ ∈ t'.pending ∨ t.Loses e e₀ := by
  -- Registering a waker loses only the event that was parked there.
  have register : ∀ {u : TcpStack S} {i : ℕ} {side : Side}, (u.socket_at i).isSome →
      e₀ ∈ u.pending → e₀ ∈ (u.register i side e).pending ∨ u.waker i side = some e₀ := by
    intro u i side hs hu
    have hm : e₀ ∈ {e} + u.pending := Multiset.mem_add.mpr (.inr hu)
    rw [← pending_register hs side e] at hm
    rcases Multiset.mem_add.mp hm with hm | hm
    · exact .inl hm
    · exact .inr (by simpa [eq_comm] using hm)
  cases outcome with
  | answered tx a result_tx refuses eq => subst eq; exact .inl h
  | served tx a s s' memory result_tx found socket serves eq =>
    have hp : t'.pending = (t.put e.index s').pending := by rw [eq]; rfl
    rw [hp, pending_put]
    exact .inl h
  | parked side park eq =>
    subst eq
    rcases register park.socket h with h | hw
    · exact .inl h
    · exact .inr (.inl ⟨side, parks_of_parks park, hw⟩)
  | shutdown handle tx c event found socket eq =>
    subst eq event
    rcases register (Option.isSome_of_eq_some socket) h with h | hw
    · refine .inl ((wakes_close_tcp _ _ c).mem_pending ?_ resends connected)
      rwa [pending_put]
    · exact .inr (.inl ⟨.send, by simp [parks, found], hw⟩)
  | closing handle c event found socket active eq =>
    subst eq event
    have wakes := wakes_close_tcp t handle.index c
    have hs : ((t.close_tcp handle.index c).socket_at handle.index).isSome := by
      rw [wakes.socket_at, socket_at_put, socket]
      rfl
    have hclosed := wakes.mem_pending (by rwa [pending_put]) resends connected
    rcases register hs hclosed with h | hw
    · exact .inl h
    · exact .inr (wakes.loses hw)
  | removed h' s s' accepted u event found socket closes wakes others woken eq =>
    subst event
    have hclosed := wakes.mem_pending (by rwa [pending_put]) resends connected
    rw [← pending_of_removed socket wakes] at hclosed
    have lost : ∀ {side}, e₀ ∈ (↑(u.waker h'.handle.index side).toList : Multiset OperationEvent) →
        t.Loses (.close h') e₀ := by
      intro side hm
      have hw : u.waker h'.handle.index side = some e₀ := by simpa [eq_comm] using hm
      exact wakes.loses hw
    rcases Multiset.mem_add.mp hclosed with hp | hp
    · rw [eq]
      exact .inl hp
    · rcases Multiset.mem_add.mp hp with hp | hp
      · exact .inr (lost hp)
      · exact .inr (lost hp)
  | delivered_tcp handle c remote local_ event socket may_recv remote_eq local_eq eq =>
    subst eq; exact .inl h
  | delivered_udp handle u ip event socket bound eq => subst eq; exact .inl h
  | ignored h' event gone eq => subst eq; exact .inl h

/-- Handling an event keeps the account of requests, but for those that it loses. -/
theorem Outcome.requests {t t' : TcpStack S} {e : OperationEvent} (outcome : Outcome t e t') :
    ∃ lost : Multiset OperationEvent, (∀ e₀ ∈ lost, t.Loses e e₀) ∧
      t'.requests + lost.filterMap result_tx = ↑e.result_tx.toList + t.requests := by
  cases outcome with
  | answered tx a result_tx refuses eq =>
    subst eq
    refine ⟨0, by simp, ?_⟩
    rw [requests_answer, result_tx]
    simp
  | served tx a s s' memory result_tx found socket serves eq =>
    have hr : t'.requests = ((t.put e.index s').answer tx a).requests := by rw [eq]; rfl
    refine ⟨0, by simp, ?_⟩
    rw [hr, requests_answer, requests_put, result_tx]
    simp
  | parked side park eq =>
    -- The waker that was registered before is lost.
    subst eq
    refine ⟨↑(t.waker e.index side).toList, ?_, requests_register park.socket side e⟩
    intro e₀ h₀
    exact .inl ⟨side, parks_of_parks park, by simpa [eq_comm] using h₀⟩
  | shutdown handle tx c event found socket eq =>
    subst eq event
    refine ⟨↑(t.waker handle.index .send).toList, ?_, ?_⟩
    · intro e₀ h₀
      have hw : t.waker handle.index .send = some e₀ := by simpa [eq_comm] using h₀
      exact .inl ⟨.send, by simp [parks, found], hw⟩
    · rw [requests_close_tcp]
      exact requests_register (Option.isSome_of_eq_some socket) _ _
  | closing handle c event found socket active eq =>
    subst eq event
    have wakes := wakes_close_tcp t handle.index c
    have hs : ((t.close_tcp handle.index c).socket_at handle.index).isSome := by
      rw [wakes.socket_at, socket_at_put, socket]
      rfl
    refine ⟨↑((t.close_tcp handle.index c).waker handle.index .recv).toList, ?_, ?_⟩
    · intro e₀ h₀
      have hw : (t.close_tcp handle.index c).waker handle.index .recv = some e₀ := by
        simpa [eq_comm] using h₀
      exact wakes.loses hw
    · rw [requests_register hs, requests_close_tcp]
  | removed h s s' accepted u event found socket closes wakes others woken eq =>
    -- The wakers that the close did not run go with the socket.
    subst event
    have hp := pending_of_removed socket wakes
    refine ⟨↑(u.waker h.handle.index .recv).toList + ↑(u.waker h.handle.index .send).toList,
      ?_, ?_⟩
    · intro e₀ h₀
      have hw : ∃ side, u.waker h.handle.index side = some e₀ := by
        rcases Multiset.mem_add.mp h₀ with h₀ | h₀
        · exact ⟨.recv, by simpa [eq_comm] using h₀⟩
        · exact ⟨.send, by simpa [eq_comm] using h₀⟩
      obtain ⟨side, hw⟩ := hw
      exact wakes.loses hw
    · have hu : u.requests = t.requests := by rw [wakes.requests, requests_put]
      have ht : t'.requests = ({ u with
          socket_set := u.socket_set.remove h.handle.index } : TcpStack S).pending.filterMap
          result_tx + ↑(u.answers.map Prod.fst) := by rw [eq]; rfl
      rw [ht, ← hu, TcpStack.requests, ← hp, Multiset.filterMap_add _ _ (_ + _)]
      simp only [result_tx, Option.toList_none, Multiset.coe_nil, zero_add]
      abel
  | delivered_tcp handle c remote local_ event socket may_recv remote_eq local_eq eq =>
    subst eq event
    exact ⟨0, by simp, by simp [result_tx]; rfl⟩
  | delivered_udp handle u ip event socket bound eq =>
    subst eq event
    exact ⟨0, by simp, by simp [result_tx]; rfl⟩
  | ignored h event gone eq =>
    subst eq event
    exact ⟨0, by simp, by simp [result_tx]⟩

/-! ## Before the events -/

/-- A packet that is queued leaves the requests. -/
theorem requests_push (t : TcpStack S) (packet : Option Packet) :
    (t.push packet).requests = t.requests := rfl

/-- Before it comes to its events, `drive_once` loses no event. -/
theorem Begins.mem_pending {t t' : TcpStack S} {packet : Option Packet} {now : ℕ}
    {res : Except DriveError Unit} (begins : Begins t packet now t' res) {e : OperationEvent}
    (h : e ∈ t.pending) (resends : e.resends = true)
    (connected : t.operation_event.connected = true) : e ∈ t'.pending := by
  cases begins with
  | failed => exact h
  | unready arrived opens adds disconnected =>
    rw [connected] at disconnected
    cases disconnected
  | polled quiet =>
    refine (wakes_poll (t.push packet) now).mem_pending ?_ resends connected
    rw [pending_advance]
    exact h
  | opened arrived opens adds =>
    rename_i p h' s accepted u
    refine (wakes_poll (u.push packet) now).mem_pending ?_ resends (adds.connected.trans connected)
    rw [pending_advance, show (u.push packet).pending = u.pending from rfl, adds.pending]
    exact Multiset.mem_add.mpr (.inr h)

/-- Before it comes to its events, `drive_once` answers no request and loses none. -/
theorem Begins.requests {t t' : TcpStack S} {packet : Option Packet} {now : ℕ}
    {res : Except DriveError Unit} (begins : Begins t packet now t' res) :
    t'.requests = t.requests := by
  cases begins with
  | failed => rfl
  | unready arrived opens adds => exact adds.requests
  | polled quiet => rw [requests_poll, requests_push]
  | opened arrived opens adds => rw [requests_poll, requests_push, adds.requests]

/-- Beginning a call does not disconnect the event channel. -/
theorem Begins.connected {t t' : TcpStack S} {packet : Option Packet} {now : ℕ}
    {res : Except DriveError Unit} (begins : Begins t packet now t' res) :
    t'.operation_event.connected = t.operation_event.connected := by
  cases begins with
  | failed => rfl
  | unready arrived opens adds => exact adds.connected
  | polled quiet => exact (wakes_poll (t.push packet) now).connected
  | opened arrived opens adds =>
    rename_i p h s accepted u
    exact (wakes_poll (u.push packet) now).connected.trans adds.connected

/-- Before it comes to its events, `drive_once` delivers nothing. -/
theorem Begins.streams {t t' : TcpStack S} {packet : Option Packet} {now : ℕ}
    {res : Except DriveError Unit} (begins : Begins t packet now t' res) :
    t'.tcp_stream = t.tcp_stream ∧ t'.udp_stream = t.udp_stream := by
  cases begins with
  | failed => exact ⟨rfl, rfl⟩
  | unready arrived opens adds => exact ⟨adds.tcp_stream, adds.udp_stream⟩
  | polled quiet =>
    have wakes := wakes_poll (t.push packet) now
    exact ⟨wakes.tcp_stream, wakes.udp_stream⟩
  | @opened p h s accepted u arrived opens adds =>
    have wakes := wakes_poll (u.push packet) now
    exact ⟨wakes.tcp_stream.trans adds.tcp_stream, wakes.udp_stream.trans adds.udp_stream⟩

/-- Handling an event does not disconnect the event channel. -/
theorem Outcome.connected {t t' : TcpStack S} {e : OperationEvent} (outcome : Outcome t e t') :
    t'.operation_event.connected = t.operation_event.connected := by
  cases outcome with
  | shutdown handle tx c event found socket eq =>
    subst eq
    exact (wakes_close_tcp (t.register handle.index .send e) handle.index c).connected
  | closing handle c event found socket active eq =>
    subst eq
    exact (wakes_close_tcp t handle.index c).connected
  | removed h s s' accepted u event found socket closes wakes others woken eq =>
    subst eq
    exact wakes.connected
  | answered tx a result_tx refuses eq => subst eq; rfl
  | served tx a s s' memory result_tx found socket serves eq => subst eq; rfl
  | parked side park eq => subst eq; rfl
  | delivered_tcp handle c remote local_ event socket may_recv remote_eq local_eq eq =>
    subst eq; rfl
  | delivered_udp handle u ip event socket bound eq => subst eq; rfl
  | ignored h event gone eq => subst eq; rfl

/-! ## Where wakers are -/

/-- Every waker is registered at the socket that its event is for, on a side on which it waits. -/
def Placed (t : TcpStack S) : Prop :=
  ∀ i side e, t.waker i side = some e →
    e.index = i ∧ e.waits side = true ∧ t.contains e.handle = true

/-- Waking leaves the other wakers in their places. -/
theorem Wakes.placed {t t' : TcpStack S} (wakes : Wakes t t') (placed : t.Placed) : t'.Placed := by
  intro i side e he
  rw [contains, wakes.same.socket_handles]
  exact placed i side e (wakes.waker_of_some he)

/-- Setting a socket leaves the wakers in their places. -/
theorem Placed.put {t : TcpStack S} (placed : t.Placed) (i : ℕ) (s : S.Socket) :
    (t.put i s).Placed := by
  intro j side e he
  rw [waker_put] at he
  exact placed j side e he

/-- A waker is registered in its place. -/
theorem Placed.register {t : TcpStack S} (placed : t.Placed) {e : OperationEvent} {side : Side}
    (waits : e.waits side = true) (found : t.contains e.handle = true) :
    (t.register e.index side e).Placed := by
  intro j side' e' he
  rw [waker_register] at he
  split_ifs at he with hj
  · cases he
    exact ⟨hj.1.symm, by rw [hj.2.1, waits], found⟩
  · exact placed j side' e' he

/-- A new socket has its Ready in its place. -/
theorem Adds.placed {t t' : TcpStack S} {h : TypedSocketHandle} {s : S.Socket}
    {new : Multiset OperationEvent} {accepted : Finset SocketAddr}
    (adds : Adds t h s new accepted t') (placed : t.Placed) : t'.Placed := by
  intro i side e he
  have hc : e.handle.key = h.key ∨ t.contains e.handle = true → t'.contains e.handle = true := by
    intro hk
    refine decide_eq_true ?_
    rw [adds.socket_handles, Finset.mem_insert]
    exact hk.imp id of_decide_eq_true
  by_cases hi : i = h.handle.index
  · subst hi
    cases side with
    | recv =>
      rw [adds.waker_recv] at he
      cases he
    | send =>
      obtain rfl := adds.waker_send e he
      exact ⟨rfl, rfl, hc (.inl rfl)⟩
  · rw [adds.waker i side hi] at he
    obtain ⟨hindex, hwaits, hfound⟩ := placed i side e he
    exact ⟨hindex, hwaits, hc (.inr hfound)⟩

/-- Beginning a call leaves the wakers in their places. -/
theorem Begins.placed {t t' : TcpStack S} {packet : Option Packet} {now : ℕ}
    {res : Except DriveError Unit} (begins : Begins t packet now t' res) (placed : t.Placed) :
    t'.Placed := by
  have poll : ∀ {u : TcpStack S}, u.Placed → ((u.push packet).poll now).Placed := by
    intro u hu
    refine (wakes_poll (u.push packet) now).placed fun i side e he => ?_
    rw [waker_advance] at he
    exact hu i side e he
  cases begins with
  | failed => exact placed
  | unready arrived opens adds => exact adds.placed placed
  | polled quiet => exact poll placed
  | opened arrived opens adds => exact poll (adds.placed placed)

/-- A handler parks an event on a side on which it waits. -/
theorem Parks.waits {t : TcpStack S} {e : OperationEvent} {side : Side} (h : t.Parks e side) :
    e.waits side = true := by
  cases h <;> rfl

/-- The handle of an event that is parked is in the table. -/
theorem Parks.found {t : TcpStack S} {e : OperationEvent} {side : Side} (tables : t.Tables)
    (h : t.Parks e side) : t.contains e.handle = true := by
  cases h with
  | ready socket => exact decide_eq_true ((tables _ _).mpr (kind_of_tcp socket))
  | read found => exact found
  | write found => exact found
  | recv found => exact found
  | send found => exact found

/-- Handling an event leaves the wakers in their places. -/
theorem Outcome.placed {t t' : TcpStack S} {e : OperationEvent} (outcome : Outcome t e t')
    (tables : t.Tables) (placed : t.Placed) : t'.Placed := by
  cases outcome with
  | answered tx a result_tx refuses eq => subst eq; exact placed
  | served tx a s s' memory result_tx found socket serves eq =>
    subst eq
    exact placed.put e.index s'
  | parked side park eq =>
    subst eq
    exact placed.register park.waits (park.found tables)
  | shutdown handle tx c event found socket eq =>
    subst eq event
    exact (wakes_close_tcp _ _ c).placed
      ((placed.register (e := .shutdown (.tcp handle) tx) rfl found).put _ _)
  | closing handle c event found socket active eq =>
    subst eq event
    have wakes := wakes_close_tcp t handle.index c
    refine (wakes.placed (placed.put _ _)).register (e := .close (.tcp handle)) rfl ?_
    rw [contains, wakes.same.socket_handles]
    exact found
  | removed h s s' accepted u event found socket closes wakes others woken eq =>
    intro i side e₀ he
    have hi : i ≠ h.handle.index ∧ u.waker i side = some e₀ := by
      rw [eq] at he
      simp only [waker, Arena.val_remove] at he ⊢
      split_ifs at he with hi
      · cases he
      · exact ⟨hi, he⟩
    obtain ⟨hindex, hwaits, hfound⟩ := wakes.placed (placed.put _ _) i side e₀ hi.2
    refine ⟨hindex, hwaits, ?_⟩
    -- The handles of the other sockets stay in the table.
    have hkey : e₀.handle.key ≠ h.key := fun hk =>
      hi.1 (hindex.symm.trans (congrArg Prod.snd hk))
    rw [eq]
    exact decide_eq_true (Finset.mem_erase.mpr ⟨hkey, of_decide_eq_true hfound⟩)
  | delivered_tcp handle c remote local_ event socket may_recv remote_eq local_eq eq =>
    subst eq; exact placed
  | delivered_udp handle u ip event socket bound eq => subst eq; exact placed
  | ignored h event gone eq => subst eq; exact placed

end TcpStack

end L3Extract
