import L3Extract.Smoltcp.Reference

/-!
# When smoltcp wakes

The handlers register a waker where a socket cannot do what it is asked to. `Smoltcp.Notifies`
collects what smoltcp says about these registrations: the recv waker "is woken on state changes that
might affect the return value of `recv` method calls, such as receiving data, or the socket
closing", and the send waker on those that might affect `send` calls, "such as space becoming
available in the transmit buffer, or the socket closing". `AnySocket.Calm` says that nothing
happened to a socket that a waker on one side waits for.
-/

namespace L3Extract

variable {S : Smoltcp}

/-- What the stack relies on when it waits for a socket. -/
structure Smoltcp.Notifies (S : Smoltcp) : Prop where
  /-- "In terms of the TCP state machine, the socket must be in the ESTABLISHED or CLOSE-WAIT
  state." -/
  may_send : ∀ c, S.tcp.may_send c = true ↔
    S.tcp.state c = .established ∨ S.tcp.state c = .close_wait
  /-- Receiving takes nothing from the transmit buffer. -/
  recv_can_send : ∀ c len, S.tcp.can_send (S.tcp.recv_slice c len).1 = S.tcp.can_send c
  /-- `close` of a socket whose transmit half was shut before changes nothing. -/
  close_can_send : ∀ c, S.tcp.state (S.tcp.close c) = S.tcp.state c →
    S.tcp.can_send (S.tcp.close c) = S.tcp.can_send c
  /-- Both wakers are woken when the state of a TCP socket changes. -/
  poll_state : ∀ interface now packets sockets i c side, Slots.get sockets i = some (.tcp c) →
    S.tcp.state ((S.poll interface now packets sockets).tcp i c) ≠ S.tcp.state c →
    (i, side) ∈ (S.poll interface now packets sockets).woken
  /-- The recv waker is woken when data is received. -/
  poll_recv : ∀ interface now packets sockets i c, Slots.get sockets i = some (.tcp c) →
    S.tcp.recv_queue c = 0 →
    S.tcp.recv_queue ((S.poll interface now packets sockets).tcp i c) ≠ 0 →
    (i, .recv) ∈ (S.poll interface now packets sockets).woken
  /-- The send waker is woken when there is space in the transmit buffer again. -/
  poll_send : ∀ interface now packets sockets i c, Slots.get sockets i = some (.tcp c) →
    S.tcp.can_send c = false →
    S.tcp.can_send ((S.poll interface now packets sockets).tcp i c) = true →
    (i, .send) ∈ (S.poll interface now packets sockets).woken
  /-- The two buffers of a UDP socket do not depend on each other. -/
  udp_recv_can_send : ∀ u len, S.udp.can_send (S.udp.recv_slice u len).1 = S.udp.can_send u
  udp_send_can_recv : ∀ u data dst,
    S.udp.can_recv (S.udp.send_slice u data dst).1 = S.udp.can_recv u
  /-- The recv waker is woken when a datagram is received. -/
  udp_poll_recv : ∀ interface now packets sockets i u, Slots.get sockets i = some (.udp u) →
    S.udp.can_recv u = false →
    S.udp.can_recv ((S.poll interface now packets sockets).udp i u) = true →
    (i, .recv) ∈ (S.poll interface now packets sockets).woken
  /-- The send waker is woken when there is room for a datagram again. -/
  udp_poll_send : ∀ interface now packets sockets i u, Slots.get sockets i = some (.udp u) →
    S.udp.can_send u = false →
    S.udp.can_send ((S.poll interface now packets sockets).udp i u) = true →
    (i, .send) ∈ (S.poll interface now packets sockets).woken

/-- Nothing happened to a socket that a waker on the given side waits for. -/
inductive Calm (S : Smoltcp) : Side → S.Socket → S.Socket → Prop
  | tcp_recv {c c' : S.Tcp} (state : S.tcp.state c' = S.tcp.state c)
      (queue : S.tcp.recv_queue c = 0 → S.tcp.recv_queue c' = 0) : Calm S .recv (.tcp c) (.tcp c')
  | tcp_send {c c' : S.Tcp} (state : S.tcp.state c' = S.tcp.state c)
      (full : S.tcp.can_send c = false → S.tcp.can_send c' = false) :
      Calm S .send (.tcp c) (.tcp c')
  | udp_recv {u u' : S.Udp} (drained : S.udp.can_recv u = false → S.udp.can_recv u' = false) :
      Calm S .recv (.udp u) (.udp u')
  | udp_send {u u' : S.Udp} (full : S.udp.can_send u = false → S.udp.can_send u' = false) :
      Calm S .send (.udp u) (.udp u')

/-- Nothing happened to a socket that is as it was. -/
theorem Calm.refl (side : Side) (s : S.Socket) : Calm S side s s := by
  cases side <;> cases s <;> constructor <;> simp

/-- A waker that a poll leaves waits on: nothing happened that it waits for. -/
theorem Smoltcp.Notifies.calm_poll_tcp (notifies : S.Notifies) {interface : S.Interface} {now : ℕ}
    {packets : List Packet} {sockets : List (Option S.Socket)} {i : ℕ} {c : S.Tcp} {side : Side}
    (slot : Slots.get sockets i = some (.tcp c))
    (asleep : (i, side) ∉ (S.poll interface now packets sockets).woken) :
    Calm S side (.tcp c) (.tcp ((S.poll interface now packets sockets).tcp i c)) := by
  have state : S.tcp.state ((S.poll interface now packets sockets).tcp i c) = S.tcp.state c := by
    by_contra changed
    exact asleep (notifies.poll_state _ _ _ _ _ _ side slot changed)
  cases side with
  | recv =>
    refine .tcp_recv state fun drained => ?_
    by_contra received
    exact asleep (notifies.poll_recv _ _ _ _ _ _ slot drained received)
  | send =>
    refine .tcp_send state fun full => ?_
    by_contra room
    exact asleep (notifies.poll_send _ _ _ _ _ _ slot full (by simpa using room))

/-- A waker of a UDP socket that a poll leaves waits on, too. -/
theorem Smoltcp.Notifies.calm_poll_udp (notifies : S.Notifies) {interface : S.Interface} {now : ℕ}
    {packets : List Packet} {sockets : List (Option S.Socket)} {i : ℕ} {u : S.Udp} {side : Side}
    (slot : Slots.get sockets i = some (.udp u))
    (asleep : (i, side) ∉ (S.poll interface now packets sockets).woken) :
    Calm S side (.udp u) (.udp ((S.poll interface now packets sockets).udp i u)) := by
  cases side with
  | recv =>
    refine .udp_recv fun drained => ?_
    by_contra received
    exact asleep (notifies.udp_poll_recv _ _ _ _ _ _ slot drained (by simpa using received))
  | send =>
    refine .udp_send fun full => ?_
    by_contra room
    exact asleep (notifies.udp_poll_send _ _ _ _ _ _ slot full (by simpa using room))

namespace Reference

/-- What a segment does to a socket with a peer, and which wakers it wakes. -/
inductive Processes (c : Conn) (seg : Segment) (r : Tcp × List Side) : Prop
  | reset (woken : ∀ side, side ∈ r.2)
  | disregarded (eq : r.1 = .connected c)
  | received (eq : r.1 = c.receive seg)
      (state : next_state c.state (seg.control = .fin) ≠ c.state → ∀ side, side ∈ r.2)
      (acked : c.tx_buffer ≠ [] → .send ∈ r.2) (data : c.accepted seg ≠ [] → .recv ∈ r.2)

/-- There are two sides. -/
theorem mem_both (side : Side) : side ∈ [Side.recv, .send] := by
  cases side <;> decide

/-- What a segment does to a socket of the instance, and whom it wakes. -/
theorem processes (c : Conn) (seg : Segment) : Processes c seg (c.process seg) := by
  unfold Conn.process
  by_cases reset : seg.control = .rst
  · rw [if_pos reset]
    split_ifs
    · exact .reset mem_both
    · exact .reset mem_both
  rw [if_neg reset]
  by_cases disregarded : seg.ack = false ∨ seg.control = .syn
  · rw [if_pos disregarded]
    exact .disregarded rfl
  rw [if_neg disregarded]
  refine .received rfl (fun changes side => ?_) (fun acked => ?_) (fun data => ?_)
  · rw [if_neg changes]
    exact List.mem_append_left _ (List.mem_append_left _ (mem_both side))
  · rw [if_neg acked]
    exact List.mem_append_left _ (List.mem_append_right _ List.mem_cons_self)
  · rw [if_neg data]
    exact List.mem_append_right _ List.mem_cons_self

/-- A segment leaves no more to send and sets the next state. -/
theorem can_send_receive {c : Conn} {seg : Segment} (empty : c.tx_buffer = [])
    (same : next_state c.state (seg.control = .fin) = c.state) :
    tcp.can_send (c.receive seg) = tcp.can_send (.connected c) := by
  have connected := c.connected
  unfold Conn.receive
  simp [same, connected, tcp, empty]

/-- A segment wakes the wakers of a socket that wait for what it does. -/
theorem calm_process {c : Tcp} {seg : Segment} {side : Side} (asleep : side ∉ (c.process seg).2) :
    Calm reference side (.tcp c) (.tcp (c.process seg).1) := by
  cases c with
  | closed => exact .refl _ _
  | listening listen_endpoint size =>
    unfold Tcp.process at asleep ⊢
    split_ifs at asleep ⊢ with opens
    · exact absurd (mem_both side) asleep
    · exact .refl _ _
  | connected c =>
    unfold Tcp.process at asleep ⊢
    cases processes c seg with
    | reset woken => exact absurd (woken side) asleep
    | disregarded eq =>
      dsimp only
      rw [eq]
      exact .refl _ _
    | received eq state acked data =>
      have same : next_state c.state (seg.control = .fin) = c.state := by
        by_contra changes
        exact asleep (state changes side)
      dsimp only at asleep ⊢
      rw [eq]
      cases side with
      | recv =>
        refine .tcp_recv ((state_receive c seg).trans same) fun drained => ?_
        have none : c.accepted seg = [] := by
          by_contra some
          exact asleep (data some)
        show tcp.recv_queue (c.receive seg) = 0
        rw [recv_queue_eq, buffer_receive, none, List.append_nil]
        exact drained
      | send =>
        refine .tcp_send ((state_receive c seg).trans same) fun full => ?_
        have empty : c.tx_buffer = [] := by
          by_contra queued
          exact asleep (acked queued)
        rw [can_send_receive empty same]
        exact full

/-- The wakers that a segment wakes are those of the socket that takes it. -/
theorem mem_segment_woken {sockets : Sockets} {seg : Segment} {i : ℕ} {c : Tcp} {side : Side}
    (slot : Slots.get sockets i = some (.tcp c)) (taker : tcp.taker sockets seg = some i)
    (woken : side ∈ (c.process seg).2) : (i, side) ∈ segment_woken sockets seg := by
  simp only [segment_woken, taker, slot]
  exact List.mem_map_of_mem woken

/-- What a poll does to a TCP socket whose waker it leaves. -/
theorem calm_poll (interface : Unit) (now : ℕ) {packets : List Packet} {sockets : Sockets} {i : ℕ}
    {c : Tcp} {side : Side} (slot : Slots.get sockets i = some (.tcp c))
    (asleep : (i, side) ∉ (poll interface now packets sockets).woken) :
    Calm reference side (.tcp c) (.tcp ((poll interface now packets sockets).tcp i c)) := by
  simp only [poll] at asleep ⊢
  cases hd : packets.head?.bind deliver with
  | none => exact .refl _ _
  | some seg =>
    dsimp only [process_at]
    split_ifs with taker
    · refine calm_process fun woken => asleep ?_
      rw [hd]
      exact List.mem_append_left _ (List.mem_append_left _ (mem_segment_woken slot taker woken))
    · exact .refl _ _

end Reference

/-- The instance wakes as smoltcp does. -/
theorem reference_notifies : reference.Notifies where
  may_send c := by
    cases c <;> simp [Reference.tcp]
  recv_can_send c len := by
    cases c with
    | closed =>
      simp only [Reference.tcp]
      split_ifs <;> rfl
    | listening => rfl
    | connected c =>
      simp only [Reference.tcp]
      split_ifs <;> rfl
  close_can_send c same := by
    cases c with
    | closed => rfl
    | listening => rfl
    | connected c =>
      have connected := c.connected
      have same : c.state.after_close = c.state := by
        rw [← Reference.state_move c (Reference.after_close_ne_syn_received _)]
        · exact same
        · cases hs : c.state <;> simp [hs, TcpState.connected, TcpState.after_close] at connected ⊢
      show Reference.tcp.can_send (c.move _ (Reference.after_close_ne_syn_received c.state)) = _
      unfold Reference.Conn.move
      simp [same, connected, Reference.tcp]
  poll_state interface now packets sockets i c side slot changes := by
    by_contra asleep
    cases Reference.calm_poll interface now slot asleep with
    | tcp_recv state queue => exact changes state
    | tcp_send state full => exact changes state
  poll_recv interface now packets sockets i c slot drained received := by
    by_contra asleep
    cases Reference.calm_poll interface now slot asleep with
    | tcp_recv state queue => exact received (queue drained)
  poll_send interface now packets sockets i c slot full room := by
    by_contra asleep
    cases Reference.calm_poll interface now slot asleep with
    | tcp_send state stays => exact absurd ((stays full).symm.trans room) (by decide)
  udp_recv_can_send u len := by
    simp only [Reference.udp]
    cases u.rx with
    | nil => rfl
    | cons d rx =>
      dsimp only
      split_ifs <;> rfl
  udp_send_can_recv u data dst := by
    simp only [Reference.udp]
    split_ifs <;> rfl
  udp_poll_recv interface now packets sockets i u slot drained received := by
    have none : u.rx = [] := by simpa [Reference.udp] using drained
    have some : ((Reference.poll interface now packets sockets).udp i u).rx ≠ [] := by
      simpa [Reference.udp] using received
    simp only [Reference.poll] at some ⊢
    cases hd : packets.head?.bind Reference.datagram with
    | none => simp [hd, none] at some
    | some d =>
      simp only [hd] at some ⊢
      split_ifs at some with taker
      · exact List.mem_append_left _ (List.mem_append_right _ (by simp [taker]))
      · exact absurd none some
  udp_poll_send interface now packets sockets i u slot full room := by
    refine reference_rings.poll_woken interface now packets sockets i u slot fun empty => ?_
    have := (reference_rings.empty u empty).1
    rw [full] at this
    cases this

end L3Extract
