import L3Extract.Smoltcp.Api

/-!
# What the stack relies on in smoltcp

`Smoltcp.Spec` collects the documented behavior of smoltcp that results about the stack need. The
fields on `tcp` and `udp` describe the sockets' methods by the state of RFC 793 that the socket is
in. The fields on `poll` describe what polling the interface with at most one packet does to one TCP
socket: the segment that the packet carries goes to the first socket in slot order that accepts it
(`TcpApi.taker`), which moves as RFC 793 and smoltcp's comments on it say (`Received`); all other
sockets keep their state, or close by a timer (`Idle`).
-/

namespace L3Extract

variable {Socket : Type}

/-- Two values of a TCP socket have the same endpoints. -/
def TcpApi.SameEndpoints (api : TcpApi Socket) (c c' : Socket) : Prop :=
  api.listen_endpoint c' = api.listen_endpoint c ∧ api.local_endpoint c' = api.local_endpoint c ∧
    api.remote_endpoint c' = api.remote_endpoint c

/-- What polling does to a TCP socket that gets no segment: it stays as it is for its users, except
that data may leave its transmit buffer, or a timer closes it. -/
inductive TcpApi.Idle (api : TcpApi Socket) (c c' : Socket) : Prop
  | kept (state : api.state c' = api.state c) (ends : api.SameEndpoints c c')
      (queue : api.recv_queue c' = api.recv_queue c)
  | closed (state : api.state c' = .closed) (was : (api.state c).opening = false)

/-- What polling does to a TCP socket that takes the segment `seg`. -/
inductive TcpApi.Received (api : TcpApi Socket) (seg : Segment) (c c' : Socket) : Prop
  /-- A listening socket takes a SYN and has the segment's endpoints from then on. -/
  | opened (was : api.state c = .listen) (opens : seg.opens = true)
      (state : api.state c' = .syn_received) (local_ : api.local_endpoint c' = some seg.dst)
      (remote : api.remote_endpoint c' = some seg.src)
      (listen : api.listen_endpoint c' = api.listen_endpoint c)
  /-- A listening socket disregards everything else. -/
  | ignored (was : api.state c = .listen) (opens : seg.opens = false)
      (state : api.state c' = .listen) (ends : api.SameEndpoints c c')
  /-- "RSTs in SYN-RECEIVED flip the socket back to the LISTEN state." -/
  | relistened (was : api.state c = .syn_received) (resets : api.resets c seg = true)
      (state : api.state c' = .listen) (listen : api.listen_endpoint c' = api.listen_endpoint c)
  /-- A socket with a peer keeps it and its state, or goes on to a later state. -/
  | advanced (was : (api.state c).connected = true)
      (state : api.state c' = api.state c ∨
        (api.state c').connected = true ∧ (api.state c').opening = false)
      (ends : api.SameEndpoints c c') (resets : api.resets c seg = false)
  /-- "RSTs in any other state close the socket", and so does the last acknowledgment. -/
  | closed (was : (api.state c).opening = false) (state : api.state c' = .closed)

/-- What `send_slice` of a TCP socket does to its buffers: it appends what it takes over, and on an
error nothing. -/
structure TcpApi.Sends (api : TcpApi Socket) (c : Socket) (data : Bytes) (c' : Socket)
    (res : Except SocketError ℕ) : Prop where
  ok : ∀ n, res = .ok n → n ≤ data.length ∧ api.tx_buffer c' = api.tx_buffer c ++ data.take n
  error : ∀ err, res = .error err → api.tx_buffer c' = api.tx_buffer c
  rx_buffer : api.rx_buffer c' = api.rx_buffer c
  rx_fin_received : api.rx_fin_received c' = api.rx_fin_received c

/-- What `recv_slice` of a TCP socket does to its buffers: it moves as much as it can, and fails
only when there is nothing to move. -/
structure TcpApi.Receives (api : TcpApi Socket) (c : Socket) (len : ℕ) (c' : Socket)
    (res : Except SocketError Bytes) : Prop where
  ok : ∀ data, res = .ok data →
    data = (api.rx_buffer c).take len ∧ api.rx_buffer c' = (api.rx_buffer c).drop len
  error : ∀ err, res = .error err → api.rx_buffer c = [] ∧ api.rx_buffer c' = []
  tx_buffer : api.tx_buffer c' = api.tx_buffer c
  rx_fin_received : api.rx_fin_received c' = api.rx_fin_received c

/-- What `send_slice` of a UDP socket does to its buffers. -/
structure UdpApi.Sends (api : UdpApi Socket) (u : Socket) (data : Bytes) (dst : IpEndpoint)
    (u' : Socket) (res : Except SocketError Unit) : Prop where
  ok : res = .ok () → api.tx_buffer u' = api.tx_buffer u ++ [(dst, data)]
  error : ∀ err, res = .error err → api.tx_buffer u' = api.tx_buffer u
  rx_buffer : api.rx_buffer u' = api.rx_buffer u

/-- What `recv_slice` of a UDP socket does to its buffers: "when the size of the provided buffer is
smaller than the size of the payload, the packet is dropped". -/
structure UdpApi.Receives (api : UdpApi Socket) (u : Socket) (len : ℕ) (u' : Socket)
    (res : Except SocketError (Bytes × IpEndpoint)) : Prop where
  ok : ∀ data src, res = .ok (data, src) →
    data.length ≤ len ∧ api.rx_buffer u = (src, data) :: api.rx_buffer u'
  truncated : res = .error .truncated →
    ∃ d, len < d.2.length ∧ api.rx_buffer u = d :: api.rx_buffer u'
  error : ∀ err, res = .error err → err ≠ .truncated → api.rx_buffer u' = api.rx_buffer u
  tx_buffer : api.tx_buffer u' = api.tx_buffer u

/-- Nothing moves into an empty buffer. -/
theorem TcpApi.Receives.of_empty {api : TcpApi Socket} {c c' : Socket}
    {res : Except SocketError Bytes} (receives : api.Receives c 0 c' res) :
    api.rx_buffer c' = api.rx_buffer c := by
  cases res with
  | ok data => exact (receives.ok data rfl).2
  | error err =>
    obtain ⟨empty, empty'⟩ := receives.error err rfl
    rw [empty, empty']

/-- What `recv_slice` returns is the front of the receive buffer. -/
theorem TcpApi.Receives.moved {api : TcpApi Socket} {c c' : Socket} {len : ℕ}
    {res : Except SocketError Bytes} (receives : api.Receives c len c' res) {data : Bytes}
    (h : res = .ok data) : data.length ≤ len ∧ api.rx_buffer c = data ++ api.rx_buffer c' := by
  obtain ⟨hd, hrx⟩ := receives.ok data h
  rw [hd, hrx, List.take_append_drop]
  exact ⟨List.length_take_le _ _, rfl⟩

/-- The slot that `taker` finds has a socket that accepts the segment. -/
theorem TcpApi.accepts_of_taker {Tcp Udp : Type} {api : TcpApi Tcp}
    {sockets : List (Option (AnySocket Tcp Udp))} {seg : Segment} {i : ℕ}
    (h : api.taker sockets seg = some i) :
    ∃ c, Slots.get sockets i = some (.tcp c) ∧ api.accepts c seg = true := by
  obtain ⟨hi, hp, -⟩ := List.findIdx?_eq_some_iff_getElem.mp h
  cases ho : sockets[i] with
  | none => simp [ho] at hp
  | some a =>
    cases a with
    | udp u => simp [ho] at hp
    | tcp c => exact ⟨c, by simp [Slots.get, hi, ho], by simpa [ho] using hp⟩

/-- The slots before the one that `taker` finds have no socket that accepts the segment. -/
theorem TcpApi.not_accepts_of_lt_taker {Tcp Udp : Type} {api : TcpApi Tcp}
    {sockets : List (Option (AnySocket Tcp Udp))} {seg : Segment} {i j : ℕ}
    (h : api.taker sockets seg = some i) (hj : j < i) {c : Tcp}
    (hc : Slots.get sockets j = some (.tcp c)) : api.accepts c seg = false := by
  obtain ⟨hi, -, hlt⟩ := List.findIdx?_eq_some_iff_getElem.mp h
  have hjl : j < sockets.length := hj.trans hi
  have hjc : sockets[j] = some (.tcp c) := by simpa [Slots.get, hjl] using hc
  simpa [hjc] using hlt j hj

/-- When a socket accepts the segment, `taker` finds its slot or an earlier one. -/
theorem TcpApi.exists_taker {Tcp Udp : Type} {api : TcpApi Tcp}
    {sockets : List (Option (AnySocket Tcp Udp))} {seg : Segment} {i : ℕ} {c : Tcp}
    (hc : Slots.get sockets i = some (.tcp c)) (h : api.accepts c seg = true) :
    ∃ k ≤ i, api.taker sockets seg = some k := by
  have hi : sockets[i]? = some (some (.tcp c)) := Option.join_eq_some_iff.mp hc
  obtain ⟨hil, hio⟩ := List.getElem?_eq_some_iff.mp hi
  cases hk : api.taker sockets seg with
  | none =>
    have := List.findIdx?_eq_none_iff.mp hk (some (.tcp c)) (List.mem_iff_getElem.mpr ⟨i, hil, hio⟩)
    simp [h] at this
  | some k =>
    refine ⟨k, ?_, rfl⟩
    by_contra hlt
    have := not_accepts_of_lt_taker hk (Nat.lt_of_not_le hlt) hc
    rw [h] at this
    exact absurd this (by decide)

/-- `taker` finds the slot of the first socket that accepts the segment. -/
theorem TcpApi.taker_eq_some {Tcp Udp : Type} {api : TcpApi Tcp}
    {sockets : List (Option (AnySocket Tcp Udp))} {seg : Segment} {i : ℕ} :
    api.taker sockets seg = some i ↔
      (∃ c, Slots.get sockets i = some (.tcp c) ∧ api.accepts c seg = true) ∧
      ∀ j < i, ∀ c, Slots.get sockets j = some (.tcp c) → api.accepts c seg = false := by
  refine ⟨fun h => ⟨accepts_of_taker h, fun j hj c hc => not_accepts_of_lt_taker h hj hc⟩, ?_⟩
  rintro ⟨⟨c, hc, accepts⟩, first⟩
  obtain ⟨k, hk, h⟩ := exists_taker hc accepts
  obtain rfl | hlt := hk.eq_or_lt
  · exact h
  · obtain ⟨d, hd, accepts'⟩ := accepts_of_taker h
    rw [first k hlt d hd] at accepts'
    cases accepts'

/-- The documented behavior of smoltcp that the stack relies on. -/
structure Smoltcp.Spec (S : Smoltcp) : Prop where
  /-- `listen` on a new socket fails exactly for port 0. -/
  listen_zero : ∀ size endpoint, endpoint.port = 0 →
    S.tcp.listen (S.tcp.new size) endpoint = .error .unaddressable
  /-- `listen` on a new socket at another port gives a listening socket. -/
  listen_ok : ∀ size endpoint, endpoint.port ≠ 0 →
    ∃ c, S.tcp.listen (S.tcp.new size) endpoint = .ok c ∧ S.tcp.state c = .listen ∧
      S.tcp.listen_endpoint c = endpoint
  /-- "This function returns true if the socket is actively exchanging packets with a remote
  endpoint": in every state but CLOSED, TIME-WAIT, and LISTEN. -/
  is_active : ∀ c, S.tcp.is_active c = true ↔
    S.tcp.state c ≠ .closed ∧ S.tcp.state c ≠ .time_wait ∧ S.tcp.state c ≠ .listen
  /-- "The socket must be in the ESTABLISHED, FIN-WAIT-1, or FIN-WAIT-2 state, or have data in the
  receive buffer instead." -/
  may_recv : ∀ c, S.tcp.may_recv c = true ↔
    (S.tcp.state c).receiving = true ∨ S.tcp.recv_queue c ≠ 0
  /-- "Return the local endpoint, or None if not connected." -/
  local_endpoint : ∀ c, (S.tcp.local_endpoint c).isSome = (S.tcp.state c).connected
  /-- "Return the remote endpoint, or None if not connected." -/
  remote_endpoint : ∀ c, (S.tcp.remote_endpoint c).isSome = (S.tcp.state c).connected
  /-- A listening socket has received no data. -/
  listen_queue : ∀ c, S.tcp.state c = .listen → S.tcp.recv_queue c = 0
  /-- The payload of a SYN is not received. -/
  syn_received_queue : ∀ c, S.tcp.state c = .syn_received → S.tcp.recv_queue c = 0
  /-- `close` shuts the transmit half. -/
  close_state : ∀ c, S.tcp.state (S.tcp.close c) = (S.tcp.state c).after_close
  /-- `close` keeps the received data. -/
  close_queue : ∀ c, S.tcp.recv_queue (S.tcp.close c) = S.tcp.recv_queue c
  /-- `close` keeps the endpoints, unless the socket is closed at once. -/
  close_ends : ∀ c, S.tcp.SameEndpoints c (S.tcp.close c) ∨
    S.tcp.state (S.tcp.close c) = .closed
  /-- `send_slice` keeps state, endpoints, and received data. -/
  send_slice : ∀ c data, S.tcp.state (S.tcp.send_slice c data).1 = S.tcp.state c ∧
    S.tcp.SameEndpoints c (S.tcp.send_slice c data).1
  /-- `recv_slice` keeps state and endpoints. -/
  recv_slice : ∀ c len, S.tcp.state (S.tcp.recv_slice c len).1 = S.tcp.state c ∧
    S.tcp.SameEndpoints c (S.tcp.recv_slice c len).1
  /-- A socket that listens on an address accepts the segments to its endpoint that acknowledge
  nothing. -/
  accepts_listen : ∀ c seg, S.tcp.state c = .listen →
    (S.tcp.listen_endpoint c).addr.isSome = true →
    (S.tcp.accepts c seg = true ↔
      seg.ack = false ∧ S.tcp.listen_endpoint c = seg.dst.listen)
  /-- A connected socket accepts the segments from its peer to it. -/
  accepts_connected : ∀ c seg, (S.tcp.state c).connected = true →
    (S.tcp.accepts c seg = true ↔
      S.tcp.local_endpoint c = some seg.dst ∧ S.tcp.remote_endpoint c = some seg.src)
  /-- A closed socket accepts nothing. -/
  accepts_closed : ∀ c seg, S.tcp.state c = .closed → S.tcp.accepts c seg = false
  /-- `recv_queue` is the length of the receive buffer. -/
  recv_queue : ∀ c, S.tcp.recv_queue c = (S.tcp.rx_buffer c).length
  /-- `send_slice` returns the number of bytes it appended. -/
  send_slice_buffers : ∀ c data, S.tcp.Sends c data (S.tcp.send_slice c data).1
    (S.tcp.send_slice c data).2
  /-- `recv_slice` returns the bytes it removed. -/
  recv_slice_buffers : ∀ c len, S.tcp.Receives c len (S.tcp.recv_slice c len).1
    (S.tcp.recv_slice c len).2
  /-- `close` keeps the buffers. -/
  close_buffer : ∀ c, S.tcp.rx_buffer (S.tcp.close c) = S.tcp.rx_buffer c ∧
    S.tcp.tx_buffer (S.tcp.close c) = S.tcp.tx_buffer c ∧
    S.tcp.rx_fin_received (S.tcp.close c) = S.tcp.rx_fin_received c
  /-- The states after the FIN come with it. -/
  state_fin : ∀ c, (S.tcp.state c).fin_received = true → S.tcp.rx_fin_received c = true
  /-- Polling adds to the receive buffer, or clears it when TIME-WAIT is over. -/
  poll_buffer : ∀ interface now packets sockets i c,
    (∃ data, S.tcp.rx_buffer ((S.poll interface now packets sockets).tcp i c) =
      S.tcp.rx_buffer c ++ data) ∨
    S.tcp.state ((S.poll interface now packets sockets).tcp i c) = .closed ∧
      S.tcp.rx_buffer ((S.poll interface now packets sockets).tcp i c) = []
  /-- A closed socket receives nothing. -/
  poll_closed : ∀ interface now packets sockets i c, S.tcp.state c = .closed →
    S.tcp.state ((S.poll interface now packets sockets).tcp i c) = .closed ∧
      S.tcp.rx_buffer ((S.poll interface now packets sockets).tcp i c) = S.tcp.rx_buffer c
  /-- A segment that resets is an RST. -/
  resets_rst : ∀ c seg, S.tcp.resets c seg = true → seg.control = .rst
  /-- A TCP socket that takes no segment is idle in a poll. -/
  poll_idle : ∀ interface now (packet : Option Packet) sockets i c,
    Slots.get sockets i = some (.tcp c) →
    (∀ seg, packet.bind (S.deliver interface) = some seg → S.tcp.taker sockets seg ≠ some i) →
    S.tcp.Idle c ((S.poll interface now packet.toList sockets).tcp i c)
  /-- The TCP socket that takes the segment of the polled packet processes it. -/
  poll_received : ∀ interface now (packet : Option Packet) sockets i c seg,
    Slots.get sockets i = some (.tcp c) → packet.bind (S.deliver interface) = some seg →
    S.tcp.taker sockets seg = some i →
    S.tcp.Received seg c ((S.poll interface now packet.toList sockets).tcp i c)
  /-- Polling opens no connection: a socket is in SYN-SENT after `connect` only. -/
  poll_syn_sent : ∀ interface now packets sockets i c, S.tcp.state c ≠ .syn_sent →
    S.tcp.state ((S.poll interface now packets sockets).tcp i c) ≠ .syn_sent
  /-- `bind` of a new UDP socket fails exactly for port 0. -/
  bind_zero : ∀ size endpoint, endpoint.port = 0 →
    S.udp.bind (S.udp.new size) endpoint = .error .unaddressable
  /-- `bind` of a new UDP socket to another port succeeds. -/
  bind_ok : ∀ size endpoint, endpoint.port ≠ 0 →
    ∃ u, S.udp.bind (S.udp.new size) endpoint = .ok u
  /-- `bind` of a new UDP socket keeps the endpoint. -/
  bind_endpoint : ∀ size endpoint u, S.udp.bind (S.udp.new size) endpoint = .ok u →
    S.udp.endpoint u = endpoint
  /-- Sending keeps the endpoint of a UDP socket. -/
  udp_send_endpoint : ∀ u data dst,
    S.udp.endpoint (S.udp.send_slice u data dst).1 = S.udp.endpoint u
  /-- Receiving keeps the endpoint of a UDP socket. -/
  udp_recv_endpoint : ∀ u len, S.udp.endpoint (S.udp.recv_slice u len).1 = S.udp.endpoint u
  /-- Polling keeps the endpoint of a UDP socket. -/
  udp_poll_endpoint : ∀ interface now packets sockets i u,
    S.udp.endpoint ((S.poll interface now packets sockets).udp i u) = S.udp.endpoint u
  /-- `send_slice` queues the datagram. -/
  udp_send_slice : ∀ u data dst, S.udp.Sends u data dst (S.udp.send_slice u data dst).1
    (S.udp.send_slice u data dst).2
  /-- `recv_slice` removes the first datagram. -/
  udp_recv_slice : ∀ u len, S.udp.Receives u len (S.udp.recv_slice u len).1
    (S.udp.recv_slice u len).2
  /-- Polling adds datagrams to the receive buffer. -/
  udp_poll_buffer : ∀ interface now packets sockets i u,
    ∃ new, S.udp.rx_buffer ((S.poll interface now packets sockets).udp i u) =
      S.udp.rx_buffer u ++ new

variable {S : Smoltcp}

/-- A new socket listens where it was told to. -/
theorem Smoltcp.Spec.listens (spec : S.Spec) {size : ℕ} {endpoint : IpListenEndpoint} {c : S.Tcp}
    (h : S.tcp.listen (S.tcp.new size) endpoint = .ok c) :
    endpoint.port ≠ 0 ∧ S.tcp.state c = .listen ∧ S.tcp.listen_endpoint c = endpoint := by
  have port : endpoint.port ≠ 0 := fun hz => by
    rw [spec.listen_zero size endpoint hz] at h
    cases h
  obtain ⟨c', hc', state, listens⟩ := spec.listen_ok size endpoint port
  rw [hc'] at h
  cases h
  exact ⟨port, state, listens⟩

/-- A UDP socket is bound to no port 0. -/
theorem Smoltcp.Spec.port_of_bind (spec : S.Spec) {size : ℕ} {endpoint : IpListenEndpoint}
    {u : S.Udp} (h : S.udp.bind (S.udp.new size) endpoint = .ok u) : endpoint.port ≠ 0 := by
  intro port
  rw [spec.bind_zero _ _ port] at h
  cases h

end L3Extract
