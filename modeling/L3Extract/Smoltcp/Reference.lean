import L3Extract.Smoltcp.Spec
import L3Extract.Smoltcp.Transmit
import L3Extract.Wire

/-!
# A reference instance of smoltcp

`reference` is a value of `Smoltcp` that can be evaluated, for runs on concrete packets. It reads
packets without options and fragments, and it behaves as smoltcp does with receive checksums turned
off (`TcpStackBuilder::checksum_capabilities`) towards a peer that keeps up: every segment of the
peer is in order and in the window, and its acknowledgment covers everything sent. So sequence
numbers are not kept. Timers do not run out, and a packet sent for a datagram is represented by
its payload. `reference_spec` shows that the instance meets `Smoltcp.Spec`.
-/

namespace L3Extract

namespace Reference

/-- A TCP socket with a peer. -/
structure Conn where
  state : TcpState
  connected : state.connected = true
  local_endpoint : IpEndpoint
  remote_endpoint : IpEndpoint
  listen_endpoint : IpListenEndpoint
  rx_buffer : Bytes
  tx_buffer : Bytes
  rx_fin_received : Bool
  fin : state.fin_received = true → rx_fin_received = true
  handshake : state = .syn_received → rx_buffer = []
  size : ℕ

/-- A TCP socket. It has endpoints exactly in the states in which it has a peer, and a listening
one has no data. -/
inductive Tcp
  | closed (listen_endpoint : IpListenEndpoint) (rx_buffer tx_buffer : Bytes)
      (rx_fin_received : Bool) (size : ℕ)
  | listening (listen_endpoint : IpListenEndpoint) (size : ℕ)
  | connected (conn : Conn)

/-- The state after a segment that acknowledges everything sent, by whether it carries a FIN. -/
def next_state : TcpState → Bool → TcpState
  | .syn_received, false => .established
  | .syn_received, true => .close_wait
  | .established, true => .close_wait
  | .fin_wait1, false => .fin_wait2
  | .fin_wait1, true => .time_wait
  | .fin_wait2, true => .time_wait
  | .closing, false => .time_wait
  | .last_ack, false => .closed
  | state, _ => state

/-- No segment takes a connection back to SYN-RECEIVED. -/
theorem next_state_ne_syn_received (state : TcpState) (fin : Bool) :
    next_state state fin ≠ .syn_received := by
  cases state <;> cases fin <;> decide

/-- `close` takes no connection to SYN-RECEIVED. -/
theorem after_close_ne_syn_received (state : TcpState) : state.after_close ≠ .syn_received := by
  cases state <;> decide

/-- The connection in another state; without a peer it is closed, and keeps its data. -/
def Conn.move (c : Conn) (state : TcpState) (done : state ≠ .syn_received) : Tcp :=
  if h : state.connected = true then
    .connected { c with
      state := state
      connected := h
      rx_fin_received := c.rx_fin_received || state.fin_received
      fin := fun h => by simp [h]
      handshake := fun h => absurd h done }
  else .closed c.listen_endpoint c.rx_buffer c.tx_buffer c.rx_fin_received c.size

/-- The payload bytes of the segment that go into the receive buffer. -/
def Conn.accepted (c : Conn) (seg : Segment) : Bytes :=
  if c.state.receiving ∨ c.state = .syn_received
  then seg.payload.take (c.size - c.rx_buffer.length) else []

/-- The connection with the segment's data received and everything sent acknowledged, in the state
that the segment leads to. -/
def Conn.receive (c : Conn) (seg : Segment) : Tcp :=
  let state := next_state c.state (seg.control = .fin)
  let rx_buffer := c.rx_buffer ++ c.accepted seg
  let rx_fin_received := c.rx_fin_received || (seg.control = .fin : Bool)
  if h : state.connected = true then
    .connected { c with
      state := state
      connected := h
      rx_buffer := rx_buffer
      tx_buffer := []
      rx_fin_received := rx_fin_received || state.fin_received
      fin := fun h => by simp [h]
      handshake := fun h => absurd h (next_state_ne_syn_received _ _) }
  else .closed c.listen_endpoint rx_buffer [] rx_fin_received c.size

/-- `process` of a socket with a peer, with the registrations that it wakes. -/
def Conn.process (c : Conn) (seg : Segment) : Tcp × List Side :=
  if seg.control = .rst then
    if c.state = .syn_received then (.listening c.listen_endpoint c.size, [.recv, .send])
    else (c.move .closed (by decide), [.recv, .send])
  else if seg.ack = false ∨ seg.control = .syn then (.connected c, [])
  else
    (c.receive seg,
      (if next_state c.state (seg.control = .fin) = c.state then [] else [.recv, .send]) ++
      (if c.tx_buffer = [] then [] else [.send]) ++ (if c.accepted seg = [] then [] else [.recv]))

/-- `process`. -/
def Tcp.process (socket : Tcp) (seg : Segment) : Tcp × List Side :=
  match socket with
  | .closed .. => (socket, [])
  | .listening listen_endpoint size =>
    if seg.opens then
      (.connected ⟨.syn_received, rfl, seg.dst, seg.src, listen_endpoint, [], [], false, nofun,
        fun _ => rfl, size⟩, [.recv, .send])
    else (socket, [])
  | .connected c => c.process seg

/-- The methods of `tcp::Socket`. -/
def tcp : TcpApi Tcp where
  new size := .closed ⟨none, 0⟩ [] [] false size
  listen socket endpoint :=
    if endpoint.port = 0 then .error .unaddressable
    else match socket with
      | .closed _ _ _ _ size => .ok (.listening endpoint size)
      | _ => .error .invalid_state
  state
    | .closed .. => .closed
    | .listening .. => .listen
    | .connected c => c.state
  is_active
    | .connected c => c.state ≠ .time_wait
    | _ => false
  may_recv
    | .closed _ rx _ _ _ => rx ≠ []
    | .listening .. => false
    | .connected c => c.state.receiving ∨ c.rx_buffer ≠ []
  may_send
    | .connected c => c.state = .established ∨ c.state = .close_wait
    | _ => false
  can_send
    | .connected c => (c.state = .established ∨ c.state = .close_wait) ∧ c.tx_buffer.length < c.size
    | _ => false
  recv_queue
    | .closed _ rx _ _ _ => rx.length
    | .listening .. => 0
    | .connected c => c.rx_buffer.length
  rx_buffer
    | .closed _ rx _ _ _ => rx
    | .listening .. => []
    | .connected c => c.rx_buffer
  tx_buffer
    | .closed _ _ tx _ _ => tx
    | .listening .. => []
    | .connected c => c.tx_buffer
  rx_fin_received
    | .closed _ _ _ fin _ => fin
    | .listening .. => false
    | .connected c => c.rx_fin_received
  listen_endpoint
    | .closed listen_endpoint _ _ _ _ => listen_endpoint
    | .listening listen_endpoint _ => listen_endpoint
    | .connected c => c.listen_endpoint
  local_endpoint
    | .connected c => some c.local_endpoint
    | _ => none
  remote_endpoint
    | .connected c => some c.remote_endpoint
    | _ => none
  close
    | .closed listen_endpoint rx tx fin size => .closed listen_endpoint rx tx fin size
    | .listening listen_endpoint size => .closed listen_endpoint [] [] false size
    | .connected c => c.move c.state.after_close (after_close_ne_syn_received _)
  send_slice socket data :=
    match socket with
    | .connected c =>
      if c.state = .established ∨ c.state = .close_wait then
        let data := data.take (c.size - c.tx_buffer.length)
        (.connected { c with tx_buffer := c.tx_buffer ++ data }, .ok data.length)
      else (socket, .error .invalid_state)
    | _ => (socket, .error .invalid_state)
  recv_slice socket len :=
    match socket with
    | .closed listen_endpoint rx tx fin size =>
      if rx ≠ [] then (.closed listen_endpoint (rx.drop len) tx fin size, .ok (rx.take len))
      else (socket, .error (if fin then .finished else .invalid_state))
    | .listening .. => (socket, .error .invalid_state)
    | .connected c =>
      if c.state.receiving ∨ c.rx_buffer ≠ [] then
        (.connected { c with
          rx_buffer := c.rx_buffer.drop len
          handshake := fun h => by simp [c.handshake h] }, .ok (c.rx_buffer.take len))
      else (socket, .error (if c.rx_fin_received then .finished else .invalid_state))
  accepts socket seg :=
    match socket with
    | .closed .. => false
    | .listening listen_endpoint _ => seg.ack = false ∧ listen_endpoint = seg.dst.listen
    | .connected c => c.local_endpoint = seg.dst ∧ c.remote_endpoint = seg.src
  resets _ seg := seg.control = .rst

/-- A UDP socket. -/
structure Udp where
  endpoint : IpListenEndpoint
  /-- The datagrams received and not yet read, each with its sender. -/
  rx : List Datagram
  /-- The datagrams to be sent, each with its destination. -/
  tx : List Datagram
  size : ℕ

/-- The number of payload bytes in a datagram queue. -/
def load (queue : List Datagram) : ℕ := (queue.map fun d => d.2.length).sum

/-- The methods of `udp::Socket`. -/
def udp : UdpApi Udp where
  new size := ⟨⟨none, 0⟩, [], [], size⟩
  bind socket endpoint :=
    if endpoint.port = 0 then .error .unaddressable
    else if socket.endpoint.port ≠ 0 then .error .invalid_state
    else .ok { socket with endpoint }
  endpoint socket := socket.endpoint
  can_send socket := socket.tx.length < 4096
  can_recv socket := socket.rx ≠ []
  rx_buffer socket := socket.rx
  tx_buffer socket := socket.tx
  close socket := { socket with endpoint := ⟨none, 0⟩, rx := [], tx := [] }
  send_slice socket data dst :=
    if socket.endpoint.port = 0 ∨ dst.addr.is_unspecified ∨ dst.port = 0 then
      (socket, .error .unaddressable)
    else if 4096 ≤ socket.tx.length ∨ socket.size < load socket.tx + data.length then
      (socket, .error .buffer_full)
    else ({ socket with tx := socket.tx ++ [(dst, data)] }, .ok ())
  recv_slice socket len :=
    match socket.rx with
    | [] => (socket, .error .exhausted)
    | (src, data) :: rx =>
      if len < data.length then ({ socket with rx }, .error .truncated)
      else ({ socket with rx }, .ok (data, src))

/-! ## Reading packets -/

open Wire

/-- The transport payload of a packet that is not a fragment, with its protocol and addresses. -/
def transport (buf : Packet) : Except Panic (Option (IpProtocol × Bytes × IpAddr × IpAddr)) := do
  match ← of_packet buf with
  | some 4 =>
    if !(← ipv4_check_len buf) then return none
    -- The flag "more fragments" and the fragment offset.
    if (← read_u16 buf 6) % 2 ^ 14 ≠ 0 then return none
    return some (.from (← byte buf 9), ← ipv4_payload buf, ← ipv4_addr buf 12, ← ipv4_addr buf 16)
  | some _ =>
    if !(← ipv6_check_len buf) then return none
    return some (.from (← byte buf 6), ← ipv6_payload buf, ← ipv6_addr buf 8, ← ipv6_addr buf 24)
  | none => return none

/-- The control flag that `TcpRepr::parse` reads, which refuses other combinations of SYN, FIN, and
RST. -/
def control (syn fin rst psh : Bool) : Option TcpControl :=
  match syn, fin, rst with
  | false, false, false => some (if psh then .psh else .none)
  | true, false, false => some .syn
  | false, true, false => some .fin
  | false, false, true => some .rst
  | _, _, _ => none

/-- `TcpRepr::parse` of a header without options. -/
def tcp_repr (buf : Bytes) (src dst : IpAddr) : Except Panic (Option Segment) := do
  if !(← tcp_check_len buf) then return none
  let src_port ← src_port buf
  let dst_port ← dst_port buf
  if src_port = 0 ∨ dst_port = 0 then return none
  match control (← tcp_flag 1 buf) (← tcp_flag 0 buf) (← tcp_flag 2 buf) (← tcp_flag 3 buf) with
  | none => return none
  | some control =>
    return some ⟨⟨src, src_port⟩, ⟨dst, dst_port⟩, control, ← tcp_flag 4 buf, none,
      buf.drop (← tcp_header_len buf)⟩

/-- The TCP segment of a packet. -/
def deliver (buf : Packet) : Option Segment :=
  match transport buf with
  | .ok (some (.tcp, payload, src, dst)) =>
    match tcp_repr payload src dst with
    | .ok seg => seg
    | .error _ => none
  | _ => none

/-- `UdpRepr::parse`: the endpoints and the payload. -/
def udp_repr (buf : Bytes) (src dst : IpAddr) :
    Except Panic (Option (IpEndpoint × IpEndpoint × Bytes)) := do
  if !(← udp_check_len buf) then return none
  let src_port ← src_port buf
  let dst_port ← dst_port buf
  if dst_port = 0 then return none
  return some (⟨src, src_port⟩, ⟨dst, dst_port⟩, ← range buf 8 (← read_u16 buf 4))

/-- The UDP datagram of a packet. -/
def datagram (buf : Packet) : Option (IpEndpoint × IpEndpoint × Bytes) :=
  match transport buf with
  | .ok (some (.udp, payload, src, dst)) =>
    match udp_repr payload src dst with
    | .ok d => d
    | .error _ => none
  | _ => none

/-! ## Polling -/

/-- The sockets by slot. -/
abbrev Sockets := List (Option (AnySocket Tcp Udp))

/-- The slot of the first UDP socket that is bound to the endpoint. -/
def receiver (sockets : Sockets) (dst : IpEndpoint) : Option ℕ :=
  sockets.findIdx? fun
    | some (.udp u) => u.endpoint = dst.listen
    | _ => false

/-- What a segment does to the socket in slot `i`, when slot `k` takes it. -/
def process_at (k : Option ℕ) (seg : Segment) (i : ℕ) (c : Tcp) : Tcp :=
  if k = some i then (c.process seg).1 else c

/-- The registrations that a segment wakes. -/
def segment_woken (sockets : Sockets) (seg : Segment) : List (ℕ × Side) :=
  match tcp.taker sockets seg with
  | none => []
  | some i =>
    match Slots.get sockets i with
    | some (.tcp c) => (c.process seg).2.map fun side => (i, side)
    | _ => []

/-- A UDP socket that gets a datagram. -/
def Udp.enqueue (u : Udp) (src : IpEndpoint) (data : Bytes) : Udp :=
  if 4096 ≤ u.rx.length ∨ u.size < load u.rx + data.length then u
  else { u with rx := u.rx ++ [(src, data)] }

/-- `Interface::poll`, with the first of the packets. -/
def poll (_interface : Unit) (_now : ℕ) (packets : List Packet) (sockets : Sockets) :
    PollResult Unit Tcp Udp where
  interface := ()
  tcp i c :=
    match packets.head?.bind deliver with
    | some seg => process_at (tcp.taker sockets seg) seg i c
    | none => c
  udp i u :=
    let u := { u with tx := [] }
    match packets.head?.bind datagram with
    | some (src, dst, data) => if receiver sockets dst = some i then u.enqueue src data else u
    | none => u
  woken :=
    (match packets.head?.bind deliver with
      | some seg => segment_woken sockets seg
      | none => []) ++
    (match packets.head?.bind datagram with
      | some (_, dst, _) => (receiver sockets dst).toList.map fun i => (i, .recv)
      | none => []) ++
    sockets.zipIdx.filterMap fun
      | (some (.udp u), i) => if u.tx = [] then none else some (i, .send)
      | _ => none
  sent := sockets.flatMap fun
    | some (.udp u) => (u.tx.filter (·.fits MTU)).map Prod.snd
    | _ => []

/-- A datagram cannot be written into a packet: its destination is not of the IP version of the
socket's address, or it is too long for the header of an IPv6 packet. -/
def Udp.unwritable (u : Udp) (d : Datagram) : Bool :=
  u.endpoint.addr.any fun addr => match addr, d.1.addr with
    | .v4 _, .v4 _ => false
    | .v6 _, .v6 _ => 2 ^ 16 ≤ 8 + d.2.length
    | _, _ => true

/-- A segment is answered: by the socket that takes it, which is a listening one when the segment's
source is unspecified, or with an RST. -/
def answered (sockets : Sockets) (seg : Segment) : Bool :=
  match tcp.taker sockets seg with
  | some _ => seg.opens
  | none => seg.control ≠ .rst

/-- A poll panics on a datagram that cannot be written into a packet, and on an answer to the
unspecified address. -/
def poll_panics (_interface : Unit) (_now : ℕ) (packets : List Packet) (sockets : Sockets) : Bool :=
  (sockets.any fun
    | some (.udp u) => u.tx.any u.unwritable
    | _ => false) ||
  (packets.head?.bind deliver).any fun seg =>
    seg.src.addr.is_unspecified && answered sockets seg

/-! ## Packets for examples -/

/-- Port 9 of the host `10.0.0.client`. -/
def client_addr (client : ℕ) : SocketAddr := .v4 (BitVec.ofNat 32 (0x0a000000 + client)) 9

/-- A port of the host `10.0.1.1`. -/
def server_addr (port : UInt16) : SocketAddr := .v4 0x0a000101 port

/-- An IPv4 packet from the host `10.0.0.client` to the host `10.0.1.1`, without checksum. -/
def ipv4_packet (protocol client : UInt8) (payload : Bytes) : Packet :=
  [0x45, 0, 0, UInt8.ofNat (20 + payload.length), 0, 0, 0, 0, 64, protocol, 0, 0,
    10, 0, 0, client, 10, 0, 1, 1] ++ payload

/-- A TCP packet from port 9 of a client, with the given flags. -/
def tcp_packet (client port flags : UInt8) (payload : Bytes) : Packet :=
  ipv4_packet 6 client
    ([0, 9, 0, port, 0, 0, 0, 0, 0, 0, 0, 0, 0x50, flags, 0xff, 0xff, 0, 0, 0, 0] ++ payload)

/-- A SYN. -/
def syn (client port : UInt8) : Packet := tcp_packet client port 0x02 []

/-- A segment with an acknowledgment and data. -/
def ack (client port : UInt8) (payload : Bytes) : Packet := tcp_packet client port 0x10 payload

/-- A FIN with an acknowledgment. -/
def fin (client port : UInt8) : Packet := tcp_packet client port 0x11 []

/-- A RST. -/
def rst (client port : UInt8) : Packet := tcp_packet client port 0x04 []

/-- A UDP datagram from port 9 of a client. -/
def udp_packet (client port : UInt8) (payload : Bytes) : Packet :=
  ipv4_packet 17 client
    ([0, 9, 0, port, 0, UInt8.ofNat (8 + payload.length), 0, 0] ++ payload)

end Reference

/-- The reference instance. -/
abbrev reference : Smoltcp where
  Tcp := Reference.Tcp
  Udp := Reference.Udp
  Interface := Unit
  tcp := Reference.tcp
  udp := Reference.udp
  max_transmission_unit _ := MTU
  poll := Reference.poll
  poll_panics := Reference.poll_panics
  poll_delay _ _ _ := none
  deliver _ := Reference.deliver

namespace Reference

/-! ## The instance meets the specification -/

/-- `move` sets the state, when the state is not the listening one. -/
theorem state_move (c : Conn) {state : TcpState} (done : state ≠ .syn_received)
    (h : state ≠ .listen) : tcp.state (c.move state done) = state := by
  unfold Conn.move
  split_ifs with hc
  · rfl
  · cases state <;> simp_all [TcpState.connected, tcp]

/-- `move` keeps the data. -/
theorem buffer_move (c : Conn) {state : TcpState} (done : state ≠ .syn_received) :
    tcp.rx_buffer (c.move state done) = c.rx_buffer ∧
      tcp.tx_buffer (c.move state done) = c.tx_buffer := by
  unfold Conn.move
  split_ifs <;> exact ⟨rfl, rfl⟩

/-- `receive` goes to the next state, which is not the listening one. -/
theorem state_receive (c : Conn) (seg : Segment) :
    tcp.state (c.receive seg) = next_state c.state (seg.control = .fin) := by
  unfold Conn.receive
  dsimp only
  split_ifs with h
  · rfl
  · have := c.connected
    cases hs : c.state <;> cases hf : decide (seg.control = .fin) <;>
      simp_all [next_state, TcpState.connected, tcp]

/-- `receive` adds to the received data. -/
theorem buffer_receive (c : Conn) (seg : Segment) :
    tcp.rx_buffer (c.receive seg) = c.rx_buffer ++ c.accepted seg := by
  unfold Conn.receive
  dsimp only
  split_ifs <;> rfl

/-- The length of the receive buffer. -/
theorem recv_queue_eq (c : Tcp) : tcp.recv_queue c = (tcp.rx_buffer c).length := by
  cases c <;> rfl

/-- `close` does not make the peer's FIN. -/
theorem fin_received_of_after_close {state : TcpState}
    (h : state.after_close.fin_received = true) : state.fin_received = true := by
  cases state <;> simp_all [TcpState.after_close, TcpState.fin_received]

/-- A socket that is not in SYN-SENT does not get there by a segment. -/
theorem process_syn_sent {c : Tcp} {seg : Segment} (h : tcp.state c ≠ .syn_sent) :
    tcp.state (c.process seg).1 ≠ .syn_sent := by
  cases c with
  | closed => exact h
  | listening listen_endpoint size =>
    simp only [Tcp.process]
    split_ifs <;> exact fun h => by cases h
  | connected c =>
    have hc : c.state ≠ .syn_sent := h
    simp only [Tcp.process, Conn.process]
    by_cases reset : seg.control = .rst
    · rw [if_pos reset]
      split_ifs
      · exact fun h => by cases h
      · rw [state_move c _ (by decide)]
        decide
    · rw [if_neg reset]
      by_cases disregarded : seg.ack = false ∨ seg.control = .syn
      · rw [if_pos disregarded]
        exact h
      · rw [if_neg disregarded, state_receive]
        cases hs : c.state <;> cases decide (seg.control = .fin) <;> simp_all [next_state]

/-- `move` to a state with a peer keeps the endpoints. -/
theorem same_endpoints_move (c : Conn) {state : TcpState} (done : state ≠ .syn_received)
    (h : state.connected = true) : tcp.SameEndpoints (.connected c) (c.move state done) := by
  unfold Conn.move
  rw [dif_pos h]
  exact ⟨rfl, rfl, rfl⟩

/-- `receive` keeps the endpoints when the next state has a peer. -/
theorem same_endpoints_receive (c : Conn) {seg : Segment}
    (h : (next_state c.state (seg.control = .fin)).connected = true) :
    tcp.SameEndpoints (.connected c) (c.receive seg) := by
  unfold Conn.receive
  dsimp only
  rw [dif_pos h]
  exact ⟨rfl, rfl, rfl⟩

/-- A socket with a peer goes on to a later state or closes. -/
theorem next_state_cases (state : TcpState) (fin : Bool) (h : state.connected = true) :
    next_state state fin = state ∨ (next_state state fin).connected = true ∧
      (next_state state fin).opening = false ∨
      next_state state fin = .closed ∧ state.opening = false := by
  cases state <;> cases fin <;> simp_all [next_state, TcpState.connected, TcpState.opening]

/-- What `process` does to a socket with a peer is allowed by the specification. -/
theorem conn_process_received (c : Conn) (seg : Segment) :
    tcp.Received seg (.connected c) (c.process seg).1 := by
  have hc : (tcp.state (.connected c)).connected = true := c.connected
  have hlisten : c.state ≠ .listen := fun h => by
    rw [show tcp.state (.connected c) = c.state from rfl, h] at hc
    exact absurd hc (by decide)
  unfold Conn.process
  by_cases hrst : seg.control = .rst
  · rw [if_pos hrst]
    by_cases hsyn : c.state = .syn_received
    · rw [if_pos hsyn]
      exact .relistened hsyn (decide_eq_true hrst) rfl rfl
    · rw [if_neg hsyn]
      refine .closed ?_ (state_move c (show TcpState.closed ≠ .syn_received by decide) (by decide))
      simp [tcp, TcpState.opening, hlisten, hsyn]
  rw [if_neg hrst]
  have kept : tcp.resets (.connected c) seg = false := decide_eq_false hrst
  by_cases hack : seg.ack = false ∨ seg.control = .syn
  · rw [if_pos hack]
    exact .advanced hc (.inl rfl) ⟨rfl, rfl, rfl⟩ kept
  rw [if_neg hack]
  have next := state_receive c seg
  rcases next_state_cases c.state (seg.control = .fin) c.connected with h | ⟨h, ho⟩ | ⟨h, ho⟩
  · refine .advanced hc (.inl (next.trans h)) (same_endpoints_receive c ?_) kept
    rw [h]
    exact c.connected
  · refine .advanced hc (.inr ?_) (same_endpoints_receive c h) kept
    rw [next]
    exact ⟨h, ho⟩
  · exact .closed ho (next.trans h)

/-- What `process` does to a socket that accepts the segment is allowed by the specification. -/
theorem process_received {c : Tcp} {seg : Segment} (h : tcp.accepts c seg = true) :
    tcp.Received seg c (c.process seg).1 := by
  cases c with
  | closed => simp [tcp] at h
  | listening listen_endpoint size =>
    unfold Tcp.process
    split_ifs with ho
    · exact .opened rfl ho rfl rfl rfl rfl
    · exact .ignored rfl (by simpa using ho) rfl ⟨rfl, rfl, rfl⟩
  | connected c => exact conn_process_received c seg

/-- A segment adds to the received data. -/
theorem process_buffer (c : Tcp) (seg : Segment) :
    ∃ data, tcp.rx_buffer (c.process seg).1 = tcp.rx_buffer c ++ data := by
  cases c with
  | closed => exact ⟨[], (List.append_nil _).symm⟩
  | listening listen_endpoint size =>
    refine ⟨[], ?_⟩
    unfold Tcp.process
    split_ifs <;> rfl
  | connected c =>
    simp only [Tcp.process, Conn.process]
    by_cases reset : seg.control = .rst
    · rw [if_pos reset]
      split_ifs with hsyn
      · exact ⟨[], by simp [tcp, c.handshake hsyn]⟩
      · have moved := buffer_move c (show TcpState.closed ≠ .syn_received by decide)
        exact ⟨[], moved.1.trans (List.append_nil _).symm⟩
    · rw [if_neg reset]
      by_cases disregarded : seg.ack = false ∨ seg.control = .syn
      · rw [if_pos disregarded]
        exact ⟨[], (List.append_nil _).symm⟩
      · rw [if_neg disregarded]
        exact ⟨_, buffer_receive c seg⟩

/-- A segment acknowledges everything that was to be sent, or nothing. -/
theorem process_tx_buffer (c : Tcp) (seg : Segment) :
    tcp.tx_buffer (c.process seg).1 <:+ tcp.tx_buffer c := by
  cases c with
  | closed => exact List.suffix_refl _
  | listening listen_endpoint size =>
    unfold Tcp.process
    split_ifs <;> exact List.suffix_refl _
  | connected c =>
    simp only [Tcp.process, Conn.process]
    by_cases reset : seg.control = .rst
    · rw [if_pos reset]
      split_ifs
      · exact List.nil_suffix
      · have moved := buffer_move c (show TcpState.closed ≠ .syn_received by decide)
        exact moved.2 ▸ List.suffix_refl _
    · rw [if_neg reset]
      by_cases disregarded : seg.ack = false ∨ seg.control = .syn
      · rw [if_pos disregarded]
      · rw [if_neg disregarded]
        unfold Conn.receive
        dsimp only
        split_ifs <;> exact List.nil_suffix

/-- A closed socket stays as it is. -/
theorem process_closed {c : Tcp} (seg : Segment) (h : tcp.state c = .closed) :
    (c.process seg).1 = c := by
  cases c with
  | closed => rfl
  | listening => simp [tcp] at h
  | connected c =>
    have := c.connected
    simp only [tcp] at h
    simp [h, TcpState.connected] at this

/-- A datagram is added to the received ones, or dropped. -/
theorem enqueue_buffer (u : Udp) (src : IpEndpoint) (data : Bytes) :
    ∃ new, (u.enqueue src data).rx = u.rx ++ new := by
  unfold Udp.enqueue
  split_ifs
  · exact ⟨[], (List.append_nil _).symm⟩
  · exact ⟨_, rfl⟩

/-- A datagram keeps the endpoint of the socket that gets it. -/
theorem enqueue_endpoint (u : Udp) (src : IpEndpoint) (data : Bytes) :
    (u.enqueue src data).endpoint = u.endpoint := by
  unfold Udp.enqueue
  split_ifs <;> rfl

/-- A datagram that is received leaves what is to be sent. -/
theorem enqueue_tx (u : Udp) (src : IpEndpoint) (data : Bytes) :
    (u.enqueue src data).tx = u.tx := by
  unfold Udp.enqueue
  split_ifs <;> rfl

/-- A datagram that arrives leaves the size of the payload ring. -/
theorem enqueue_size (u : Udp) (src : IpEndpoint) (data : Bytes) :
    (u.enqueue src data).size = u.size := by
  unfold Udp.enqueue
  split_ifs <;> rfl

/-- What a poll with at most one packet does to a TCP socket. -/
theorem poll_tcp (interface : Unit) (now : ℕ) (packet : Option Packet) (sockets : Sockets) (i : ℕ)
    (c : Tcp) : (poll interface now packet.toList sockets).tcp i c =
      match packet.bind deliver with
      | some seg => process_at (tcp.taker sockets seg) seg i c
      | none => c := by
  cases packet <;> rfl

end Reference

/-- The reference instance behaves as the specification says. -/
theorem reference_spec : reference.Spec where
  listen_zero size endpoint h := by simp [Reference.tcp, h]
  listen_ok size endpoint h := ⟨.listening endpoint size, by simp [Reference.tcp, h], rfl, rfl⟩
  is_active c := by
    cases c with
    | closed => simp [Reference.tcp]
    | listening => simp [Reference.tcp]
    | connected c =>
      have := c.connected
      simp only [Reference.tcp, TcpState.connected, decide_eq_true_eq] at this ⊢
      tauto
  may_recv c := by
    cases c with
    | closed _ rx => simp [Reference.tcp, TcpState.receiving]
    | listening => simp [Reference.tcp, TcpState.receiving]
    | connected c => simp [Reference.tcp]
  local_endpoint c := by
    cases c with
    | closed => rfl
    | listening => rfl
    | connected c => exact c.connected.symm
  remote_endpoint c := by
    cases c with
    | closed => rfl
    | listening => rfl
    | connected c => exact c.connected.symm
  listen_queue c h := by
    cases c with
    | closed => simp [Reference.tcp] at h
    | listening => rfl
    | connected c =>
      have := c.connected
      simp only [Reference.tcp] at h
      simp [h, TcpState.connected] at this
  syn_received_queue c h := by
    cases c with
    | closed => cases h
    | listening => rfl
    | connected c =>
      have empty : c.rx_buffer = [] := c.handshake h
      simp [Reference.tcp, empty]
  close_state c := by
    cases c with
    | closed => rfl
    | listening => rfl
    | connected c =>
      refine Reference.state_move c (Reference.after_close_ne_syn_received _) fun h => ?_
      cases hs : c.state <;> simp [hs, TcpState.after_close] at h
  close_queue c := by
    rw [Reference.recv_queue_eq, Reference.recv_queue_eq]
    cases c with
    | closed => rfl
    | listening => rfl
    | connected c =>
      exact congrArg List.length
        (Reference.buffer_move c (Reference.after_close_ne_syn_received _)).1
  close_ends c := by
    cases c with
    | closed => exact .inl ⟨rfl, rfl, rfl⟩
    | listening => exact .inl ⟨rfl, rfl, rfl⟩
    | connected c =>
      by_cases h : c.state.after_close.connected = true
      · exact .inl (Reference.same_endpoints_move c (Reference.after_close_ne_syn_received _) h)
      · right
        simp [Reference.tcp, Reference.Conn.move, h]
  send_slice c data := by
    cases c with
    | closed => exact ⟨rfl, rfl, rfl, rfl⟩
    | listening => exact ⟨rfl, rfl, rfl, rfl⟩
    | connected c =>
      simp only [Reference.tcp, TcpApi.SameEndpoints]
      split_ifs <;> exact ⟨rfl, rfl, rfl, rfl⟩
  recv_slice c len := by
    cases c with
    | closed _ rx =>
      simp only [Reference.tcp, TcpApi.SameEndpoints]
      split_ifs <;> exact ⟨rfl, rfl, rfl, rfl⟩
    | listening => exact ⟨rfl, rfl, rfl, rfl⟩
    | connected c =>
      simp only [Reference.tcp, TcpApi.SameEndpoints]
      split_ifs <;> exact ⟨rfl, rfl, rfl, rfl⟩
  accepts_listen c seg h _ := by
    cases c with
    | closed => simp [Reference.tcp] at h
    | listening => simp [Reference.tcp]
    | connected c =>
      have := c.connected
      simp only [Reference.tcp] at h
      simp [h, TcpState.connected] at this
  accepts_connected c seg h := by
    cases c with
    | closed => simp [Reference.tcp, TcpState.connected] at h
    | listening => simp [Reference.tcp, TcpState.connected] at h
    | connected c => simp [Reference.tcp]
  accepts_closed c seg h := by
    cases c with
    | closed => rfl
    | listening => simp [Reference.tcp] at h
    | connected c =>
      have := c.connected
      simp only [Reference.tcp] at h
      simp [h, TcpState.connected] at this
  recv_queue := Reference.recv_queue_eq
  send_slice_buffers c data := by
    cases c with
    | closed => exact ⟨nofun, fun _ _ => rfl, rfl, rfl⟩
    | listening => exact ⟨nofun, fun _ _ => rfl, rfl, rfl⟩
    | connected c =>
      simp only [Reference.tcp]
      split_ifs
      · refine ⟨fun n hn => ?_, nofun, rfl, rfl⟩
        obtain rfl := Except.ok.inj hn
        exact ⟨List.length_take_le' _ _, by rw [List.take_eq_take_min]; simp⟩
      · exact ⟨nofun, fun _ _ => rfl, rfl, rfl⟩
  recv_slice_buffers c len := by
    cases c with
    | closed listen_endpoint rx tx fin size =>
      simp only [Reference.tcp]
      split_ifs with h
      · refine ⟨fun data hd => ?_, nofun, rfl, rfl⟩
        exact ⟨(Except.ok.inj hd).symm, rfl⟩
      all_goals
        have empty : rx = [] := by simpa using h
        exact ⟨nofun, fun _ _ => ⟨empty, empty⟩, rfl, rfl⟩
    | listening => exact ⟨nofun, fun _ _ => ⟨rfl, rfl⟩, rfl, rfl⟩
    | connected c =>
      simp only [Reference.tcp]
      split_ifs with h
      · refine ⟨fun data hd => ?_, nofun, rfl, rfl⟩
        exact ⟨(Except.ok.inj hd).symm, rfl⟩
      all_goals
        have empty : c.rx_buffer = [] := by simp_all
        exact ⟨nofun, fun _ _ => ⟨empty, empty⟩, rfl, rfl⟩
  close_buffer c := by
    cases c with
    | closed => exact ⟨rfl, rfl, rfl⟩
    | listening => exact ⟨rfl, rfl, rfl⟩
    | connected c =>
      have moved := Reference.buffer_move c (Reference.after_close_ne_syn_received c.state)
      refine ⟨moved.1, moved.2, ?_⟩
      have fin : (c.rx_fin_received || c.state.after_close.fin_received) = c.rx_fin_received := by
        cases h : c.state.after_close.fin_received with
        | false => exact Bool.or_false _
        | true => rw [c.fin (Reference.fin_received_of_after_close h), Bool.or_true]
      simp only [Reference.tcp, Reference.Conn.move]
      split_ifs
      · exact fin
      · rfl
  state_fin c h := by
    cases c with
    | closed => simp [Reference.tcp, TcpState.fin_received] at h
    | listening => simp [Reference.tcp, TcpState.fin_received] at h
    | connected c => exact c.fin h
  poll_buffer interface now packets sockets i c := by
    refine .inl ?_
    simp only [Reference.poll]
    cases packets.head?.bind Reference.deliver with
    | none => exact ⟨[], (List.append_nil _).symm⟩
    | some seg =>
      simp only [Reference.process_at]
      split_ifs
      · exact Reference.process_buffer c seg
      · exact ⟨[], (List.append_nil _).symm⟩
  poll_closed interface now packets sockets i c h := by
    simp only [Reference.poll]
    cases packets.head?.bind Reference.deliver with
    | none => exact ⟨h, rfl⟩
    | some seg =>
      simp only [Reference.process_at, Reference.process_closed seg h, ite_self]
      exact ⟨h, trivial⟩
  resets_rst c seg h := of_decide_eq_true h
  poll_idle interface now packet sockets i c hc h := by
    rw [Reference.poll_tcp]
    cases hd : packet.bind Reference.deliver with
    | none => exact .kept rfl ⟨rfl, rfl, rfl⟩ rfl
    | some seg =>
      simp only [Reference.process_at, if_neg (h seg hd)]
      exact .kept rfl ⟨rfl, rfl, rfl⟩ rfl
  poll_received interface now packet sockets i c seg hc hseg h := by
    obtain ⟨c', hc', ha⟩ := TcpApi.accepts_of_taker h
    obtain rfl : c = c' := by simpa [hc] using hc'
    have hd : packet.bind Reference.deliver = some seg := hseg
    rw [Reference.poll_tcp, hd]
    simp only [Reference.process_at, if_pos h]
    exact Reference.process_received ha
  poll_syn_sent interface now packets sockets i c h := by
    have key : ∀ seg, Reference.tcp.state (Reference.process_at
        (Reference.tcp.taker sockets seg) seg i c) ≠ .syn_sent := by
      intro seg
      rw [Reference.process_at]
      split_ifs
      · exact Reference.process_syn_sent h
      · exact h
    simp only [Reference.poll]
    cases packets.head?.bind Reference.deliver with
    | none => exact h
    | some seg => exact key seg
  bind_zero size endpoint h := by simp [Reference.udp, h]
  bind_ok size endpoint h := by
    simp only [Reference.udp, if_neg h]
    exact ⟨_, rfl⟩
  bind_endpoint size endpoint u h := by
    simp only [Reference.udp] at h
    split_ifs at h
    cases h
    rfl
  udp_send_endpoint u data dst := by
    simp only [Reference.udp]
    split_ifs <;> rfl
  udp_recv_endpoint u len := by
    simp only [Reference.udp]
    cases u.rx with
    | nil => rfl
    | cons d rx =>
      dsimp only
      split_ifs <;> rfl
  udp_poll_endpoint interface now packets sockets i u := by
    simp only [Reference.poll]
    cases packets.head?.bind Reference.datagram with
    | none => rfl
    | some d =>
      dsimp only
      split_ifs
      · exact Reference.enqueue_endpoint _ _ _
      · rfl
  udp_send_slice u data dst := by
    simp only [Reference.udp]
    split_ifs
    · exact ⟨nofun, fun _ _ => rfl, rfl⟩
    · exact ⟨nofun, fun _ _ => rfl, rfl⟩
    · exact ⟨fun _ => rfl, nofun, rfl⟩
  udp_recv_slice u len := by
    obtain ⟨endpoint, rx, tx, size⟩ := u
    cases rx with
    | nil =>
      simp only [Reference.udp]
      exact ⟨nofun, nofun, fun _ _ _ => rfl, rfl⟩
    | cons d rx =>
      simp only [Reference.udp]
      split_ifs with hlen
      · exact ⟨nofun, fun _ => ⟨d, hlen, rfl⟩,
          fun err he hne => absurd (Except.error.inj he).symm hne, rfl⟩
      · refine ⟨fun data src hd => ?_, nofun, nofun, rfl⟩
        cases hd
        exact ⟨Nat.le_of_not_lt hlen, rfl⟩
  udp_poll_buffer interface now packets sockets i u := by
    simp only [Reference.poll]
    cases packets.head?.bind Reference.datagram with
    | none => exact ⟨[], (List.append_nil _).symm⟩
    | some d =>
      dsimp only
      split_ifs
      · exact Reference.enqueue_buffer _ _ _
      · exact ⟨[], (List.append_nil _).symm⟩

/-- The payload ring of a UDP socket. -/
def Reference.payload_ring : PayloadRing Reference.Udp where
  capacity u := u.size
  fits u n := Reference.load u.tx + n ≤ u.size

/-- A packet is represented by the payload of its datagram. -/
def Reference.carries (d : Datagram) (p : Packet) : Prop := p = d.2

/-- A poll of the instance sends or drops all datagrams. -/
theorem reference_flushes : reference.Flushes where
  poll_tx_buffer interface now packets sockets i u h := by
    simp only [Reference.poll]
    cases packets.head?.bind Reference.datagram with
    | none => rfl
    | some d =>
      dsimp only
      split_ifs
      · exact Reference.enqueue_tx _ _ _
      · rfl

/-- A bound socket is a new one with an endpoint. -/
theorem Reference.bind_new {size : ℕ} {endpoint : IpListenEndpoint} {u : Udp}
    (h : udp.bind (udp.new size) endpoint = .ok u) : u = ⟨endpoint, [], [], size⟩ := by
  simp only [udp] at h
  split_ifs at h
  cases h
  rfl

/-- The instance takes datagrams as smoltcp does. -/
theorem reference_enqueues : reference.Enqueues Reference.payload_ring where
  bind size endpoint u h := by
    rw [Reference.bind_new h]
    rfl
  send_ok u data dst port addressable := by
    obtain ⟨addr, hport⟩ : dst.addr.is_unspecified = false ∧ dst.port ≠ 0 := by
      simpa [IpEndpoint.addressable] using addressable
    simp only [Reference.udp, Reference.payload_ring] at port ⊢
    rw [if_neg (by simp [port, addr, hport])]
    by_cases full : 4096 ≤ u.tx.length ∨ u.size < Reference.load u.tx + data.length
    · rw [if_pos full]
      simp only [reduceCtorEq, decide_eq_true_eq, false_iff]
      omega
    · rw [if_neg full]
      simp only [decide_eq_true_eq, true_iff]
      omega
  send_unaddressable u data dst h := by
    have h : dst.addr.is_unspecified = true ∨ dst.port = 0 := by
      have : dst.addr.is_unspecified = false → dst.port = 0 := by
        simpa [IpEndpoint.addressable] using h
      cases hu : dst.addr.is_unspecified with
      | true => exact .inl rfl
      | false => exact .inr (this hu)
    simp only [Reference.udp]
    rw [if_pos (.inr h)]

/-- The rings of the instance are as smoltcp's. -/
theorem reference_rings : reference.Rings Reference.payload_ring where
  bind_capacity size endpoint u h := by
    rw [Reference.bind_new h]
    rfl
  send_capacity u data dst := by
    simp only [Reference.udp]
    split_ifs <;> rfl
  recv_capacity u len := by
    simp only [Reference.udp]
    cases u.rx with
    | nil => rfl
    | cons d rx =>
      dsimp only
      split_ifs <;> rfl
  poll_capacity interface now packets sockets i u := by
    simp only [Reference.poll]
    cases packets.head?.bind Reference.datagram with
    | none => rfl
    | some d =>
      dsimp only
      split_ifs
      · exact Reference.enqueue_size _ _ _
      · rfl
  empty u h := by
    have h : u.tx = [] := h
    simp [Reference.udp, Reference.payload_ring, Reference.load, h]
  poll_woken interface now packets sockets i u h full := by
    have hi : sockets[i]? = some (some (.udp u)) := Option.join_eq_some_iff.mp h
    have full : u.tx ≠ [] := full
    refine List.mem_append.mpr (.inr (List.mem_filterMap.mpr ⟨(some (.udp u), i), ?_, ?_⟩))
    · exact List.mk_mem_zipIdx_iff_getElem?.mpr hi
    · simp [full]

/-- A poll of the instance sends a packet for each datagram that goes out in one. -/
theorem reference_emits : reference.Emits Reference.carries where
  bind size endpoint u h := by
    rw [Reference.bind_new h]
    rfl
  poll_max_transmission_unit _ _ _ _ := rfl
  poll_sent interface now packets sockets i u h := by
    refine ⟨(u.tx.filter (·.fits MTU)).map Prod.snd, ?_, ?_⟩
    -- The packets of one socket are among those of all.
    · have hi : sockets[i]? = some (some (.udp u)) := Option.join_eq_some_iff.mp h
      simp only [Reference.poll, List.flatMap_def]
      exact List.sublist_flatten_of_mem (List.mem_map.mpr ⟨_, List.mem_of_getElem? hi, rfl⟩)
    · exact List.forall₂_map_right_iff.mpr (List.forall₂_same.mpr fun d _ => rfl)

/-- Without packets a poll of the instance changes nothing and wakes whom it should. -/
theorem reference_rests : reference.Rests where
  poll_state interface now sockets i c := .inl rfl
  poll_woken interface now sockets i side woken := by
    refine .inr ?_
    have woken : (i, side) ∈ List.filterMap _ sockets.zipIdx := woken
    obtain ⟨⟨o, j⟩, mem, h⟩ := List.mem_filterMap.mp woken
    have slot := List.mk_mem_zipIdx_iff_getElem?.mp mem
    cases o with
    | none => cases h
    | some s =>
      cases s with
      | tcp c => cases h
      | udp u =>
        dsimp only at h
        split_ifs at h with full
        cases h
        exact ⟨rfl, u, Option.join_eq_some_iff.mpr slot, full⟩

/-- Bytes leave the transmit buffers of the instance in order. -/
theorem reference_streams : reference.Streams where
  listen size endpoint c h := by
    simp only [Reference.tcp] at h
    split_ifs at h
    cases h
    rfl
  poll interface now packets sockets i c := by
    simp only [Reference.poll]
    cases packets.head?.bind Reference.deliver with
    | none => exact List.suffix_refl _
    | some seg =>
      simp only [Reference.process_at]
      split_ifs
      · exact Reference.process_tx_buffer c seg
      · exact List.suffix_refl _

end L3Extract
