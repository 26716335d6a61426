import L3Extract.Smoltcp.Spec

/-!
# How smoltcp sends

A UDP socket keeps the datagrams that it has to send in two rings: one for their destinations and
lengths, which `can_send` looks at, and one for their payloads. The structures of this module
collect what results about sending need of smoltcp beyond `Smoltcp.Spec`, each for one matter:
`Flushes` says that a poll empties the rings, as the device always has a token for the next packet;
`Enqueues` when `send_slice` takes a datagram; `Rings` how large the rings are and that one who
waits for room is woken; `Emits` which packets a poll puts into the device's transmit queue.

The payload ring is seen by its capacity and by the payloads that fit at present, whatever the
padding at its end. A relation says which packet carries a datagram. `Smoltcp.Rests` says what polls
do when no packet arrives, and `Smoltcp.Streams` how bytes leave the transmit buffer of a TCP
socket.
-/

namespace L3Extract

/-- `IpAddress::is_unspecified`: of an IPv4 address, only the first octet is looked at. -/
def IpAddr.is_unspecified : IpAddr → Bool
  | .v4 octets => octets >>> 24 = 0
  | .v6 octets => octets = 0

/-- The addresses are of one IP version. -/
def IpAddr.same_version : IpAddr → IpAddr → Bool
  | .v4 _, .v4 _ => true
  | .v6 _, .v6 _ => true
  | _, _ => false

/-- A datagram can be sent there: an address that is not the unspecified one, and a port. -/
def IpEndpoint.addressable (endpoint : IpEndpoint) : Bool :=
  !endpoint.addr.is_unspecified && endpoint.port != 0

/-- A payload of so many bytes goes to the address in one packet. The length fields of the headers
have 16 bits, and an IPv4 packet, of at least 28 bytes, is not larger than the device can send; an
IPv6 packet is not compared with that. -/
def IpAddr.carries (addr : IpAddr) (mtu len : ℕ) : Bool :=
  match addr with
  | .v4 _ => 28 + len ≤ mtu ∧ 28 + len < 2 ^ 16
  | .v6 _ => 8 + len < 2 ^ 16

/-- The ring for the payloads that a UDP socket has to send. -/
structure PayloadRing (Udp : Type) where
  capacity : Udp → ℕ
  /-- A payload of so many bytes fits at present, with the padding before it if it does not fit at
  the ring's end. -/
  fits : Udp → ℕ → Bool

/-- A poll sends what UDP sockets have queued, or drops what cannot be sent. -/
structure Smoltcp.Flushes (S : Smoltcp) : Prop where
  poll_tx_buffer : ∀ interface now packets sockets i u, Slots.get sockets i = some (.udp u) →
    S.udp.tx_buffer ((S.poll interface now packets sockets).udp i u) = []

/-- When a UDP socket takes a datagram. -/
structure Smoltcp.Enqueues (S : Smoltcp) (ring : PayloadRing S.Udp) : Prop where
  /-- A new socket has nothing to send. -/
  bind : ∀ size endpoint u, S.udp.bind (S.udp.new size) endpoint = .ok u → S.udp.tx_buffer u = []
  /-- `send_slice` of a bound socket takes a datagram if both rings have room for it. -/
  send_ok : ∀ u data dst, (S.udp.endpoint u).port ≠ 0 → dst.addressable = true →
    ((S.udp.send_slice u data dst).2 = .ok () ↔
      S.udp.can_send u = true ∧ ring.fits u data.length = true)
  /-- It takes nothing for an address that nothing can be sent to. -/
  send_unaddressable : ∀ u data dst, dst.addressable = false →
    (S.udp.send_slice u data dst).2 = .error .unaddressable

/-- The rings of a UDP socket, and who is woken when there is room in them again. -/
structure Smoltcp.Rings (S : Smoltcp) (ring : PayloadRing S.Udp) : Prop where
  /-- The payload ring of a new socket is as large as it was asked for. -/
  bind_capacity : ∀ size endpoint u, S.udp.bind (S.udp.new size) endpoint = .ok u →
    ring.capacity u = size
  /-- Sending, receiving, and polling leave the rings as large as they are. -/
  send_capacity : ∀ u data dst,
    ring.capacity (S.udp.send_slice u data dst).1 = ring.capacity u
  recv_capacity : ∀ u len, ring.capacity (S.udp.recv_slice u len).1 = ring.capacity u
  poll_capacity : ∀ interface now packets sockets i u,
    ring.capacity ((S.poll interface now packets sockets).udp i u) = ring.capacity u
  /-- Empty rings have room for a datagram that is not larger than the payload ring. -/
  empty : ∀ u, S.udp.tx_buffer u = [] →
    S.udp.can_send u = true ∧ ∀ n, ring.fits u n = true ↔ n ≤ ring.capacity u
  /-- The send waker is woken when a datagram leaves its socket. -/
  poll_woken : ∀ interface now packets sockets i u, Slots.get sockets i = some (.udp u) →
    S.udp.tx_buffer u ≠ [] → (i, .send) ∈ (S.poll interface now packets sockets).woken

/-- The datagram goes out in one packet. -/
def Datagram.fits (mtu : ℕ) (d : Datagram) : Bool := d.1.addr.carries mtu d.2.length

/-- What polls put into the device's transmit queue for the datagrams of UDP sockets. -/
structure Smoltcp.Emits (S : Smoltcp) (carries : Datagram → Packet → Prop) : Prop where
  /-- A new socket has nothing to send. -/
  bind : ∀ size endpoint u, S.udp.bind (S.udp.new size) endpoint = .ok u → S.udp.tx_buffer u = []
  /-- The interface keeps the capabilities of the device that it was made for. -/
  poll_max_transmission_unit : ∀ interface now packets sockets,
    S.max_transmission_unit (S.poll interface now packets sockets).interface =
      S.max_transmission_unit interface
  /-- A poll puts a packet for each datagram that goes out in one into the transmit queue, in
  order. -/
  poll_sent : ∀ interface now packets sockets i u, Slots.get sockets i = some (.udp u) →
    ∃ ps, List.Sublist ps (S.poll interface now packets sockets).sent ∧
      List.Forall₂ carries
        ((S.udp.tx_buffer u).filter (·.fits (S.max_transmission_unit interface))) ps

variable {S : Smoltcp} {ring : PayloadRing S.Udp}

/-- The socket takes a datagram: there is room for it, and it can be sent. -/
def PayloadRing.takes (ring : PayloadRing S.Udp) (u : S.Udp) (data : Bytes) (dst : IpEndpoint) :
    Bool :=
  S.udp.can_send u && ring.fits u data.length && dst.addressable

/-- `send_slice` succeeds exactly when the socket takes the datagram. -/
theorem Smoltcp.Enqueues.takes_iff (enqueues : S.Enqueues ring) {u : S.Udp}
    (port : (S.udp.endpoint u).port ≠ 0) (data : Bytes) (dst : IpEndpoint) :
    (S.udp.send_slice u data dst).2 = .ok () ↔ ring.takes u data dst = true := by
  cases addressable : dst.addressable with
  | true =>
    rw [enqueues.send_ok u data dst port addressable, PayloadRing.takes, addressable]
    simp
  | false =>
    rw [enqueues.send_unaddressable u data dst addressable, PayloadRing.takes, addressable]
    simp

/-- What happens in polls without a packet. -/
structure Smoltcp.Rests (S : Smoltcp) : Prop where
  /-- A TCP socket keeps its state, or TIME-WAIT is over, and its receive buffer is cleared. -/
  poll_state : ∀ interface now sockets i c,
    S.tcp.state ((S.poll interface now [] sockets).tcp i c) = S.tcp.state c ∨
      S.tcp.state ((S.poll interface now [] sockets).tcp i c) = .closed ∧
        S.tcp.recv_queue ((S.poll interface now [] sockets).tcp i c) = 0
  /-- The wakers of a TCP socket are woken when its state changes, and the send waker of a UDP
  socket when a datagram leaves it. -/
  poll_woken : ∀ interface now sockets i side,
    (i, side) ∈ (S.poll interface now [] sockets).woken →
    (∃ c, Slots.get sockets i = some (.tcp c) ∧
      S.tcp.state ((S.poll interface now [] sockets).tcp i c) ≠ S.tcp.state c) ∨
    side = .send ∧ ∃ u, Slots.get sockets i = some (.udp u) ∧ S.udp.tx_buffer u ≠ []

/-- What happens to the bytes that a TCP socket has to send. -/
structure Smoltcp.Streams (S : Smoltcp) : Prop where
  /-- A new socket has nothing to send. -/
  listen : ∀ size endpoint c, S.tcp.listen (S.tcp.new size) endpoint = .ok c →
    S.tcp.tx_buffer c = []
  /-- Bytes leave the transmit buffer at its front: those that the peer acknowledges, or all when
  the connection is over. -/
  poll : ∀ interface now packets sockets i c,
    S.tcp.tx_buffer ((S.poll interface now packets sockets).tcp i c) <:+ S.tcp.tx_buffer c

end L3Extract
