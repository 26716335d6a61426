import L3Extract.Basic
import L3Extract.Lib.Arena

/-!
# The interface to smoltcp

The stack stands on `smoltcp`, whose sources are not part of the repository. `Smoltcp` is the part
of its interface that the stack calls: the types of its sockets and of its network interface, the
methods of `tcp::Socket` and `udp::Socket`, and `Interface::poll`. The development takes a value of
`Smoltcp` as a parameter. What a result needs to know about it is a field of `Smoltcp.Spec`
(`Smoltcp/Spec.lean`), or of one of the structures of `Smoltcp/Transmit.lean`. Nothing is assumed of
`poll_panics`: a poll may panic in smoltcp, and a result that says that a call returns has this in
its condition.

Two containers of smoltcp are modeled as they are documented instead: `SocketSet`, a table that
reuses the first free slot, and the two waker registrations of a socket, each of which holds one
waker that a new one overwrites. Hence the socket types here are without wakers, and `poll` returns
which registrations it wakes.
-/

namespace L3Extract

/-- `smoltcp::socket::tcp::State`. -/
inductive TcpState
  | closed | listen | syn_sent | syn_received | established | fin_wait1 | fin_wait2 | close_wait
  | closing | last_ack | time_wait
  deriving DecidableEq, Repr

/-- `Display for State`. -/
def TcpState.display : TcpState → String
  | closed => "CLOSED"
  | listen => "LISTEN"
  | syn_sent => "SYN-SENT"
  | syn_received => "SYN-RECEIVED"
  | established => "ESTABLISHED"
  | fin_wait1 => "FIN-WAIT-1"
  | fin_wait2 => "FIN-WAIT-2"
  | close_wait => "CLOSE-WAIT"
  | closing => "CLOSING"
  | last_ack => "LAST-ACK"
  | time_wait => "TIME-WAIT"

/-- The states in which a TCP socket has a peer. -/
def TcpState.connected (state : TcpState) : Bool := state ≠ .closed ∧ state ≠ .listen

/-- The states that a TCP socket is in before its handshake is done. -/
def TcpState.opening (state : TcpState) : Bool := state = .listen ∨ state = .syn_received

/-- The states that the peer's FIN leads to. -/
def TcpState.fin_received (state : TcpState) : Bool :=
  state = .close_wait ∨ state = .closing ∨ state = .last_ack ∨ state = .time_wait

/-- The states in which a TCP socket may still receive new data. -/
def TcpState.receiving (state : TcpState) : Bool :=
  state = .established ∨ state = .fin_wait1 ∨ state = .fin_wait2

/-- The state after `tcp::Socket::close`. -/
def TcpState.after_close : TcpState → TcpState
  | listen | syn_sent => closed
  | syn_received | established => fin_wait1
  | close_wait => last_ack
  | state => state

/-- `smoltcp::socket::tcp::ListenError` and `smoltcp::socket::udp::BindError`. -/
inductive ListenError
  | invalid_state
  | unaddressable
  deriving DecidableEq, Repr

/-- The errors of `send_slice` and `recv_slice`, by the enumerations that have them. -/
inductive SocketError
  /-- `tcp::SendError::InvalidState`, `tcp::RecvError::InvalidState` -/
  | invalid_state
  /-- `tcp::RecvError::Finished` -/
  | finished
  /-- `udp::SendError::Unaddressable` -/
  | unaddressable
  /-- `udp::SendError::BufferFull` -/
  | buffer_full
  /-- `udp::RecvError::Exhausted` -/
  | exhausted
  /-- `udp::RecvError::Truncated` -/
  | truncated
  deriving DecidableEq, Repr

/-- The control flag of a TCP segment, `TcpControl`. -/
inductive TcpControl
  | none | psh | syn | fin | rst
  deriving DecidableEq, Repr

/-- A TCP segment that the interface hands to the sockets, with what the results need of it. -/
structure Segment where
  src : IpEndpoint
  dst : IpEndpoint
  control : TcpControl
  /-- Whether the segment carries an acknowledgment number. -/
  ack : Bool
  /-- The maximum segment size option. -/
  max_seg_size : Option ℕ
  payload : Bytes
  deriving DecidableEq, Repr

/-- The segment opens a connection at a listening socket: a SYN, whose maximum segment size, if it
has one, is not zero. -/
def Segment.opens (seg : Segment) : Bool :=
  seg.control = .syn ∧ seg.ack = false ∧ seg.max_seg_size ≠ some 0

/-- `smoltcp::socket::tcp::Socket`, without its wakers. -/
structure TcpApi (Socket : Type) where
  /-- A socket over buffers of the given size, as `create_tcp_socket` makes it. -/
  new : ℕ → Socket
  listen : Socket → IpListenEndpoint → Except ListenError Socket
  state : Socket → TcpState
  is_active : Socket → Bool
  may_recv : Socket → Bool
  may_send : Socket → Bool
  can_send : Socket → Bool
  /-- The number of bytes in the receive buffer. -/
  recv_queue : Socket → ℕ
  /-- The bytes in the receive buffer, which the socket's user has yet to read. -/
  rx_buffer : Socket → Bytes
  /-- The bytes in the transmit buffer, which the peer has yet to acknowledge. -/
  tx_buffer : Socket → Bytes
  /-- The peer's FIN was received, and all data before it. -/
  rx_fin_received : Socket → Bool
  listen_endpoint : Socket → IpListenEndpoint
  local_endpoint : Socket → Option IpEndpoint
  remote_endpoint : Socket → Option IpEndpoint
  close : Socket → Socket
  /-- The number of bytes that are taken over. -/
  send_slice : Socket → Bytes → Socket × Except SocketError ℕ
  /-- The bytes that are moved into a slice of the given length. -/
  recv_slice : Socket → ℕ → Socket × Except SocketError Bytes
  /-- Whether the socket takes the segment when it is offered it. -/
  accepts : Socket → Segment → Bool
  /-- Whether the socket is reset by the segment when it takes it: an RST in its window. -/
  resets : Socket → Segment → Bool

/-- A datagram in a packet buffer of a UDP socket: its sender or its destination, and its
payload. -/
abbrev Datagram := IpEndpoint × Bytes

/-- `smoltcp::socket::udp::Socket`, without its wakers. -/
structure UdpApi (Socket : Type) where
  /-- A socket over payload buffers of the given size, as `create_udp_socket` makes it. -/
  new : ℕ → Socket
  bind : Socket → IpListenEndpoint → Except ListenError Socket
  endpoint : Socket → IpListenEndpoint
  can_send : Socket → Bool
  can_recv : Socket → Bool
  /-- The datagrams that were received and not read. -/
  rx_buffer : Socket → List Datagram
  /-- The datagrams that are yet to be sent. -/
  tx_buffer : Socket → List Datagram
  close : Socket → Socket
  send_slice : Socket → Bytes → IpEndpoint → Socket × Except SocketError Unit
  /-- The bytes that are moved into a slice of the given length, and the sender. -/
  recv_slice : Socket → ℕ → Socket × Except SocketError (Bytes × IpEndpoint)

/-- The two waker registrations of a socket. -/
inductive Side
  | recv
  | send
  deriving DecidableEq, Repr

/-- A socket of either protocol, without its wakers. -/
inductive AnySocket (Tcp Udp : Type)
  | tcp (socket : Tcp)
  | udp (socket : Udp)

/-- The slot of the first TCP socket, in slot order, that accepts the segment. -/
def TcpApi.taker {Tcp Udp : Type} (api : TcpApi Tcp) (sockets : List (Option (AnySocket Tcp Udp)))
    (seg : Segment) : Option ℕ :=
  sockets.findIdx? fun
    | some (.tcp c) => api.accepts c seg
    | _ => false

/-- What `Interface::poll` does to the sockets and to the device. -/
structure PollResult (Interface Tcp Udp : Type) where
  interface : Interface
  /-- What a TCP socket becomes, by its slot. -/
  tcp : ℕ → Tcp → Tcp
  /-- What a UDP socket becomes, by its slot. -/
  udp : ℕ → Udp → Udp
  /-- The registrations that are woken, in order. -/
  woken : List (ℕ × Side)
  /-- The packets that are put into the device's transmit queue, in order. -/
  sent : List Packet

/-- The part of smoltcp that the stack uses. -/
structure Smoltcp where
  /-- `smoltcp::socket::tcp::Socket` -/
  Tcp : Type
  /-- `smoltcp::socket::udp::Socket` -/
  Udp : Type
  /-- `smoltcp::iface::Interface` -/
  Interface : Type
  tcp : TcpApi Tcp
  udp : UdpApi Udp
  /-- `max_transmission_unit` of the device that the interface was made for. -/
  max_transmission_unit : Interface → ℕ
  /-- `Interface::poll` at an instant, with the packets in the device's receive queue and the
  sockets by slot. -/
  poll : Interface → ℕ → List Packet → List (Option (AnySocket Tcp Udp)) →
    PollResult Interface Tcp Udp
  /-- Whether `Interface::poll` panics. The value of `poll` is of no account then. -/
  poll_panics : Interface → ℕ → List Packet → List (Option (AnySocket Tcp Udp)) → Bool
  /-- `Interface::poll_delay` at an instant. -/
  poll_delay : Interface → ℕ → List (Option (AnySocket Tcp Udp)) → Option ℕ
  /-- The TCP segment that the interface hands to the sockets when it polls a packet: none when the
  packet carries none, is discarded, or is a fragment that does not complete one. -/
  deliver : Interface → Packet → Option Segment

/-- A socket of either protocol. -/
abbrev Smoltcp.Socket (S : Smoltcp) : Type := AnySocket S.Tcp S.Udp

end L3Extract
