import L3Extract.Smoltcp.Api

/-!
# Handles, requests, and operation events

The messages of the stack: `OperationEvent` of `src/tcp_stack/event.rs`, with the handles that name
sockets, the answers that a request gets on its result channel, and the `TcpInfo` and `UdpInfo` that
go to the acceptors.

A `SocketHandle` of smoltcp is the index of a slot. The handles here carry in addition the number of
the socket that the handle was made for, its incarnation. It says which socket a handle was meant
for after its slot is used again. No operation of the stack looks at it: tables are indexed by
`TypedSocketHandle.key`, which is without it.
-/

namespace L3Extract

/-- `smoltcp::iface::SocketHandle`: the index of a slot, with the socket it was made for. -/
structure SocketHandle where
  index : ℕ
  /-- Which socket, of all that were ever added, the handle was made for. -/
  incarnation : ℕ
  deriving DecidableEq, Repr

/-- The two kinds of sockets. -/
inductive Protocol
  | tcp
  | udp
  deriving DecidableEq, Repr

/-- `TypedSocketHandle`. -/
inductive TypedSocketHandle
  | tcp (handle : SocketHandle)
  | udp (handle : SocketHandle)
  deriving DecidableEq, Repr

/-- `From<TypedSocketHandle> for SocketHandle`. -/
def TypedSocketHandle.handle : TypedSocketHandle → SocketHandle
  | tcp handle => handle
  | udp handle => handle

/-- The kind of socket that the handle is for. -/
def TypedSocketHandle.protocol : TypedSocketHandle → Protocol
  | tcp _ => .tcp
  | udp _ => .udp

/-- What `Eq` and `Hash` of `TypedSocketHandle` see: the variant and the index of the slot. -/
def TypedSocketHandle.key (h : TypedSocketHandle) : Protocol × ℕ := (h.protocol, h.handle.index)

/-- A typed handle is given by its protocol and its handle. -/
theorem TypedSocketHandle.ext {h h' : TypedSocketHandle} (protocol : h.protocol = h'.protocol)
    (handle : h.handle = h'.handle) : h = h' := by
  cases h <;> cases h' <;> simp_all [TypedSocketHandle.protocol, TypedSocketHandle.handle]

/-- The kind of a socket. -/
def AnySocket.protocol {Tcp Udp : Type} : AnySocket Tcp Udp → Protocol
  | .tcp _ => .tcp
  | .udp _ => .udp

/-! ## Buffers and answers -/

/-- A buffer of a user, `SharedBuf<T>`: all its bytes up to the capacity, and how many of them are
initialized. -/
@[ext] structure IoBuf where
  bytes : Bytes
  buf_len : ℕ
  deriving DecidableEq, Repr

/-- `AsIoBuf::as_slice`. -/
def IoBuf.as_slice (buf : IoBuf) : Bytes := buf.bytes.take buf.buf_len

/-- The length of `AsIoBufMut::as_slice_mut`: the capacity. -/
def IoBuf.capacity (buf : IoBuf) : ℕ := buf.bytes.length

/-- The buffer after `data` was written to the start of `as_slice_mut` and
`AsIoBufMut::set_initiated_len` was called with its length. -/
def IoBuf.fill (buf : IoBuf) (data : Bytes) : IoBuf where
  bytes := data ++ buf.bytes.drop data.length
  buf_len := max buf.buf_len data.length

/-- The `std::io::ErrorKind`s that the stack gives out. -/
inductive ErrorKind
  | not_found
  | broken_pipe
  | unexpected_eof
  | write_zero
  | other
  deriving DecidableEq, Repr

/-- `std::io::Error`, by how it is made. -/
inductive IoError
  /-- `io::Error::from(kind)` -/
  | simple (kind : ErrorKind)
  /-- `io::Error::new(kind, message)` -/
  | message (kind : ErrorKind) (text : String)
  /-- `io::Error::new(kind, err)` with an error of smoltcp -/
  | socket (kind : ErrorKind) (err : SocketError)
  deriving DecidableEq, Repr

/-- What a result channel carries for a request that succeeds. -/
inductive Reply
  /-- `Ok(n)` of a read, a write, or a send. -/
  | len (n : ℕ)
  /-- `Ok((n, addr))` of a recv. -/
  | datagram (n : ℕ) (addr : SocketAddr)
  /-- `Ok(())` of a shutdown. -/
  | done
  deriving DecidableEq, Repr

/-- What is sent on a result channel. -/
abbrev Answer := Except IoError Reply

/-- A result channel, `flume::bounded(1)`, by its number. -/
abbrev ResultTx := ℕ

/-- A buffer in shared memory, `Arc<SharedBuf<T>>`, by its number. -/
abbrev BufferId := ℕ

/-! ## Events -/

/-- `OperationEvent`. -/
inductive OperationEvent
  | ready (typed_handle : TypedSocketHandle)
  | read (handle : SocketHandle) (buffer : BufferId) (result_tx : ResultTx)
  | write (handle : SocketHandle) (buffer : BufferId) (result_tx : ResultTx)
  | recv (handle : SocketHandle) (buffer : BufferId) (result_tx : ResultTx)
  | send (handle : SocketHandle) (src : SocketAddr) (buffer : BufferId) (result_tx : ResultTx)
  | shutdown (handle : TypedSocketHandle) (result_tx : ResultTx)
  | close (typed_handle : TypedSocketHandle)
  deriving DecidableEq, Repr

namespace OperationEvent

/-- The socket that an event is for. -/
def handle : OperationEvent → TypedSocketHandle
  | ready h => h
  | read h _ _ => .tcp h
  | write h _ _ => .tcp h
  | recv h _ _ => .udp h
  | send h _ _ _ => .udp h
  | shutdown h _ => h
  | close h => h

/-- The slot that an event is for. -/
def index (e : OperationEvent) : ℕ := e.handle.handle.index

/-- The result channel of a request. -/
def result_tx : OperationEvent → Option ResultTx
  | ready _ => none
  | read _ _ tx => some tx
  | write _ _ tx => some tx
  | recv _ _ tx => some tx
  | send _ _ _ tx => some tx
  | shutdown _ tx => some tx
  | close _ => none

/-- The buffer of a request. -/
def buffer : OperationEvent → Option BufferId
  | read _ b _ => some b
  | write _ b _ => some b
  | recv _ b _ => some b
  | send _ _ b _ => some b
  | _ => none

/-- The socket whose only owner the event is: a Ready has yet to deliver it, and a Close has yet to
remove it. -/
def owner : OperationEvent → Option TypedSocketHandle
  | ready h => some h
  | close h => some h
  | _ => none

/-- The events that `drive_once` puts off until it has seen the whole batch, by pass: Read and Write
for `handle_tcp_wake_events`, Recv and Send for `handle_udp_wake_events`. -/
def deferred : OperationEvent → Option Protocol
  | read .. => some .tcp
  | write .. => some .tcp
  | recv .. => some .udp
  | send .. => some .udp
  | _ => none

/-- The waker registrations that an event can wait in. -/
def waits : OperationEvent → Side → Bool
  | ready _, _ => true
  | read .., side => side = .recv
  | write .., side => side = .send
  | recv .., side => side = .recv
  | send .., side => side = .send
  | shutdown .., side => side = .send
  | close _, side => side = .recv

/-- An event with a result channel is a request, and is no owner. -/
theorem owner_of_result_tx {e : OperationEvent} {tx : ResultTx} (h : e.result_tx = some tx) :
    e.owner = none := by
  cases e <;> simp_all [result_tx, owner]

/-- A deferred event is for a socket of the protocol of its pass. -/
theorem protocol_of_deferred {e : OperationEvent} {p : Protocol} (h : e.deferred = some p) :
    e.handle.protocol = p := by
  cases e <;> simp_all [deferred, handle, TypedSocketHandle.protocol]

end OperationEvent

/-- `TcpInfo`, and `TcpStream`, which has the same fields. -/
structure TcpInfo where
  handle : SocketHandle
  local_addr : SocketAddr
  remote_addr : SocketAddr
  deriving DecidableEq, Repr

/-- `UdpInfo`, and `UdpSocket`, which has the same fields. -/
structure UdpInfo where
  handle : SocketHandle
  remote_addr : SocketAddr
  deriving DecidableEq, Repr

end L3Extract
