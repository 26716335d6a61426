import L3Extract.Stack.Event
import Mathlib.Data.Finset.Basic
import Mathlib.Logic.Function.Basic

/-!
# The state of the stack

`TcpStack` of `src/tcp_stack/mod.rs` with what its operations reach from it: the sockets with their
waker slots, the channels that its senders lead to, and the result channels and buffers of the
requests. The operations of `src/wake_fn.rs` and of smoltcp's containers are defined on this state:
`register` overwrites a waker, and `wake` takes it and runs its closure.

A waker is represented by the event that it was made from. The closures for Ready, Close, Read,
Write, Recv, and Send put this event back into the event channel, and `wake_failed` is their answer
when the channel is disconnected. The closure for Shutdown answers `Ok(())`.
-/

namespace L3Extract

variable {S : Smoltcp}

/-- An unbounded channel, seen from both ends. -/
structure Channel (α : Type) where
  queue : List α
  /-- The receiver exists. -/
  connected : Bool
  /-- All values that were ever put into the queue, in order. -/
  sent : List α

/-- A new channel. -/
def Channel.unbounded {α : Type} : Channel α := ⟨[], true, []⟩

/-- `send` with the error ignored: without a receiver the value is lost. -/
def Channel.send {α : Type} (ch : Channel α) (v : α) : Channel α :=
  if ch.connected then { ch with queue := ch.queue ++ [v], sent := ch.sent ++ [v] } else ch

/-- The receiver takes the first value. -/
def Channel.recv {α : Type} (ch : Channel α) : Channel α := { ch with queue := ch.queue.tail }

/-- The receiver takes everything. -/
def Channel.drain {α : Type} (ch : Channel α) : Channel α := { ch with queue := [] }

/-- The receiver is dropped, and what is in the queue with it. -/
def Channel.disconnect {α : Type} (ch : Channel α) : Channel α :=
  { ch with queue := [], connected := false }

/-- A socket in the socket set, with its two waker registrations. -/
structure Item (S : Smoltcp) where
  socket : S.Socket
  wakers : Side → Option OperationEvent

/-- A socket without wakers. -/
def Item.new (socket : S.Socket) : Item S := ⟨socket, fun _ => none⟩

/-- The item with another socket value. -/
def Item.put (socket : S.Socket) (item : Item S) : Item S := { item with socket }

/-- `register_recv_waker` and `register_send_waker`: the waker that was there is dropped. -/
def Item.register (side : Side) (e : OperationEvent) (item : Item S) : Item S :=
  { item with wakers := Function.update item.wakers side (some e) }

/-- The item without its waker on one side. -/
def Item.unregister (side : Side) (item : Item S) : Item S :=
  { item with wakers := Function.update item.wakers side none }

/-- `VirtualInterface`. -/
structure VirtualInterface where
  rx_queue : List Packet
  tx_queue : List Packet

/-- `TcpStack`, with the state behind its channels. -/
structure TcpStack (S : Smoltcp) where
  tcp_socket_buf_size : ℕ
  interface : S.Interface
  virtual_iface : VirtualInterface
  socket_set : Arena (Item S)
  socket_handles : Finset (Protocol × ℕ)
  accepted_udp_sockets : Finset SocketAddr
  operation_event : Channel OperationEvent
  tcp_stream : Channel TcpInfo
  udp_stream : Channel UdpInfo
  /-- What was sent on result channels, in order. -/
  answers : List (ResultTx × Answer)
  /-- The buffers of the requests. -/
  memory : BufferId → IoBuf

namespace TcpStack

/-- `TcpStack::new`, for an interface that is set up. -/
def new (tcp_socket_buf_size : ℕ) (interface : S.Interface) : TcpStack S where
  tcp_socket_buf_size := tcp_socket_buf_size
  interface := interface
  virtual_iface := ⟨[], []⟩
  socket_set := .empty
  socket_handles := ∅
  accepted_udp_sockets := ∅
  operation_event := .unbounded
  tcp_stream := .unbounded
  udp_stream := .unbounded
  answers := []
  memory _ := ⟨[], 0⟩

/-! ## Reading the tables -/

/-- The socket in a slot. -/
def socket_at (t : TcpStack S) (i : ℕ) : Option S.Socket := (t.socket_set.val i).map Item.socket

/-- The TCP socket in a slot. -/
def tcp_at (t : TcpStack S) (i : ℕ) : Option S.Tcp :=
  match t.socket_at i with
  | some (.tcp c) => some c
  | _ => none

/-- The UDP socket in a slot. -/
def udp_at (t : TcpStack S) (i : ℕ) : Option S.Udp :=
  match t.socket_at i with
  | some (.udp u) => some u
  | _ => none

/-- The kind of socket that a slot holds. -/
def kind_at (t : TcpStack S) (i : ℕ) : Option Protocol := (t.socket_at i).map AnySocket.protocol

/-- The waker in a slot's registration. -/
def waker (t : TcpStack S) (i : ℕ) (side : Side) : Option OperationEvent :=
  (t.socket_set.val i).bind fun item => item.wakers side

/-- The sockets by slot, as the interface sees them. -/
def sockets (t : TcpStack S) : List (Option S.Socket) :=
  t.socket_set.slots.map fun o => o.map fun p => p.2.socket

/-- `self.socket_handles.contains(&typed_handle)`. -/
def contains (t : TcpStack S) (h : TypedSocketHandle) : Bool := h.key ∈ t.socket_handles

/-- `self.socket_set.get_mut::<TcpSocket>(handle)`. -/
def get_tcp (t : TcpStack S) (handle : SocketHandle) : Except Panic S.Tcp :=
  match t.socket_at handle.index with
  | some (.tcp c) => .ok c
  | some (.udp _) => .error .wrong_kind
  | none => .error .empty_slot

/-- `self.socket_set.get_mut::<UdpSocket>(handle)`. -/
def get_udp (t : TcpStack S) (handle : SocketHandle) : Except Panic S.Udp :=
  match t.socket_at handle.index with
  | some (.udp u) => .ok u
  | some (.tcp _) => .error .wrong_kind
  | none => .error .empty_slot

/-! ## Changing the sockets -/

/-- The socket in slot `i` becomes another value. -/
def put (t : TcpStack S) (i : ℕ) (socket : S.Socket) : TcpStack S :=
  { t with socket_set := t.socket_set.modify i (.put socket) }

/-- A waker made from the event `e` is registered at slot `i`. -/
def register (t : TcpStack S) (i : ℕ) (side : Side) (e : OperationEvent) : TcpStack S :=
  { t with socket_set := t.socket_set.modify i (.register side e) }

/-- A value is sent on a result channel. -/
def answer (t : TcpStack S) (tx : ResultTx) (a : Answer) : TcpStack S :=
  { t with answers := t.answers ++ [(tx, a)] }

/-- The buffer of a request that received `data`. -/
def fill (t : TcpStack S) (buffer : BufferId) (data : Bytes) : TcpStack S :=
  { t with memory := Function.update t.memory buffer ((t.memory buffer).fill data) }

/-- `self.operation_event_tx.send(event)` with the error ignored. -/
def send_event (t : TcpStack S) (e : OperationEvent) : TcpStack S :=
  { t with operation_event := t.operation_event.send e }

/-- The answer that the closure of a waker gives when the event channel is disconnected. -/
def wake_failed : OperationEvent → Option (ResultTx × Answer)
  | .read _ _ tx => some (tx, .error (.message .broken_pipe "wake TCP read failed"))
  | .write _ _ tx => some (tx, .error (.message .broken_pipe "wake TCP write failed"))
  | .recv _ _ tx => some (tx, .error (.message .broken_pipe "wake UDP read failed"))
  | .send _ _ _ tx => some (tx, .error (.message .broken_pipe "wake UDP write failed"))
  | _ => none

/-- The closure of the waker made from the event `e` runs. -/
def run_waker (t : TcpStack S) (e : OperationEvent) : TcpStack S :=
  match e with
  | .shutdown _ tx => t.answer tx (.ok .done)
  | e =>
    if t.operation_event.connected then t.send_event e
    else match wake_failed e with
      | some (tx, a) => t.answer tx a
      | none => t

/-- `WakerRegistration::wake`: the waker is taken out and runs. -/
def wake (t : TcpStack S) (i : ℕ) (side : Side) : TcpStack S :=
  match t.waker i side with
  | none => t
  | some e => { t with socket_set := t.socket_set.modify i (.unregister side) }.run_waker e

/-- Both wakers of a socket run, as in every change of the state of a TCP socket. -/
def wake_both (t : TcpStack S) (i : ℕ) : TcpStack S := (t.wake i .recv).wake i .send

/-- `tcp::Socket::close` on the socket `c` of slot `i`. -/
def close_tcp (t : TcpStack S) (i : ℕ) (c : S.Tcp) : TcpStack S :=
  let t := t.put i (.tcp (S.tcp.close c))
  if S.tcp.state (S.tcp.close c) = S.tcp.state c then t else t.wake_both i

/-- `udp::Socket::close` on the socket `u` of slot `i`. -/
def close_udp (t : TcpStack S) (i : ℕ) (u : S.Udp) : TcpStack S :=
  (t.put i (.udp (S.udp.close u))).wake_both i

/-- The handle that `SocketSet::add` gives to the next socket. -/
def next_handle (t : TcpStack S) : SocketHandle := ⟨t.socket_set.free, t.socket_set.next⟩

/-- `self.socket_set.add(socket)`. -/
def add (t : TcpStack S) (socket : S.Socket) : TcpStack S :=
  { t with socket_set := t.socket_set.add (.new socket) }

end TcpStack

end L3Extract
