import L3Extract.Lib.Threads
import L3Extract.Stack.Account

/-!
# The handlers, operation by operation

In `Stack.Handlers` a handler is one step. Here it is taken apart into operations of which each is
atomic for the other threads: putting an event into the channel, releasing a reference to a buffer,
sending an answer, dropping the sender of a result channel. `handle_ops` and the functions that it
is made of give the operations of a handler, in the branches of `src/tcp_stack/mod.rs` and in the
order in which each branch does them. What a handler decides depends only on data that no other
thread touches, so its operations are known when it starts.

Calling and dropping closures is part of this. A waker that is taken out leaves its closure to be
called, and one that is overwritten or goes with its socket leaves its closure to be dropped, by
`next`. The fields of an event are dropped in the order of their declaration, and what a closure
captured in the order of first use, which is the same order: `drop_ops`.

`handle_eq_perform` is the connection: a handler is its operations, done without interruption.
-/

namespace L3Extract

open OperationEvent Threads

variable {S : Smoltcp}

/-- An operation of a thread. -/
inductive Op (S : Smoltcp)
  /-- The socket in a slot becomes another value. -/
  | put (i : ℕ) (socket : S.Socket)
  /-- `recv_slice` on a buffer, and `set_initiated_len` -/
  | fill (buffer : BufferId) (data : Bytes)
  /-- `register_recv_waker` and `register_send_waker`, with the closure made from the event -/
  | register (i : ℕ) (side : Side) (e : OperationEvent)
  /-- `WakerRegistration::wake` -/
  | wake (i : ℕ) (side : Side)
  /-- `self.socket_set.remove(handle)` -/
  | remove (i : ℕ)
  /-- `self.socket_handles.remove(&typed_handle)` -/
  | remove_handle (typed_handle : TypedSocketHandle)
  /-- `self.accepted_udp_sockets.remove(&dst)` -/
  | remove_accepted (dst : SocketAddr)
  /-- `self.tcp_stream_tx.send(Ok(info))` -/
  | send_tcp_stream (info : TcpInfo)
  /-- `self.udp_stream_tx.send(Ok(info))` -/
  | send_udp_stream (info : UdpInfo)
  /-- The poll of the interface, up to its wakers. -/
  | advance (now : ℕ)
  /-- `tx.send(event)` in the closure of a waker -/
  | send (e : OperationEvent)
  /-- `drop(buffer)` -/
  | release (buffer : BufferId)
  /-- `result_tx.send(a)` -/
  | answer (result_tx : ResultTx) (a : Answer)
  /-- `result_tx` goes out of scope. -/
  | close (result_tx : ResultTx)
  /-- `cast_dyn_io_buf(buf)` and `cast_dyn_io_buf_mut(buf)` -/
  | cast (buffer : BufferId)

/-! ## Closures and events -/

/-- An event, or the closure of the waker made from it, is dropped. -/
def drop_ops : OperationEvent → List (Op S)
  | .ready _ => []
  | .read _ buffer result_tx => [.release buffer, .close result_tx]
  | .write _ buffer result_tx => [.release buffer, .close result_tx]
  | .recv _ buffer result_tx => [.release buffer, .close result_tx]
  | .send _ _ buffer result_tx => [.release buffer, .close result_tx]
  | .shutdown _ result_tx => [.close result_tx]
  | .close _ => []

/-- The closure of the waker made from an event is called. -/
def waker_ops : OperationEvent → List (Op S)
  | .shutdown _ result_tx => [.answer result_tx (.ok .done), .close result_tx]
  | e => [.send e]

/-- What the closure does with the event that comes back when the channel is disconnected. -/
def send_failed_ops : OperationEvent → List (Op S)
  | .read _ buffer result_tx =>
    [.release buffer,
      .answer result_tx (.error (.message .broken_pipe "wake TCP read failed")), .close result_tx]
  | .write _ buffer result_tx =>
    [.release buffer,
      .answer result_tx (.error (.message .broken_pipe "wake TCP write failed")), .close result_tx]
  | .recv _ buffer result_tx =>
    [.release buffer,
      .answer result_tx (.error (.message .broken_pipe "wake UDP read failed")), .close result_tx]
  | .send _ _ buffer result_tx =>
    [.release buffer,
      .answer result_tx (.error (.message .broken_pipe "wake UDP write failed")), .close result_tx]
  | e => drop_ops e

/-- A socket is dropped with its wakers: `rx_waker` is declared before `tx_waker`. -/
def Item.drop_ops (item : Item S) : List (Op S) :=
  (item.wakers .recv).elim [] L3Extract.drop_ops ++ (item.wakers .send).elim [] L3Extract.drop_ops

namespace TcpStack

/-- The waker in a registration is dropped. -/
def drop_waker_ops (t : TcpStack S) (i : ℕ) (side : Side) : List (Op S) :=
  (t.waker i side).elim [] drop_ops

/-- The stack after an operation. -/
def apply (t : TcpStack S) : Op S → TcpStack S
  | .put i socket => t.put i socket
  | .fill buffer data => t.fill buffer data
  | .register i side e => t.register i side e
  | .wake i side => if (t.waker i side).isSome then t.unregister i side else t
  | .remove i => { t with socket_set := t.socket_set.remove i }
  | .remove_handle h => { t with socket_handles := t.socket_handles.erase h.key }
  | .remove_accepted dst => { t with accepted_udp_sockets := t.accepted_udp_sockets.erase dst }
  | .send_tcp_stream info => { t with tcp_stream := t.tcp_stream.send info }
  | .send_udp_stream info => { t with udp_stream := t.udp_stream.send info }
  | .advance now => t.advance now
  | .send e => t.send_event e
  | .answer result_tx a => t.answer result_tx a
  | .release _ => t
  | .close _ => t
  | .cast _ => t

/-- What an operation leaves for its thread to do before anything else. -/
def next (t : TcpStack S) : Op S → List (Op S)
  | .register i side e =>
    if (t.socket_at i).isSome then t.drop_waker_ops i side else drop_ops e
  | .wake i side => (t.waker i side).elim [] waker_ops
  -- `rx_waker` is declared before `tx_waker`.
  | .remove i => t.drop_waker_ops i .recv ++ t.drop_waker_ops i .send
  | .send e => if t.operation_event.connected then [] else send_failed_ops e
  | _ => []

/-- The operations of one thread on the stack. -/
def semantics : Semantics (TcpStack S) (Op S) := ⟨apply, next⟩

/-! ## The operations of the handlers -/

/-- `tcp::Socket::close` -/
def close_tcp_ops (i : ℕ) (c : S.Tcp) : List (Op S) :=
  .put i (.tcp (S.tcp.close c)) ::
    if S.tcp.state (S.tcp.close c) = S.tcp.state c then [] else [.wake i .recv, .wake i .send]

/-- `udp::Socket::close` -/
def close_udp_ops (i : ℕ) (u : S.Udp) : List (Op S) :=
  [.put i (.udp (S.udp.close u)), .wake i .recv, .wake i .send]

/-- `remove_tcp_socket` -/
def remove_tcp_socket_ops (handle : SocketHandle) : List (Op S) :=
  [.remove handle.index, .remove_handle (.tcp handle)]

/-- `remove_udp_socket` -/
def remove_udp_socket_ops (handle : SocketHandle) (dst : SocketAddr) : List (Op S) :=
  [.remove handle.index, .remove_accepted dst, .remove_handle (.udp handle)]

/-- `handle_shutdown_event` -/
def handle_shutdown_event_ops (t : TcpStack S) (typed_handle : TypedSocketHandle)
    (res_tx : ResultTx) : Except Panic (List (Op S)) := do
  if t.contains typed_handle then
    match typed_handle with
    | .tcp handle =>
      let socket ← t.get_tcp handle
      return .register handle.index .send (.shutdown typed_handle res_tx) ::
        close_tcp_ops handle.index socket
    | .udp _ => throw .unreachable
  else
    return [.answer res_tx (.error (.message .other "unknown shutdown event")), .close res_tx]

/-- `handle_close_event` -/
def handle_close_event_ops (t : TcpStack S) (typed_handle : TypedSocketHandle) :
    Except Panic (List (Op S)) := do
  if t.contains typed_handle then
    match typed_handle with
    | .tcp handle =>
      let socket ← t.get_tcp handle
      if !S.tcp.is_active (S.tcp.close socket) then
        return close_tcp_ops handle.index socket ++ remove_tcp_socket_ops handle
      else
        return close_tcp_ops handle.index socket ++
          [.register handle.index .recv (.close typed_handle)]
    | .udp handle =>
      let socket ← t.get_udp handle
      let endpoint := S.udp.endpoint socket
      match endpoint.addr with
      | none => throw .udp_not_bound
      | some ip =>
        let addr := SocketAddr.new ip endpoint.port
        return close_udp_ops handle.index socket ++ remove_udp_socket_ops handle addr
  else
    return []

/-- `handle_ready_wake_event` -/
def handle_ready_wake_event_ops (t : TcpStack S) (typed_handle : TypedSocketHandle) :
    Except Panic (List (Op S)) := do
  match typed_handle with
  | .tcp handle =>
    let socket ← t.get_tcp handle
    if !S.tcp.may_recv socket then
      return [.register handle.index .recv (.ready typed_handle)]
    else
      match S.tcp.remote_endpoint socket, S.tcp.local_endpoint socket with
      | none, _ => throw .no_local_addr
      | some _, none => throw .no_remote_addr
      | some local_addr, some remote_addr =>
        return [.send_tcp_stream ⟨handle, local_addr.socket_addr, remote_addr.socket_addr⟩]
  | .udp handle =>
    let socket ← t.get_udp handle
    let endpoint := S.udp.endpoint socket
    match endpoint.addr with
    | none => throw .udp_not_bound
    | some ip =>
      let addr := SocketAddr.new ip endpoint.port
      return [.send_udp_stream ⟨handle, addr⟩]

/-- `handle_tcp_wake_event` -/
def handle_tcp_wake_event_ops (t : TcpStack S) (event : OperationEvent) :
    Except Panic (List (Op S)) := do
  match event with
  | .write handle buffer result_tx =>
    if !t.contains (.tcp handle) then
      return [.release buffer, .answer result_tx (.error (.simple .not_found)), .close result_tx]
    else
      let socket ← t.get_tcp handle
      if !S.tcp.can_send socket then
        if !S.tcp.may_send socket then
          return [.release buffer, .answer result_tx (.error (.message .broken_pipe
            ("TCP send failed, socket state: " ++ (S.tcp.state socket).display))),
            .close result_tx]
        else
          return [.register handle.index .send event]
      else
        let (socket, res) := S.tcp.send_slice socket (t.memory buffer).as_slice
        match res with
        | .error err =>
          return [.put handle.index (.tcp socket), .release buffer,
            .answer result_tx (.error (.socket .other err)), .close result_tx]
        | .ok n =>
          return [.put handle.index (.tcp socket), .release buffer,
            .answer result_tx (.ok (.len n)), .close result_tx]
  | .read handle buffer result_tx =>
    if !t.contains (.tcp handle) then
      return [.release buffer, .answer result_tx (.error (.simple .not_found)), .close result_tx]
    else
      let socket ← t.get_tcp handle
      if S.tcp.recv_queue socket = 0 then
        if !S.tcp.may_recv socket then
          return [.release buffer, .answer result_tx (.ok (.len 0)), .close result_tx]
        else
          return [.register handle.index .recv event]
      else
        let (socket, res) := S.tcp.recv_slice socket (t.memory buffer).capacity
        match res with
        | .error .finished =>
          return [.put handle.index (.tcp socket), .release buffer,
            .answer result_tx (.ok (.len 0)), .close result_tx]
        | .error err =>
          return [.put handle.index (.tcp socket), .release buffer,
            .answer result_tx (.error (.socket .other err)), .close result_tx]
        | .ok data =>
          return [.put handle.index (.tcp socket), .fill buffer data, .release buffer,
            .answer result_tx (.ok (.len data.length)), .close result_tx]
  | _ => throw .unreachable

/-- `handle_udp_wake_event` -/
def handle_udp_wake_event_ops (t : TcpStack S) (event : OperationEvent) :
    Except Panic (List (Op S)) := do
  match event with
  | .send handle src buffer result_tx =>
    if !t.contains (.udp handle) then
      return [.release buffer, .answer result_tx (.error (.simple .not_found)), .close result_tx]
    else
      let socket ← t.get_udp handle
      if !S.udp.can_send socket then
        return [.register handle.index .send event]
      else
        let data := (t.memory buffer).as_slice
        let (socket, res) := S.udp.send_slice socket data (.from src)
        match res with
        | .error err =>
          return [.put handle.index (.udp socket), .release buffer,
            .answer result_tx (.error (.socket .other err)), .close result_tx]
        | .ok () =>
          return [.put handle.index (.udp socket), .release buffer,
            .answer result_tx (.ok (.len data.length)), .close result_tx]
  | .recv handle buffer result_tx =>
    if !t.contains (.udp handle) then
      return [.release buffer, .answer result_tx (.error (.simple .not_found)), .close result_tx]
    else
      let socket ← t.get_udp handle
      if !S.udp.can_recv socket then
        return [.register handle.index .recv event]
      else
        let (socket, res) := S.udp.recv_slice socket (t.memory buffer).capacity
        match res with
        | .error err =>
          return [.put handle.index (.udp socket), .release buffer,
            .answer result_tx (.error (.socket .other err)), .close result_tx]
        | .ok (data, endpoint) =>
          return [.put handle.index (.udp socket), .fill buffer data, .release buffer,
            .answer result_tx (.ok (.datagram data.length endpoint.socket_addr)),
            .close result_tx]
  | _ => throw .unreachable

/-- The handler of an event. -/
def handle_ops (t : TcpStack S) (event : OperationEvent) : Except Panic (List (Op S)) :=
  match event with
  | .ready typed_handle => t.handle_ready_wake_event_ops typed_handle
  | .shutdown typed_handle result_tx => t.handle_shutdown_event_ops typed_handle result_tx
  | .close typed_handle => t.handle_close_event_ops typed_handle
  | .read .. => t.handle_tcp_wake_event_ops event
  | .write .. => t.handle_tcp_wake_event_ops event
  | .recv .. => t.handle_udp_wake_event_ops event
  | .send .. => t.handle_udp_wake_event_ops event

/-- `self.interface.poll(..)` -/
def poll_ops (t : TcpStack S) (now : ℕ) : List (Op S) :=
  .advance now :: (t.poll_result now).woken.map fun w => .wake w.1 w.2

/-- The part of `drive_once` before the poll. -/
def arrive (t : TcpStack S) (packet : Option Packet) :
    Except Panic (TcpStack S × Except DriveError Unit) :=
  match packet with
  | none => .ok (t, .ok ())
  | some packet => t.receive packet

/-- The stack is dropped, with its sockets slot by slot. -/
def drop_stack_ops (t : TcpStack S) : List (Op S) :=
  t.socket_set.slots.flatMap fun slot => slot.elim [] fun p => p.2.drop_ops

/-! ## The operations are the handlers -/

/-- What an operation does to the stack together with what it leaves to do. -/
def perform (t : TcpStack S) : Op S → TcpStack S
  | .wake i side => t.wake i side
  | .send e =>
    if t.operation_event.connected then t.send_event e
    else match wake_failed e with
      | some (tx, a) => t.answer tx a
      | none => t
  | op => t.apply op

/-- Dropping an event changes nothing of the stack. -/
theorem runs_drop_ops (t : TcpStack S) (e : OperationEvent) :
    Runs semantics t (drop_ops e) t := by
  cases e with
  | ready h => exact .nil t
  | shutdown h tx => exact .cons (.nil t)
  | close h => exact .nil t
  | read handle buffer tx => exact .cons (.cons (.nil t))
  | write handle buffer tx => exact .cons (.cons (.nil t))
  | recv handle buffer tx => exact .cons (.cons (.nil t))
  | send handle src buffer tx => exact .cons (.cons (.nil t))

/-- Dropping a waker leaves the stack as it is. -/
theorem runs_drop_waker_ops (t u : TcpStack S) (i : ℕ) (side : Side) :
    Runs semantics u (t.drop_waker_ops i side) u := by
  unfold drop_waker_ops
  cases t.waker i side with
  | none => exact .nil u
  | some e => exact runs_drop_ops u e

/-- The closure of a waker, called and run to its end. -/
theorem runs_send (t : TcpStack S) (e : OperationEvent) :
    Runs semantics t [.send e] (t.perform (.send e)) := by
  cases hc : t.operation_event.connected with
  | true =>
    have hn : t.next (.send e) = [] := by simp [next, hc]
    have hp : t.perform (.send e) = t.apply (.send e) := by simp [perform, apply, hc]
    rw [hp]
    exact .single hn
  | false =>
    have hs : t.send_event e = t := by simp [send_event, Channel.send, hc]
    refine .cons ?_
    have hn : semantics.next t (.send e) = send_failed_ops e := by simp [semantics, next, hc]
    have ha : semantics.apply t (.send e) = t := hs
    rw [hn, ha, List.append_nil]
    simp only [perform, hc, Bool.false_eq_true, if_false]
    cases e with
    | ready h => exact .nil t
    | shutdown h tx => exact .cons (.nil t)
    | close h => exact .nil t
    | read handle buffer tx => exact .cons (.cons (.cons (.nil _)))
    | write handle buffer tx => exact .cons (.cons (.cons (.nil _)))
    | recv handle buffer tx => exact .cons (.cons (.cons (.nil _)))
    | send handle src buffer tx => exact .cons (.cons (.cons (.nil _)))

/-- Waking a side is one operation. -/
theorem runs_wake (t : TcpStack S) (i : ℕ) (side : Side) :
    Runs semantics t [.wake i side] (t.wake i side) := by
  refine .cons ?_
  simp only [semantics, apply, next, List.append_nil]
  cases h : t.waker i side with
  | none =>
    rw [wake_of_none h]
    exact .nil t
  | some e =>
    rw [wake_of_some h]
    cases e with
    | shutdown h tx => exact .cons (.cons (.nil _))
    | ready h => exact runs_send _ _
    | read handle buffer tx => exact runs_send _ _
    | write handle buffer tx => exact runs_send _ _
    | recv handle buffer tx => exact runs_send _ _
    | send handle src buffer tx => exact runs_send _ _
    | close h => exact runs_send _ _

/-- Every operation, run to its end by itself, does what `perform` says. -/
theorem runs_perform (t : TcpStack S) (op : Op S) : Runs semantics t [op] (t.perform op) := by
  cases op with
  | wake i side => exact runs_wake t i side
  | send e => exact runs_send t e
  | register i side e =>
    refine .cons ?_
    simp only [semantics, next, List.append_nil]
    split
    · exact runs_drop_waker_ops t _ i side
    · exact runs_drop_ops _ e
  | remove i =>
    refine .cons ?_
    simp only [semantics, next, List.append_nil]
    exact (runs_drop_waker_ops t _ i .recv).append (runs_drop_waker_ops t _ i .send)
  | put i socket => exact .single rfl
  | fill buffer data => exact .single rfl
  | remove_handle h => exact .single rfl
  | remove_accepted dst => exact .single rfl
  | send_tcp_stream info => exact .single rfl
  | send_udp_stream info => exact .single rfl
  | advance now => exact .single rfl
  | answer tx a => exact .single rfl
  | release buffer => exact .single rfl
  | close tx => exact .single rfl
  | cast buffer => exact .single rfl

/-- The operations of `close` close the socket. -/
theorem perform_close_tcp_ops (t : TcpStack S) (i : ℕ) (c : S.Tcp) :
    (close_tcp_ops i c).foldl perform t = t.close_tcp i c := by
  unfold close_tcp_ops close_tcp
  dsimp only
  split <;> rfl

/-- `handle_shutdown_event` does what its operations do. -/
theorem shutdown_eq_perform (t : TcpStack S) (h : TypedSocketHandle) (tx : ResultTx) :
    t.handle_shutdown_event h tx =
      (t.handle_shutdown_event_ops h tx).map (List.foldl perform t) := by
  unfold handle_shutdown_event handle_shutdown_event_ops
  by_cases hc : t.contains h = true
  · rw [if_pos hc, if_pos hc]
    cases h with
    | tcp handle =>
      cases hg : t.get_tcp handle with
      | error panic => simp [hg, bind, Except.bind, Except.map]
      | ok c =>
        simp only [hg, bind, Except.bind, pure, Except.pure, Except.map, List.foldl_cons,
          perform_close_tcp_ops]
        rfl
    | udp handle => rfl
  · rw [if_neg hc, if_neg hc]
    rfl

/-- `remove_tcp_socket` on a socket that exists. -/
theorem remove_of_socket {t : TcpStack S} {handle : SocketHandle} {s : S.Socket}
    (h : t.socket_at handle.index = some s) :
    t.remove handle = .ok { t with socket_set := t.socket_set.remove handle.index } := by
  simp only [remove, h]

/-- `handle_close_event` does what its operations do. -/
theorem close_eq_perform (t : TcpStack S) (h : TypedSocketHandle) :
    t.handle_close_event h = (t.handle_close_event_ops h).map (List.foldl perform t) := by
  unfold handle_close_event handle_close_event_ops
  by_cases hc : t.contains h = true
  · rw [if_pos hc, if_pos hc]
    cases h with
    | tcp handle =>
      cases hg : t.get_tcp handle with
      | error panic => simp [hg, bind, Except.bind, Except.map]
      | ok c =>
        have hs : (t.close_tcp handle.index c).socket_at handle.index =
            some (.tcp (S.tcp.close c)) := by
          rw [(wakes_close_tcp t handle.index c).socket_at, socket_at_put, get_tcp_eq_ok.mp hg]
          simp
        cases ha : S.tcp.is_active (S.tcp.close c) with
        | true =>
          simp only [hg, ha, bind, Except.bind, pure, Except.pure, Except.map, List.foldl_append,
            perform_close_tcp_ops, Bool.not_true, Bool.false_eq_true, if_false]
          rfl
        | false =>
          simp only [hg, ha, bind, Except.bind, pure, Except.pure, Except.map, List.foldl_append,
            perform_close_tcp_ops, Bool.not_false, if_true, remove_tcp_socket, remove_of_socket hs]
          rfl
    | udp handle =>
      cases hg : t.get_udp handle with
      | error panic => simp [hg, bind, Except.bind, Except.map]
      | ok u =>
        have hs : (t.close_udp handle.index u).socket_at handle.index =
            some (.udp (S.udp.close u)) := by
          rw [(wakes_close_udp t handle.index u).socket_at, socket_at_put, get_udp_eq_ok.mp hg]
          simp
        cases hb : (S.udp.endpoint u).addr with
        | none =>
          simp only [hg, hb, bind, Except.bind]
          rfl
        | some ip =>
          simp only [hg, hb, bind, Except.bind, pure, Except.pure, remove_udp_socket,
            remove_of_socket hs]
          rfl
  · rw [if_neg hc, if_neg hc]
    rfl

/-- `handle_ready_wake_event` does what its operations do. -/
theorem ready_eq_perform (t : TcpStack S) (h : TypedSocketHandle) :
    t.handle_ready_wake_event h = (t.handle_ready_wake_event_ops h).map (List.foldl perform t) := by
  unfold handle_ready_wake_event handle_ready_wake_event_ops
  cases h with
  | tcp handle =>
    dsimp only
    cases hg : t.get_tcp handle with
    | error panic => rfl
    | ok c =>
      simp only [bind, Except.bind]
      cases hm : S.tcp.may_recv c with
      | false => rfl
      | true =>
        simp only [Bool.not_true, Bool.false_eq_true, if_false]
        cases S.tcp.remote_endpoint c with
        | none => rfl
        | some remote => cases S.tcp.local_endpoint c <;> rfl
  | udp handle =>
    dsimp only
    cases hg : t.get_udp handle with
    | error panic => rfl
    | ok u =>
      simp only [bind, Except.bind]
      cases (S.udp.endpoint u).addr <;> rfl

/-- `handle_tcp_wake_event` does what its operations do. -/
theorem tcp_wake_eq_perform (t : TcpStack S) (e : OperationEvent) :
    t.handle_tcp_wake_event e = (t.handle_tcp_wake_event_ops e).map (List.foldl perform t) := by
  cases e with
  | write handle buffer tx =>
    simp only [handle_tcp_wake_event, handle_tcp_wake_event_ops]
    split
    · rfl
    · cases hg : t.get_tcp handle with
      | error panic => rfl
      | ok c =>
        simp only [bind, Except.bind]
        split
        · split <;> rfl
        · cases (S.tcp.send_slice c (t.memory buffer).as_slice).2 <;> rfl
  | read handle buffer tx =>
    simp only [handle_tcp_wake_event, handle_tcp_wake_event_ops]
    split
    · rfl
    · cases hg : t.get_tcp handle with
      | error panic => rfl
      | ok c =>
        simp only [bind, Except.bind]
        split
        · split <;> rfl
        · cases (S.tcp.recv_slice c (t.memory buffer).capacity).2 with
          | error err => cases err <;> rfl
          | ok data => rfl
  | ready h => rfl
  | recv handle buffer tx => rfl
  | send handle src buffer tx => rfl
  | shutdown h tx => rfl
  | close h => rfl

/-- `handle_udp_wake_event` does what its operations do. -/
theorem udp_wake_eq_perform (t : TcpStack S) (e : OperationEvent) :
    t.handle_udp_wake_event e = (t.handle_udp_wake_event_ops e).map (List.foldl perform t) := by
  cases e with
  | send handle src buffer tx =>
    simp only [handle_udp_wake_event, handle_udp_wake_event_ops]
    split
    · rfl
    · cases hg : t.get_udp handle with
      | error panic => rfl
      | ok u =>
        simp only [bind, Except.bind]
        split
        · rfl
        · cases (S.udp.send_slice u (t.memory buffer).as_slice (.from src)).2 <;> rfl
  | recv handle buffer tx =>
    simp only [handle_udp_wake_event, handle_udp_wake_event_ops]
    split
    · rfl
    · cases hg : t.get_udp handle with
      | error panic => rfl
      | ok u =>
        simp only [bind, Except.bind]
        split
        · rfl
        · cases (S.udp.recv_slice u (t.memory buffer).capacity).2 <;> rfl
  | ready h => rfl
  | read handle buffer tx => rfl
  | write handle buffer tx => rfl
  | shutdown h tx => rfl
  | close h => rfl

/-- A handler is its operations, done without interruption. -/
theorem handle_eq_perform (t : TcpStack S) (e : OperationEvent) :
    t.handle e = (t.handle_ops e).map (List.foldl perform t) := by
  cases e with
  | ready h => exact ready_eq_perform t h
  | read handle buffer tx => exact tcp_wake_eq_perform t (.read handle buffer tx)
  | write handle buffer tx => exact tcp_wake_eq_perform t (.write handle buffer tx)
  | recv handle buffer tx => exact udp_wake_eq_perform t (.recv handle buffer tx)
  | send handle src buffer tx => exact udp_wake_eq_perform t (.send handle src buffer tx)
  | shutdown h tx => exact shutdown_eq_perform t h tx
  | close h => exact close_eq_perform t h

/-- The thread of a handler, run to its end by itself, does what the handler does. -/
theorem runs_handle {t t' : TcpStack S} {e : OperationEvent} (ok : t.handle e = .ok t') :
    ∃ ops, t.handle_ops e = .ok ops ∧ Runs semantics t ops t' := by
  rw [handle_eq_perform] at ok
  cases ops : t.handle_ops e with
  | error panic => rw [ops] at ok; cases ok
  | ok ops' =>
    rw [ops] at ok
    cases ok
    exact ⟨ops', rfl, Runs.foldl runs_perform t ops'⟩

/-- The poll is its operations, done without interruption. -/
theorem poll_eq_perform (t : TcpStack S) (now : ℕ) :
    t.poll now = (t.poll_ops now).foldl perform t := by
  rw [poll_ops, List.foldl_cons, List.foldl_map]
  rfl

/-- `drive_once` up to its events is the arrival of the packet and, without an error, the poll. -/
theorem begin_drive_eq_perform (t : TcpStack S) (packet : Option Packet) (now : ℕ) :
    t.begin_drive packet now = (t.arrive packet).bind fun r =>
      match r.2 with
      | .error err => .ok (r.1, .error err)
      | .ok () =>
        if r.1.poll_panics now then .error .smoltcp
        else .ok ((r.1.poll_ops now).foldl perform r.1, .ok ()) := by
  cases packet with
  | none => rw [begin_drive, try_poll, poll_eq_perform]; rfl
  | some packet =>
    unfold begin_drive arrive
    dsimp only
    split <;> rename_i h <;> rw [h]
    · rfl
    · rfl
    · rw [try_poll, poll_eq_perform]
      rfl

end TcpStack

end L3Extract
