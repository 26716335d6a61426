import L3Extract.Stack.State
import L3Extract.Wire

/-!
# The operations of the stack

The event handlers of `TcpStack`, its packet path, and `drive_once`, under their names in
`src/tcp_stack/mod.rs`.
-/

namespace L3Extract

variable {S : Smoltcp}

/-- Why `drive_once` returns an error. -/
inductive DriveError
  /-- `socket.listen(dst)?` -/
  | listen (err : ListenError)
  /-- "udp socket bind failed" -/
  | udp_bind (err : ListenError)
  /-- "send udp ready event failed" -/
  | udp_ready
  deriving DecidableEq, Repr

namespace TcpStack

/-! ## Removing sockets -/

/-- `self.socket_set.remove(handle)`. -/
def remove (t : TcpStack S) (handle : SocketHandle) : Except Panic (TcpStack S) :=
  match t.socket_at handle.index with
  | some _ => .ok { t with socket_set := t.socket_set.remove handle.index }
  | none => .error .empty_slot

/-- `remove_tcp_socket`. -/
def remove_tcp_socket (t : TcpStack S) (handle : SocketHandle) : Except Panic (TcpStack S) := do
  let t ← t.remove handle
  return { t with socket_handles := t.socket_handles.erase (TypedSocketHandle.tcp handle).key }

/-- `remove_udp_socket`. -/
def remove_udp_socket (t : TcpStack S) (handle : SocketHandle) (dst : SocketAddr) :
    Except Panic (TcpStack S) := do
  let t ← t.remove handle
  return { t with
    accepted_udp_sockets := t.accepted_udp_sockets.erase dst
    socket_handles := t.socket_handles.erase (TypedSocketHandle.udp handle).key }

/-! ## Event handlers -/

/-- `handle_shutdown_event`. -/
def handle_shutdown_event (t : TcpStack S) (typed_handle : TypedSocketHandle)
    (res_tx : ResultTx) : Except Panic (TcpStack S) := do
  if t.contains typed_handle then
    match typed_handle with
    | .tcp handle =>
      let socket ← t.get_tcp handle
      let t := t.register handle.index .send (.shutdown typed_handle res_tx)
      return t.close_tcp handle.index socket
    | .udp _ => throw .unreachable
  else
    return t.answer res_tx (.error (.message .other "unknown shutdown event"))

/-- `handle_close_event`. -/
def handle_close_event (t : TcpStack S) (typed_handle : TypedSocketHandle) :
    Except Panic (TcpStack S) := do
  if t.contains typed_handle then
    match typed_handle with
    | .tcp handle =>
      let socket ← t.get_tcp handle
      let t := t.close_tcp handle.index socket
      if !S.tcp.is_active (S.tcp.close socket) then
        t.remove_tcp_socket handle
      else
        return t.register handle.index .recv (.close typed_handle)
    | .udp handle =>
      let socket ← t.get_udp handle
      let endpoint := S.udp.endpoint socket
      match endpoint.addr with
      | none => throw .udp_not_bound
      | some ip =>
        let addr := SocketAddr.new ip endpoint.port
        let t := t.close_udp handle.index socket
        t.remove_udp_socket handle addr
  else
    return t

/-- `handle_ready_wake_event`. -/
def handle_ready_wake_event (t : TcpStack S) (typed_handle : TypedSocketHandle) :
    Except Panic (TcpStack S) := do
  match typed_handle with
  | .tcp handle =>
    let socket ← t.get_tcp handle
    if !S.tcp.may_recv socket then
      return t.register handle.index .recv (.ready typed_handle)
    else
      match S.tcp.remote_endpoint socket, S.tcp.local_endpoint socket with
      | none, _ => throw .no_local_addr
      | some _, none => throw .no_remote_addr
      | some local_addr, some remote_addr =>
        return { t with
          tcp_stream := t.tcp_stream.send
            ⟨handle, local_addr.socket_addr, remote_addr.socket_addr⟩ }
  | .udp handle =>
    let socket ← t.get_udp handle
    let endpoint := S.udp.endpoint socket
    match endpoint.addr with
    | none => throw .udp_not_bound
    | some ip =>
      let addr := SocketAddr.new ip endpoint.port
      return { t with udp_stream := t.udp_stream.send ⟨handle, addr⟩ }

/-- `handle_tcp_wake_event`. -/
def handle_tcp_wake_event (t : TcpStack S) (event : OperationEvent) :
    Except Panic (TcpStack S) := do
  match event with
  | .write handle buffer result_tx =>
    if !t.contains (.tcp handle) then
      return t.answer result_tx (.error (.simple .not_found))
    else
      let socket ← t.get_tcp handle
      if !S.tcp.can_send socket then
        if !S.tcp.may_send socket then
          return t.answer result_tx (.error (.message .broken_pipe
            ("TCP send failed, socket state: " ++ (S.tcp.state socket).display)))
        else
          return t.register handle.index .send event
      else
        let (socket, res) := S.tcp.send_slice socket (t.memory buffer).as_slice
        let t := t.put handle.index (.tcp socket)
        match res with
        | .error err => return t.answer result_tx (.error (.socket .other err))
        | .ok n => return t.answer result_tx (.ok (.len n))
  | .read handle buffer result_tx =>
    if !t.contains (.tcp handle) then
      return t.answer result_tx (.error (.simple .not_found))
    else
      let socket ← t.get_tcp handle
      if S.tcp.recv_queue socket = 0 then
        if !S.tcp.may_recv socket then
          return t.answer result_tx (.ok (.len 0))
        else
          return t.register handle.index .recv event
      else
        let (socket, res) := S.tcp.recv_slice socket (t.memory buffer).capacity
        let t := t.put handle.index (.tcp socket)
        match res with
        | .error .finished => return t.answer result_tx (.ok (.len 0))
        | .error err => return t.answer result_tx (.error (.socket .other err))
        | .ok data => return (t.fill buffer data).answer result_tx (.ok (.len data.length))
  | _ => throw .unreachable

/-- `handle_udp_wake_event`. -/
def handle_udp_wake_event (t : TcpStack S) (event : OperationEvent) :
    Except Panic (TcpStack S) := do
  match event with
  | .send handle src buffer result_tx =>
    if !t.contains (.udp handle) then
      return t.answer result_tx (.error (.simple .not_found))
    else
      let socket ← t.get_udp handle
      if !S.udp.can_send socket then
        return t.register handle.index .send event
      else
        let data := (t.memory buffer).as_slice
        let (socket, res) := S.udp.send_slice socket data (.from src)
        let t := t.put handle.index (.udp socket)
        match res with
        | .error err => return t.answer result_tx (.error (.socket .other err))
        | .ok () => return t.answer result_tx (.ok (.len data.length))
  | .recv handle buffer result_tx =>
    if !t.contains (.udp handle) then
      return t.answer result_tx (.error (.simple .not_found))
    else
      let socket ← t.get_udp handle
      if !S.udp.can_recv socket then
        return t.register handle.index .recv event
      else
        let (socket, res) := S.udp.recv_slice socket (t.memory buffer).capacity
        let t := t.put handle.index (.udp socket)
        match res with
        | .error err => return t.answer result_tx (.error (.socket .other err))
        | .ok (data, endpoint) =>
          return (t.fill buffer data).answer result_tx
            (.ok (.datagram data.length endpoint.socket_addr))
  | _ => throw .unreachable

/-- The handler of an event. -/
def handle (t : TcpStack S) (event : OperationEvent) : Except Panic (TcpStack S) :=
  match event with
  | .ready typed_handle => t.handle_ready_wake_event typed_handle
  | .shutdown typed_handle result_tx => t.handle_shutdown_event typed_handle result_tx
  | .close typed_handle => t.handle_close_event typed_handle
  | .read .. => t.handle_tcp_wake_event event
  | .write .. => t.handle_tcp_wake_event event
  | .recv .. => t.handle_udp_wake_event event
  | .send .. => t.handle_udp_wake_event event

/-- `handle_tcp_wake_events`. -/
def handle_tcp_wake_events (t : TcpStack S) (events : List OperationEvent) :
    Except Panic (TcpStack S) :=
  events.foldlM handle_tcp_wake_event t

/-- `handle_udp_wake_events`. -/
def handle_udp_wake_events (t : TcpStack S) (events : List OperationEvent) :
    Except Panic (TcpStack S) :=
  events.foldlM handle_udp_wake_event t

/-! ## The packet path -/

/-- `init_tcp`. -/
def init_tcp (t : TcpStack S) (dst : SocketAddr) : TcpStack S × Except DriveError Unit :=
  match S.tcp.listen (S.tcp.new t.tcp_socket_buf_size) (.from dst) with
  | .error err => (t, .error (.listen err))
  | .ok socket =>
    let handle := t.next_handle
    let t := t.add (.tcp socket)
    let t := { t with
      socket_handles := insert (TypedSocketHandle.tcp handle).key t.socket_handles }
    (t.register handle.index .send (.ready (.tcp handle)), .ok ())

/-- `SOCKET_BUF_SIZE` -/
def socket_buf_size : ℕ := 128 * 1024

/-- `try_init_udp`: whether a socket was added. -/
def try_init_udp (t : TcpStack S) (dst : SocketAddr) : TcpStack S × Except DriveError Bool :=
  if dst ∈ t.accepted_udp_sockets then (t, .ok false)
  else
    match S.udp.bind (S.udp.new socket_buf_size) (.from dst) with
    | .error err => (t, .error (.udp_bind err))
    | .ok socket =>
      let handle := t.next_handle
      let typed_handle := TypedSocketHandle.udp handle
      let t := t.add (.udp socket)
      let t := { t with
        socket_handles := insert typed_handle.key t.socket_handles
        accepted_udp_sockets := insert dst t.accepted_udp_sockets }
      if t.operation_event.connected then (t.send_event (.ready typed_handle), .ok true)
      else (t, .error .udp_ready)

/-- The packet path of `drive_once`, up to the poll. -/
def receive (t : TcpStack S) (packet : Packet) :
    Except Panic (TcpStack S × Except DriveError Unit) := do
  let (t, res) ← match ← parse_packet packet with
    | some (.tcp _ dst) => pure (t.init_tcp dst)
    | some (.udp _ dst) =>
      let (t, res) := t.try_init_udp dst
      pure (t, res.map fun _ => ())
    | none => pure (t, .ok ())
  match res with
  | .error err => return (t, .error err)
  | .ok () =>
    -- `push_receive_packet`
    let iface := t.virtual_iface
    return ({ t with virtual_iface := { iface with rx_queue := iface.rx_queue ++ [packet] } },
      .ok ())

/-- `self.interface.poll(..)`: the device's receive queue is used up. -/
def poll (t : TcpStack S) (now : ℕ) : TcpStack S :=
  let result := S.poll t.interface now t.virtual_iface.rx_queue t.sockets
  let t := { t with
    interface := result.interface
    virtual_iface := ⟨[], t.virtual_iface.tx_queue ++ result.sent⟩
    socket_set := t.socket_set.mapIdx fun i item =>
      item.put <| match item.socket with
        | .tcp c => .tcp (result.tcp i c)
        | .udp u => .udp (result.udp i u) }
  result.woken.foldl (fun t w => t.wake w.1 w.2) t

/-- `self.interface.poll(..)` panics. -/
def poll_panics (t : TcpStack S) (now : ℕ) : Bool :=
  S.poll_panics t.interface now t.virtual_iface.rx_queue t.sockets

/-- The call of `poll` in `drive_once`. -/
def try_poll (t : TcpStack S) (now : ℕ) : Except Panic (TcpStack S × Except DriveError Unit) :=
  if t.poll_panics now then .error .smoltcp else .ok (t.poll now, .ok ())

/-- The call returns what `poll` leaves. -/
theorem try_poll_eq_ok {t t' : TcpStack S} {now : ℕ} {res : Except DriveError Unit} :
    t.try_poll now = .ok (t', res) ↔
      t.poll_panics now = false ∧ t.poll now = t' ∧ .ok () = res := by
  unfold try_poll
  cases t.poll_panics now <;> simp

/-- `drive_once` up to its events: the packet, if there is one, and the poll. After an error the
function returns without polling. -/
def begin_drive (t : TcpStack S) (packet : Option Packet) (now : ℕ) :
    Except Panic (TcpStack S × Except DriveError Unit) :=
  match packet with
  | none => t.try_poll now
  | some packet =>
    match t.receive packet with
    | .error panic => .error panic
    | .ok (t, .error err) => .ok (t, .error err)
    | .ok (t, .ok ()) => t.try_poll now

/-! ## `drive_once` -/

/-- The loop of `drive_once` over a batch: it puts off the events for the two later passes, and
handles the others. -/
def scan_events (t : TcpStack S) (tcp_events udp_events : List OperationEvent) :
    List OperationEvent → Except Panic (TcpStack S × List OperationEvent × List OperationEvent)
  | [] => .ok (t, tcp_events, udp_events)
  | event :: events =>
    match event with
    | .read .. => scan_events t (tcp_events ++ [event]) udp_events events
    | .write .. => scan_events t (tcp_events ++ [event]) udp_events events
    | .recv .. => scan_events t tcp_events (udp_events ++ [event]) events
    | .send .. => scan_events t tcp_events (udp_events ++ [event]) events
    | .ready typed_handle => do
      let t ← t.handle_ready_wake_event typed_handle
      scan_events t tcp_events udp_events events
    | .shutdown typed_handle result_tx => do
      let t ← t.handle_shutdown_event typed_handle result_tx
      scan_events t tcp_events udp_events events
    | .close typed_handle => do
      let t ← t.handle_close_event typed_handle
      scan_events t tcp_events udp_events events

/-- The part of `drive_once` that handles a batch. -/
def handle_events (t : TcpStack S) (events : List OperationEvent) :
    Except Panic (TcpStack S) := do
  let (t, tcp_events, udp_events) ← t.scan_events [] [] events
  let t ← t.handle_tcp_wake_events tcp_events
  t.handle_udp_wake_events udp_events

/-- The caller takes the packets to be sent: `pop_all_send_packets`. -/
def pop_all_send_packets (t : TcpStack S) : TcpStack S :=
  { t with virtual_iface := { t.virtual_iface with tx_queue := [] } }

/-- `drive_once`: the packets to be sent and the delay until the next call, or an error. -/
def drive_once (t : TcpStack S) (packet : Option Packet) (now : ℕ)
    (events : Option (List OperationEvent)) :
    Except Panic (TcpStack S × Except DriveError (List Packet × Option ℕ)) := do
  match ← t.begin_drive packet now with
  | (t, .error err) => return (t, .error err)
  | (t, .ok ()) =>
    let t ← match events with
      | some events => t.handle_events events
      | none => pure t
    let sleep := S.poll_delay t.interface now t.sockets
    return (t.pop_all_send_packets, .ok (t.virtual_iface.tx_queue, sleep))

end TcpStack

end L3Extract
