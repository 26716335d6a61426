import L3Extract.Stack.Effects

/-!
# What handling an event does

`Outcome t e t'` lists what a handler can do with the event `e` in the stack `t`: it answers a
request, serves it, or parks it; it shuts a socket down, keeps closing it, or removes it; it
delivers a socket to an acceptor; or it disregards a Close. Each case has the condition under which
the handler takes it and the stack `t'` that it leaves. `handle_outcome` shows that the handlers do
nothing else, so that the rest of the development need not unfold them.
-/

namespace L3Extract

open OperationEvent

variable {S : Smoltcp}

namespace TcpStack

/-- A request is answered without a look at the socket's data. -/
inductive Refuses (t : TcpStack S) : OperationEvent → Answer → Prop
  | not_found {e : OperationEvent} {p : Protocol} (deferred : e.deferred = some p)
      (gone : t.contains e.handle = false) : Refuses t e (.error (.simple .not_found))
  | unknown_shutdown {h : TypedSocketHandle} {tx : ResultTx} (gone : t.contains h = false) :
      Refuses t (.shutdown h tx) (.error (.message .other "unknown shutdown event"))
  | broken_pipe {handle : SocketHandle} {buffer : BufferId} {tx : ResultTx} {c : S.Tcp}
      (found : t.contains (.tcp handle) = true) (socket : t.socket_at handle.index = some (.tcp c))
      (full : S.tcp.can_send c = false) (shut : S.tcp.may_send c = false) :
      Refuses t (.write handle buffer tx) (.error (.message .broken_pipe
        ("TCP send failed, socket state: " ++ (S.tcp.state c).display)))
  | eof {handle : SocketHandle} {buffer : BufferId} {tx : ResultTx} {c : S.Tcp}
      (found : t.contains (.tcp handle) = true) (socket : t.socket_at handle.index = some (.tcp c))
      (drained : S.tcp.recv_queue c = 0) (shut : S.tcp.may_recv c = false) :
      Refuses t (.read handle buffer tx) (.ok (.len 0))

/-- The buffers after a receive. -/
def filled {α : Type} (t : TcpStack S) (buffer : BufferId) (data : α → Bytes) :
    Except SocketError α → BufferId → IoBuf
  | .ok a => (t.fill buffer (data a)).memory
  | .error _ => t.memory

/-- The answer to a write that was handed to the socket. -/
def write_answer : Except SocketError ℕ → Answer
  | .error err => .error (.socket .other err)
  | .ok n => .ok (.len n)

/-- The answer to a read that was handed to the socket. -/
def read_answer : Except SocketError Bytes → Answer
  | .error .finished => .ok (.len 0)
  | .error err => .error (.socket .other err)
  | .ok data => .ok (.len data.length)

/-- The answer to a send of `data` that was handed to the socket. -/
def send_answer (data : Bytes) : Except SocketError Unit → Answer
  | .error err => .error (.socket .other err)
  | .ok () => .ok (.len data.length)

/-- The answer to a recv that was handed to the socket. -/
def recv_answer : Except SocketError (Bytes × IpEndpoint) → Answer
  | .error err => .error (.socket .other err)
  | .ok (data, endpoint) => .ok (.datagram data.length endpoint.socket_addr)

/-- A request is handed to its socket: what the socket was and becomes, what the buffers become,
and the answer. -/
inductive Serves (t : TcpStack S) :
    OperationEvent → S.Socket → S.Socket → (BufferId → IoBuf) → Answer → Prop
  | write {handle : SocketHandle} {buffer : BufferId} {tx : ResultTx} {c : S.Tcp}
      (can_send : S.tcp.can_send c = true) :
      Serves t (.write handle buffer tx) (.tcp c)
        (.tcp (S.tcp.send_slice c (t.memory buffer).as_slice).1) t.memory
        (write_answer (S.tcp.send_slice c (t.memory buffer).as_slice).2)
  | read {handle : SocketHandle} {buffer : BufferId} {tx : ResultTx} {c : S.Tcp}
      (queued : S.tcp.recv_queue c ≠ 0) :
      Serves t (.read handle buffer tx) (.tcp c)
        (.tcp (S.tcp.recv_slice c (t.memory buffer).capacity).1)
        (t.filled buffer id (S.tcp.recv_slice c (t.memory buffer).capacity).2)
        (read_answer (S.tcp.recv_slice c (t.memory buffer).capacity).2)
  | send {handle : SocketHandle} {src : SocketAddr} {buffer : BufferId} {tx : ResultTx}
      {u : S.Udp} (can_send : S.udp.can_send u = true) :
      Serves t (.send handle src buffer tx) (.udp u)
        (.udp (S.udp.send_slice u (t.memory buffer).as_slice (.from src)).1) t.memory
        (send_answer (t.memory buffer).as_slice
          (S.udp.send_slice u (t.memory buffer).as_slice (.from src)).2)
  | recv {handle : SocketHandle} {buffer : BufferId} {tx : ResultTx} {u : S.Udp}
      (can_recv : S.udp.can_recv u = true) :
      Serves t (.recv handle buffer tx) (.udp u)
        (.udp (S.udp.recv_slice u (t.memory buffer).capacity).1)
        (t.filled buffer Prod.fst (S.udp.recv_slice u (t.memory buffer).capacity).2)
        (recv_answer (S.udp.recv_slice u (t.memory buffer).capacity).2)

/-- An event has to wait, with its waker on the given side. -/
inductive Parks (t : TcpStack S) : OperationEvent → Side → Prop
  | ready {handle : SocketHandle} {c : S.Tcp} (socket : t.socket_at handle.index = some (.tcp c))
      (may_recv : S.tcp.may_recv c = false) : Parks t (.ready (.tcp handle)) .recv
  | read {handle : SocketHandle} {buffer : BufferId} {tx : ResultTx} {c : S.Tcp}
      (found : t.contains (.tcp handle) = true) (socket : t.socket_at handle.index = some (.tcp c))
      (drained : S.tcp.recv_queue c = 0) (may_recv : S.tcp.may_recv c = true) :
      Parks t (.read handle buffer tx) .recv
  | write {handle : SocketHandle} {buffer : BufferId} {tx : ResultTx} {c : S.Tcp}
      (found : t.contains (.tcp handle) = true) (socket : t.socket_at handle.index = some (.tcp c))
      (full : S.tcp.can_send c = false) (may_send : S.tcp.may_send c = true) :
      Parks t (.write handle buffer tx) .send
  | recv {handle : SocketHandle} {buffer : BufferId} {tx : ResultTx} {u : S.Udp}
      (found : t.contains (.udp handle) = true) (socket : t.socket_at handle.index = some (.udp u))
      (drained : S.udp.can_recv u = false) : Parks t (.recv handle buffer tx) .recv
  | send {handle : SocketHandle} {src : SocketAddr} {buffer : BufferId} {tx : ResultTx}
      {u : S.Udp} (found : t.contains (.udp handle) = true)
      (socket : t.socket_at handle.index = some (.udp u)) (full : S.udp.can_send u = false) :
      Parks t (.send handle src buffer tx) .send

/-- A Close removes its socket: what the socket is and becomes before it goes, and what
`accepted_udp_sockets` becomes. -/
inductive Closes (t : TcpStack S) :
    TypedSocketHandle → S.Socket → S.Socket → Finset SocketAddr → Prop
  | tcp {handle : SocketHandle} {c : S.Tcp}
      (inactive : S.tcp.is_active (S.tcp.close c) = false) :
      Closes t (.tcp handle) (.tcp c) (.tcp (S.tcp.close c)) t.accepted_udp_sockets
  | udp {handle : SocketHandle} {u : S.Udp} {ip : IpAddr}
      (bound : (S.udp.endpoint u).addr = some ip) :
      Closes t (.udp handle) (.udp u) (.udp (S.udp.close u))
        (t.accepted_udp_sockets.erase (.new ip (S.udp.endpoint u).port))

/-- What handling the event `e` does to the stack `t`. -/
inductive Outcome (t : TcpStack S) (e : OperationEvent) (t' : TcpStack S) : Prop
  /-- A request is answered at once. -/
  | answered (tx : ResultTx) (a : Answer) (result_tx : e.result_tx = some tx)
      (refuses : t.Refuses e a) (eq : t' = t.answer tx a)
  /-- A request is served and answered. -/
  | served (tx : ResultTx) (a : Answer) (s s' : S.Socket) (memory : BufferId → IoBuf)
      (result_tx : e.result_tx = some tx) (found : t.contains e.handle = true)
      (socket : t.socket_at e.index = some s) (serves : t.Serves e s s' memory a)
      (eq : t' = { (t.put e.index s').answer tx a with memory })
  /-- A request or a Ready is parked. -/
  | parked (side : Side) (parks : t.Parks e side) (eq : t' = t.register e.index side e)
  /-- A Shutdown is parked, and the socket's transmit half shut. -/
  | shutdown (handle : SocketHandle) (tx : ResultTx) (c : S.Tcp)
      (event : e = .shutdown (.tcp handle) tx) (found : t.contains (.tcp handle) = true)
      (socket : t.socket_at handle.index = some (.tcp c))
      (eq : t' = (t.register handle.index .send e).close_tcp handle.index c)
  /-- A Close shuts the transmit half, and is parked as the socket is still active. -/
  | closing (handle : SocketHandle) (c : S.Tcp) (event : e = .close (.tcp handle))
      (found : t.contains (.tcp handle) = true)
      (socket : t.socket_at handle.index = some (.tcp c))
      (active : S.tcp.is_active (S.tcp.close c) = true)
      (eq : t' = (t.close_tcp handle.index c).register handle.index .recv e)
  /-- A Close removes the socket, after the wakers ran. -/
  | removed (h : TypedSocketHandle) (s s' : S.Socket) (accepted : Finset SocketAddr)
      (u : TcpStack S) (event : e = .close h) (found : t.contains h = true)
      (socket : t.socket_at h.handle.index = some s) (closes : t.Closes h s s' accepted)
      (wakes : Wakes (t.put h.handle.index s') u)
      (others : ∀ j, j ≠ h.handle.index → u.socket_set.val j = t.socket_set.val j)
      (woken : WokenAt t h.handle.index u)
      (eq : t' = { u with
        socket_set := u.socket_set.remove h.handle.index
        socket_handles := u.socket_handles.erase h.key
        accepted_udp_sockets := accepted })
  /-- A Ready sends a TCP socket to the acceptor. -/
  | delivered_tcp (handle : SocketHandle) (c : S.Tcp) (remote local_ : IpEndpoint)
      (event : e = .ready (.tcp handle)) (socket : t.socket_at handle.index = some (.tcp c))
      (may_recv : S.tcp.may_recv c = true) (remote_endpoint : S.tcp.remote_endpoint c = some remote)
      (local_endpoint : S.tcp.local_endpoint c = some local_)
      (eq : t' = { t with
        tcp_stream := t.tcp_stream.send ⟨handle, remote.socket_addr, local_.socket_addr⟩ })
  /-- A Ready sends a UDP socket to the acceptor. -/
  | delivered_udp (handle : SocketHandle) (u : S.Udp) (ip : IpAddr)
      (event : e = .ready (.udp handle)) (socket : t.socket_at handle.index = some (.udp u))
      (bound : (S.udp.endpoint u).addr = some ip)
      (eq : t' = { t with
        udp_stream := t.udp_stream.send ⟨handle, .new ip (S.udp.endpoint u).port⟩ })
  /-- "unknown close event" -/
  | ignored (h : TypedSocketHandle) (event : e = .close h) (gone : t.contains h = false)
      (eq : t' = t)

/-! ## One handler after the other -/

/-- `remove` takes the socket out of its slot, if there is one. -/
theorem remove_eq_ok {t t' : TcpStack S} {handle : SocketHandle} :
    t.remove handle = .ok t' ↔ (t.socket_at handle.index).isSome ∧
      t' = { t with socket_set := t.socket_set.remove handle.index } := by
  unfold remove
  split <;> rename_i h <;> simp [h, eq_comm]

/-- What `handle_shutdown_event` does: it answers, or it parks the event and closes the socket. -/
inductive ShutdownCases (t : TcpStack S) (tx : ResultTx) :
    TypedSocketHandle → TcpStack S → Prop
  | unknown {h : TypedSocketHandle} (gone : t.contains h = false) : ShutdownCases t tx h
      (t.answer tx (.error (.message .other "unknown shutdown event")))
  | closed {handle : SocketHandle} {c : S.Tcp} (found : t.contains (.tcp handle) = true)
      (socket : t.socket_at handle.index = some (.tcp c)) : ShutdownCases t tx (.tcp handle)
      ((t.register handle.index .send (.shutdown (.tcp handle) tx)).close_tcp handle.index c)

/-- `handle_shutdown_event` comes to one of these ends. -/
theorem shutdown_cases {t t' : TcpStack S} {h : TypedSocketHandle} {tx : ResultTx}
    (ok : t.handle_shutdown_event h tx = .ok t') : ShutdownCases t tx h t' := by
  unfold handle_shutdown_event at ok
  by_cases hc : t.contains h = true
  · rw [if_pos hc] at ok
    cases h with
    | tcp handle =>
      obtain ⟨c, hget, hok⟩ := except_bind_eq_ok.mp ok
      cases hok
      exact .closed hc (get_tcp_eq_ok.mp hget)
    | udp handle => cases ok
  · rw [if_neg hc] at ok
    cases ok
    exact .unknown (by simpa using hc)

/-- What handling a Shutdown comes to. -/
theorem shutdown_outcome {t t' : TcpStack S} {h : TypedSocketHandle} {tx : ResultTx}
    (ok : t.handle_shutdown_event h tx = .ok t') : Outcome t (.shutdown h tx) t' := by
  cases shutdown_cases ok with
  | unknown gone => exact .answered tx _ rfl (.unknown_shutdown gone) rfl
  | closed found socket => exact .shutdown _ tx _ rfl found socket rfl

/-- What `handle_close_event` does: nothing for a handle that is not in the table; for a TCP socket,
it closes it, and removes it or parks the event; for a UDP socket, it closes and removes it. -/
inductive CloseCases (t : TcpStack S) : TypedSocketHandle → TcpStack S → Prop
  | unknown {h : TypedSocketHandle} (gone : t.contains h = false) : CloseCases t h t
  | active {handle : SocketHandle} {c : S.Tcp} (found : t.contains (.tcp handle) = true)
      (socket : t.socket_at handle.index = some (.tcp c))
      (active : S.tcp.is_active (S.tcp.close c) = true) : CloseCases t (.tcp handle)
      ((t.close_tcp handle.index c).register handle.index .recv (.close (.tcp handle)))
  | inactive {handle : SocketHandle} {c : S.Tcp} (found : t.contains (.tcp handle) = true)
      (socket : t.socket_at handle.index = some (.tcp c))
      (inactive : S.tcp.is_active (S.tcp.close c) = false) : CloseCases t (.tcp handle)
      { t.close_tcp handle.index c with
        socket_set := (t.close_tcp handle.index c).socket_set.remove handle.index
        socket_handles := (t.close_tcp handle.index c).socket_handles.erase
          (TypedSocketHandle.tcp handle).key }
  | udp {handle : SocketHandle} {u : S.Udp} {ip : IpAddr} (found : t.contains (.udp handle) = true)
      (socket : t.socket_at handle.index = some (.udp u))
      (bound : (S.udp.endpoint u).addr = some ip) :
      CloseCases t (.udp handle)
      { t.close_udp handle.index u with
        socket_set := (t.close_udp handle.index u).socket_set.remove handle.index
        accepted_udp_sockets := (t.close_udp handle.index u).accepted_udp_sockets.erase
          (.new ip (S.udp.endpoint u).port)
        socket_handles := (t.close_udp handle.index u).socket_handles.erase
          (TypedSocketHandle.udp handle).key }

/-- `handle_close_event` comes to one of these ends. -/
theorem close_cases {t t' : TcpStack S} {h : TypedSocketHandle}
    (ok : t.handle_close_event h = .ok t') : CloseCases t h t' := by
  unfold handle_close_event at ok
  by_cases hc : t.contains h = true
  · rw [if_pos hc] at ok
    cases h with
    | tcp handle =>
      obtain ⟨c, hget, hok⟩ := except_bind_eq_ok.mp ok
      have hs := get_tcp_eq_ok.mp hget
      by_cases ha : S.tcp.is_active (S.tcp.close c) = true
      · simp only [ha, Bool.not_true, Bool.false_eq_true, if_false] at hok
        cases hok
        exact .active hc hs ha
      · simp only [ha, Bool.not_false, if_true] at hok
        obtain ⟨u, hu, hok⟩ := except_bind_eq_ok.mp hok
        obtain ⟨-, rfl⟩ := remove_eq_ok.mp hu
        cases hok
        exact .inactive hc hs (by simpa using ha)
    | udp handle =>
      obtain ⟨u, hget, hok⟩ := except_bind_eq_ok.mp ok
      cases hb : (S.udp.endpoint u).addr with
      | none => simp only [hb] at hok; cases hok
      | some ip =>
        simp only [hb] at hok
        obtain ⟨v, hv, hok⟩ := except_bind_eq_ok.mp hok
        obtain ⟨-, rfl⟩ := remove_eq_ok.mp hv
        cases hok
        exact .udp hc (get_udp_eq_ok.mp hget) hb
  · rw [if_neg hc] at ok
    cases ok
    exact .unknown (by simpa using hc)

/-- What handling a Close comes to. -/
theorem close_outcome {t t' : TcpStack S} {h : TypedSocketHandle}
    (ok : t.handle_close_event h = .ok t') : Outcome t (.close h) t' := by
  cases close_cases ok with
  | unknown gone => exact .ignored h rfl gone rfl
  | active found socket active => exact .closing _ _ rfl found socket active rfl
  | @inactive handle c found socket inactive =>
    have hw := wakes_close_tcp t handle.index c
    have hacc : (t.close_tcp handle.index c).accepted_udp_sockets = t.accepted_udp_sockets :=
      hw.same.accepted_udp_sockets
    refine .removed _ _ _ _ _ rfl found socket (.tcp inactive) hw
      (fun j hj => val_close_tcp_of_ne t hj c) (woken_close_tcp t _ c) ?_
    rw [← hacc]
    rfl
  | @udp handle u ip found socket bound =>
    have hw := wakes_close_udp t handle.index u
    have hacc : (t.close_udp handle.index u).accepted_udp_sockets = t.accepted_udp_sockets :=
      hw.same.accepted_udp_sockets
    refine .removed _ _ _ _ _ rfl found socket (.udp bound) hw
      (fun j hj => val_close_udp_of_ne t hj u) (woken_close_udp t _ u) ?_
    rw [← hacc]
    rfl

/-- What handling a Ready comes to. -/
theorem ready_outcome {t t' : TcpStack S} {h : TypedSocketHandle}
    (ok : t.handle_ready_wake_event h = .ok t') : Outcome t (.ready h) t' := by
  unfold handle_ready_wake_event at ok
  cases h with
  | tcp handle =>
    obtain ⟨c, hget, hok⟩ := except_bind_eq_ok.mp ok
    have hs := get_tcp_eq_ok.mp hget
    cases hm : S.tcp.may_recv c with
    | false =>
      simp only [hm, Bool.not_false, if_true] at hok
      cases hok
      exact .parked .recv (.ready hs hm) rfl
    | true =>
      simp only [hm, Bool.not_true, Bool.false_eq_true, if_false] at hok
      cases hr : S.tcp.remote_endpoint c with
      | none => simp only [hr] at hok; cases hok
      | some remote =>
        cases hl : S.tcp.local_endpoint c with
        | none => simp only [hr, hl] at hok; cases hok
        | some local_ =>
          simp only [hr, hl] at hok
          cases hok
          exact .delivered_tcp handle c remote local_ rfl hs hm hr hl rfl
  | udp handle =>
    obtain ⟨u, hget, hok⟩ := except_bind_eq_ok.mp ok
    have hs := get_udp_eq_ok.mp hget
    cases hb : (S.udp.endpoint u).addr with
    | none => simp only [hb] at hok; cases hok
    | some ip =>
      simp only [hb] at hok
      cases hok
      exact .delivered_udp handle u ip rfl hs hb rfl

/-- A request whose handle is not in the table is answered "not found"; for the others the handler
goes on with what it finds in the slot. -/
theorem request_outcome {α : Type} {t t' : TcpStack S} {e : OperationEvent} {p : Protocol}
    {tx : ResultTx} {get : Except Panic α} {serve : α → Except Panic (TcpStack S)}
    (deferred : e.deferred = some p) (result_tx : e.result_tx = some tx)
    (ok : (if (!t.contains e.handle) = true then
      pure (t.answer tx (.error (.simple .not_found))) else get >>= serve) = .ok t')
    (go_on : ∀ a, t.contains e.handle = true → get = .ok a → serve a = .ok t' → Outcome t e t') :
    Outcome t e t' := by
  cases hc : t.contains e.handle with
  | true =>
    rw [hc] at ok
    obtain ⟨a, hget, hok⟩ := except_bind_eq_ok.mp ok
    exact go_on a hc hget hok
  | false =>
    rw [hc] at ok
    cases ok
    exact .answered tx _ result_tx (.not_found deferred hc) rfl

/-- What handling a Write comes to. -/
theorem write_outcome {t t' : TcpStack S} {handle : SocketHandle} {buffer : BufferId}
    {tx : ResultTx} (ok : t.handle_tcp_wake_event (.write handle buffer tx) = .ok t') :
    Outcome t (.write handle buffer tx) t' := by
  simp only [handle_tcp_wake_event] at ok
  refine request_outcome rfl rfl ok fun c hc hget hok => ?_
  have hs := get_tcp_eq_ok.mp hget
  cases hcan : S.tcp.can_send c with
  | false =>
    simp only [hcan, Bool.not_false, if_true] at hok
    cases hmay : S.tcp.may_send c with
    | false =>
      simp only [hmay, Bool.not_false, if_true] at hok
      cases hok
      exact .answered tx _ rfl (.broken_pipe hc hs hcan hmay) rfl
    | true =>
      simp only [hmay, Bool.not_true, Bool.false_eq_true, if_false] at hok
      cases hok
      exact .parked .send (.write hc hs hcan hmay) rfl
  | true =>
    simp only [hcan, Bool.not_true, Bool.false_eq_true, if_false] at hok
    have served := @Outcome.served S t (.write handle buffer tx) t' tx _ _ _ _ rfl
      hc hs (.write hcan)
    cases hres : (S.tcp.send_slice c (t.memory buffer).as_slice).2 with
    | error err =>
      simp only [hres] at hok served
      cases hok
      exact served rfl
    | ok n =>
      simp only [hres] at hok served
      cases hok
      exact served rfl

/-- What handling a Read comes to. -/
theorem read_outcome {t t' : TcpStack S} {handle : SocketHandle} {buffer : BufferId}
    {tx : ResultTx} (ok : t.handle_tcp_wake_event (.read handle buffer tx) = .ok t') :
    Outcome t (.read handle buffer tx) t' := by
  simp only [handle_tcp_wake_event] at ok
  refine request_outcome rfl rfl ok fun c hc hget hok => ?_
  have hs := get_tcp_eq_ok.mp hget
  by_cases hq : S.tcp.recv_queue c = 0
  · rw [if_pos hq] at hok
    cases hmay : S.tcp.may_recv c with
    | false =>
      simp only [hmay, Bool.not_false, if_true] at hok
      cases hok
      exact .answered tx _ rfl (.eof hc hs hq hmay) rfl
    | true =>
      simp only [hmay, Bool.not_true, Bool.false_eq_true, if_false] at hok
      cases hok
      exact .parked .recv (.read hc hs hq hmay) rfl
  · rw [if_neg hq] at hok
    have served := @Outcome.served S t (.read handle buffer tx) t' tx _ _ _ _ rfl
      hc hs (.read hq)
    cases hres : (S.tcp.recv_slice c (t.memory buffer).capacity).2 with
    | error err =>
      simp only [hres] at hok served
      cases err <;> cases hok <;> exact served rfl
    | ok data =>
      simp only [hres] at hok served
      cases hok
      exact served rfl

/-- What handling a Send comes to. -/
theorem send_outcome {t t' : TcpStack S} {handle : SocketHandle} {src : SocketAddr}
    {buffer : BufferId} {tx : ResultTx}
    (ok : t.handle_udp_wake_event (.send handle src buffer tx) = .ok t') :
    Outcome t (.send handle src buffer tx) t' := by
  simp only [handle_udp_wake_event] at ok
  refine request_outcome rfl rfl ok fun u hc hget hok => ?_
  have hs := get_udp_eq_ok.mp hget
  cases hcan : S.udp.can_send u with
  | false =>
    simp only [hcan, Bool.not_false, if_true] at hok
    cases hok
    exact .parked .send (.send hc hs hcan) rfl
  | true =>
    simp only [hcan, Bool.not_true, Bool.false_eq_true, if_false] at hok
    have served := @Outcome.served S t (.send handle src buffer tx) t' tx _ _ _ _ rfl
      hc hs (.send hcan)
    cases hres : (S.udp.send_slice u (t.memory buffer).as_slice (.from src)).2 with
    | error err =>
      simp only [hres] at hok served
      cases hok
      exact served rfl
    | ok n =>
      simp only [hres] at hok served
      cases hok
      exact served rfl

/-- What handling a Recv comes to. -/
theorem recv_outcome {t t' : TcpStack S} {handle : SocketHandle} {buffer : BufferId}
    {tx : ResultTx} (ok : t.handle_udp_wake_event (.recv handle buffer tx) = .ok t') :
    Outcome t (.recv handle buffer tx) t' := by
  simp only [handle_udp_wake_event] at ok
  refine request_outcome rfl rfl ok fun u hc hget hok => ?_
  have hs := get_udp_eq_ok.mp hget
  cases hcan : S.udp.can_recv u with
  | false =>
    simp only [hcan, Bool.not_false, if_true] at hok
    cases hok
    exact .parked .recv (.recv hc hs hcan) rfl
  | true =>
    simp only [hcan, Bool.not_true, Bool.false_eq_true, if_false] at hok
    have served := @Outcome.served S t (.recv handle buffer tx) t' tx _ _ _ _ rfl
      hc hs (.recv hcan)
    cases hres : (S.udp.recv_slice u (t.memory buffer).capacity).2 with
    | error err =>
      simp only [hres] at hok served
      cases hok
      exact served rfl
    | ok data =>
      simp only [hres] at hok served
      cases hok
      exact served rfl

/-- The handlers do nothing but what `Outcome` lists. -/
theorem handle_outcome {t t' : TcpStack S} {e : OperationEvent} (ok : t.handle e = .ok t') :
    Outcome t e t' := by
  cases e with
  | ready h => exact ready_outcome ok
  | read handle buffer tx => exact read_outcome ok
  | write handle buffer tx => exact write_outcome ok
  | recv handle buffer tx => exact recv_outcome ok
  | send handle src buffer tx => exact send_outcome ok
  | shutdown h tx => exact shutdown_outcome ok
  | close h => exact close_outcome ok

/-- Handling an event leaves the sockets in all slots but its own as they are. -/
theorem Outcome.val_of_ne {t t' : TcpStack S} {e : OperationEvent} (outcome : Outcome t e t')
    {j : ℕ} (hj : j ≠ e.index) : t'.socket_set.val j = t.socket_set.val j := by
  cases outcome with
  | answered tx a result_tx refuses eq =>
    rw [eq]
    rfl
  | served tx a s s' memory result_tx found socket serves eq =>
    rw [eq]
    exact val_put_of_ne t hj s'
  | parked side parks eq =>
    rw [eq]
    exact val_register_of_ne t hj side e
  | shutdown handle tx c event found socket eq =>
    subst event
    have hi : j ≠ handle.index := hj
    rw [eq, val_close_tcp_of_ne _ hi, val_register_of_ne t hi]
  | closing handle c event found socket active eq =>
    subst event
    have hi : j ≠ handle.index := hj
    rw [eq, val_register_of_ne _ hi, val_close_tcp_of_ne t hi]
  | removed h s s' accepted u event found socket closes wakes others woken eq =>
    subst event
    rw [eq]
    exact (Arena.val_remove _ _ _).trans ((if_neg hj).trans (others j hj))
  | delivered_tcp handle c remote local_ event socket may_recv remote_eq local_eq eq =>
    rw [eq]
  | delivered_udp handle u ip event socket bound eq =>
    rw [eq]
  | ignored h event gone eq =>
    rw [eq]

end TcpStack

end L3Extract
