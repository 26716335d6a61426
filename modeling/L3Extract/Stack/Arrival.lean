import L3Extract.Stack.Effects

/-!
# What a packet does

`Begins t packet now t' res` lists what `drive_once` does before it comes to its events: the packet
opens a socket or does not, and the interface is polled; or opening a socket fails and the call
returns an error. `begin_drive_cases` shows that these are all cases.

Polling is split in two. `advance` gives the sockets the values that the interface leaves them with,
and then wakers run, so that the lemmas about `Wakes` apply.
-/

namespace L3Extract

open OperationEvent

variable {S : Smoltcp}

namespace TcpStack

/-! ## Adding a socket -/

/-- `t'` has one socket more than `t`: the socket `s`, in the first free slot, with the handle `h`.
The events in `new` are pending in addition, and `accepted` is `accepted_udp_sockets`. -/
structure Adds (t : TcpStack S) (h : TypedSocketHandle) (s : S.Socket)
    (new : Multiset OperationEvent) (accepted : Finset SocketAddr) (t' : TcpStack S) : Prop where
  handle : h.handle = t.next_handle
  protocol : s.protocol = h.protocol
  gen : ∀ i, t'.socket_set.gen i =
    if i = h.handle.index then some h.handle.incarnation else t.socket_set.gen i
  next : t'.socket_set.next = t.socket_set.next + 1
  socket_at : ∀ i, t'.socket_at i = if i = h.handle.index then some s else t.socket_at i
  waker_recv : t'.waker h.handle.index .recv = none
  waker_send : ∀ e, t'.waker h.handle.index .send = some e → e = .ready h
  waker : ∀ i side, i ≠ h.handle.index → t'.waker i side = t.waker i side
  socket_handles : t'.socket_handles = insert h.key t.socket_handles
  accepted_udp_sockets : t'.accepted_udp_sockets = accepted
  pending : t'.pending = new + t.pending
  requests : t'.requests = t.requests
  connected : t'.operation_event.connected = t.operation_event.connected
  channel : ∃ new, t'.operation_event = t.operation_event.extend new
  tcp_stream : t'.tcp_stream = t.tcp_stream
  udp_stream : t'.udp_stream = t.udp_stream
  interface : t'.interface = t.interface
  virtual_iface : t'.virtual_iface = t.virtual_iface
  answers : t'.answers = t.answers
  memory : t'.memory = t.memory

/-- A socket that is added is in the free slot. -/
theorem socket_at_add (t : TcpStack S) (s : S.Socket) (i : ℕ) :
    (t.add s).socket_at i = if i = t.socket_set.free then some s else t.socket_at i := by
  simp only [socket_at, add, Arena.val_add]
  split_ifs <;> rfl

/-- A socket that is added has no wakers. -/
theorem waker_add (t : TcpStack S) (s : S.Socket) (i : ℕ) (side : Side) :
    (t.add s).waker i side = if i = t.socket_set.free then none else t.waker i side := by
  simp only [waker, add, Arena.val_add]
  split_ifs <;> rfl

/-- Adding a socket leaves what is pending. -/
theorem pending_add (t : TcpStack S) (s : S.Socket) : (t.add s).pending = t.pending := by
  have hp : (t.add s).parked = (Item.new s).parked + t.parked := Arena.sum_add Item.parked _ _
  have hn : (Item.new s).parked = 0 := rfl
  simp only [pending, hp, hn, zero_add]
  rfl

/-- The new slot is empty before. -/
theorem Adds.socket_free {t t' : TcpStack S} {h : TypedSocketHandle} {s : S.Socket}
    {new : Multiset OperationEvent} {accepted : Finset SocketAddr}
    (adds : Adds t h s new accepted t') : t.socket_at h.handle.index = none := by
  have hv : t.socket_set.val t.next_handle.index = none := t.socket_set.val_free
  rw [adds.handle, TcpStack.socket_at, hv]
  rfl

/-- The kind of the slots after a socket was added. -/
theorem Adds.kind {t t' : TcpStack S} {h : TypedSocketHandle} {s : S.Socket}
    {new : Multiset OperationEvent} {accepted : Finset SocketAddr}
    (adds : Adds t h s new accepted t') (i : ℕ) :
    t'.kind_at i = if i = h.handle.index then some h.protocol else t.kind_at i := by
  rw [kind_at, kind_at, adds.socket_at, ← adds.protocol]
  split_ifs <;> rfl

/-- The packet is one that opens a socket `s`, which gets the handle `h`. -/
inductive Opens (t : TcpStack S) (packet : Packet) :
    TypedSocketHandle → S.Socket → Finset SocketAddr → Prop
  | tcp {src dst : SocketAddr} {c : S.Tcp}
      (parsed : parse_packet packet = .ok (some (.tcp src dst)))
      (listens : S.tcp.listen (S.tcp.new t.tcp_socket_buf_size) (.from dst) = .ok c) :
      Opens t packet (.tcp t.next_handle) (.tcp c) t.accepted_udp_sockets
  | udp {src dst : SocketAddr} {u : S.Udp}
      (parsed : parse_packet packet = .ok (some (.udp src dst)))
      (fresh : dst ∉ t.accepted_udp_sockets)
      (binds : S.udp.bind (S.udp.new socket_buf_size) (.from dst) = .ok u) :
      Opens t packet (.udp t.next_handle) (.udp u) (insert dst t.accepted_udp_sockets)

/-- The packet is one that should open a socket, and the socket refuses. -/
inductive Fails (t : TcpStack S) (packet : Packet) : DriveError → Prop
  | listen {src dst : SocketAddr} {err : ListenError}
      (parsed : parse_packet packet = .ok (some (.tcp src dst)))
      (refuses : S.tcp.listen (S.tcp.new t.tcp_socket_buf_size) (.from dst) = .error err) :
      Fails t packet (.listen err)
  | bind {src dst : SocketAddr} {err : ListenError}
      (parsed : parse_packet packet = .ok (some (.udp src dst)))
      (fresh : dst ∉ t.accepted_udp_sockets)
      (refuses : S.udp.bind (S.udp.new socket_buf_size) (.from dst) = .error err) :
      Fails t packet (.udp_bind err)

/-- The socket `s` goes into the socket set and its handle `h` into the tables. -/
def enroll (t : TcpStack S) (h : TypedSocketHandle) (s : S.Socket)
    (accepted : Finset SocketAddr) : TcpStack S :=
  { t.add s with
    socket_handles := insert h.key t.socket_handles
    accepted_udp_sockets := accepted }

/-- A socket that is added and entered into the table is one more. -/
theorem adds_enroll {t : TcpStack S} {h : TypedSocketHandle} {s : S.Socket}
    (handle : h.handle = t.next_handle) (protocol : s.protocol = h.protocol)
    (accepted : Finset SocketAddr) : Adds t h s 0 accepted (t.enroll h s accepted) where
  handle := handle
  protocol := protocol
  gen i := by
    rw [handle]
    exact Arena.gen_add _ _ _
  next := rfl
  socket_at i := by
    rw [handle]
    exact socket_at_add t s i
  waker_recv := by
    rw [handle]
    exact (waker_add t s _ _).trans (if_pos rfl)
  waker_send e he := by
    have hn : (t.enroll h s accepted).waker t.next_handle.index .send = none :=
      (waker_add t s _ _).trans (if_pos rfl)
    rw [handle, hn] at he
    cases he
  waker i side hi := by
    rw [handle] at hi
    exact (waker_add t s i side).trans (if_neg hi)
  socket_handles := rfl
  accepted_udp_sockets := rfl
  pending := by
    rw [zero_add]
    exact pending_add t s
  requests := congrArg (fun p => Multiset.filterMap result_tx p + _) (pending_add t s)
  connected := rfl
  channel := ⟨[], (Channel.extend_nil _).symm⟩
  tcp_stream := rfl
  udp_stream := rfl
  interface := rfl
  virtual_iface := rfl
  answers := rfl
  memory := rfl

/-- The account of requests goes by the pending events. -/
theorem requests_of_pending {t t' : TcpStack S} {h : TypedSocketHandle}
    (pending : t'.pending = {.ready h} + t.pending) (answers : t'.answers = t.answers) :
    t'.requests = t.requests := by
  rw [requests, requests, pending, answers, Multiset.filterMap_add, filterMap_singleton]
  simp [result_tx]

/-- The new socket's Ready is parked with its send waker. -/
theorem Adds.register_ready {t u : TcpStack S} {h : TypedSocketHandle} {s : S.Socket}
    {accepted : Finset SocketAddr} (adds : Adds t h s 0 accepted u)
    (waker : u.waker h.handle.index .send = none) :
    Adds t h s {.ready h} accepted (u.register h.handle.index .send (.ready h)) := by
  have pending : (u.register h.handle.index .send (.ready h)).pending =
      {.ready h} + t.pending := by
    have hs : (u.socket_at h.handle.index).isSome := by simp [adds.socket_at]
    have := pending_register hs .send (.ready h)
    rwa [waker, adds.pending, Option.toList_none, Multiset.coe_nil, add_zero, zero_add] at this
  exact {
    adds with
    gen := fun i => by rw [(same_register u _ _ _).gen, adds.gen]
    socket_at := fun i => by rw [socket_at_register, adds.socket_at]
    waker_recv := by
      rw [waker_register, if_neg (by simp), adds.waker_recv]
    waker_send := fun e he => by
      rw [waker_register, if_pos ⟨rfl, rfl, by simp [adds.socket_at]⟩] at he
      exact (Option.some.inj he).symm
    waker := fun i side hi => by
      rw [waker_register, if_neg fun h => hi h.1, adds.waker i side hi]
    pending := pending
    requests := requests_of_pending pending adds.answers }

/-- The new socket's Ready is put into the event channel. -/
theorem Adds.send_ready {t u : TcpStack S} {h : TypedSocketHandle} {s : S.Socket}
    {accepted : Finset SocketAddr} (adds : Adds t h s 0 accepted u)
    (connected : u.operation_event.connected = true) :
    Adds t h s {.ready h} accepted (u.send_event (.ready h)) := by
  have channel : (u.send_event (.ready h)).operation_event =
      u.operation_event.extend [.ready h] := by
    simp [send_event, Channel.send_eq_extend, connected]
  have pending : (u.send_event (.ready h)).pending = {.ready h} + t.pending := by
    have hp := adds.pending
    simp only [TcpStack.pending] at hp ⊢
    have hparked : (u.send_event (.ready h)).parked = u.parked := rfl
    rw [channel, Channel.extend, ← Multiset.coe_add, hparked, Multiset.coe_singleton]
    calc ↑u.operation_event.queue + {ready h} + u.parked
        = {ready h} + (↑u.operation_event.queue + u.parked) := by abel
      _ = _ := by rw [hp, zero_add]
  obtain ⟨sent, hsent⟩ := adds.channel
  exact {
    adds with
    pending := pending
    requests := requests_of_pending pending adds.answers
    connected := by
      rw [← adds.connected]
      exact Channel.connected_send _ _
    channel := ⟨sent ++ [.ready h], by rw [channel, hsent, Channel.extend_append]⟩ }

/-! ## The packet path -/

/-- The packet goes to the device's receive queue. -/
def push (t : TcpStack S) (packet : Option Packet) : TcpStack S :=
  { t with virtual_iface := { t.virtual_iface with
      rx_queue := t.virtual_iface.rx_queue ++ packet.toList } }

/-- What `drive_once` does before it comes to its events. -/
inductive Begins (t : TcpStack S) (packet : Option Packet) (now : ℕ) :
    TcpStack S → Except DriveError Unit → Prop
  /-- A socket refuses to be opened. -/
  | failed {p : Packet} {err : DriveError} (arrived : packet = some p) (fails : t.Fails p err) :
      Begins t packet now t (.error err)
  /-- A UDP socket is opened, but its Ready cannot be sent. -/
  | unready {p : Packet} {h : TypedSocketHandle} {s : S.Socket} {accepted : Finset SocketAddr}
      {u : TcpStack S} (arrived : packet = some p) (opens : t.Opens p h s accepted)
      (adds : Adds t h s 0 accepted u) (disconnected : t.operation_event.connected = false)
      (protocol : h.protocol = .udp) :
      Begins t packet now u (.error .udp_ready)
  /-- There is no packet, or one that opens no socket. -/
  | polled (quiet : ∀ p, packet = some p → ∀ src dst,
        parse_packet p = .ok (some (.tcp src dst)) → False) :
      Begins t packet now ((t.push packet).poll now) (.ok ())
  /-- A socket is opened before the poll. -/
  | opened {p : Packet} {h : TypedSocketHandle} {s : S.Socket} {accepted : Finset SocketAddr}
      {u : TcpStack S} (arrived : packet = some p) (opens : t.Opens p h s accepted)
      (adds : Adds t h s {.ready h} accepted u) :
      Begins t packet now ((u.push packet).poll now) (.ok ())

/-- What `init_tcp` does. -/
theorem init_tcp_cases (t : TcpStack S) (dst : SocketAddr) :
    (∃ err, S.tcp.listen (S.tcp.new t.tcp_socket_buf_size) (.from dst) = .error err ∧
      t.init_tcp dst = (t, .error (.listen err))) ∨
    ∃ c u, S.tcp.listen (S.tcp.new t.tcp_socket_buf_size) (.from dst) = .ok c ∧
      t.init_tcp dst = (u, .ok ()) ∧ Adds t (.tcp t.next_handle) (.tcp c)
        {.ready (.tcp t.next_handle)} t.accepted_udp_sockets u := by
  cases hl : S.tcp.listen (S.tcp.new t.tcp_socket_buf_size) (.from dst) with
  | error err => exact .inl ⟨err, rfl, by simp only [init_tcp, hl]⟩
  | ok c =>
    refine .inr ⟨c, _, rfl, by simp only [init_tcp, hl]; rfl, ?_⟩
    refine (adds_enroll (h := .tcp t.next_handle) rfl rfl t.accepted_udp_sockets).register_ready
      ?_
    exact (waker_add t _ _ _).trans (if_pos rfl)

/-- What `try_init_udp` does. -/
theorem try_init_udp_cases (t : TcpStack S) (dst : SocketAddr) :
    (dst ∈ t.accepted_udp_sockets ∧ t.try_init_udp dst = (t, .ok false)) ∨
    dst ∉ t.accepted_udp_sockets ∧
      ((∃ err, S.udp.bind (S.udp.new socket_buf_size) (.from dst) = .error err ∧
        t.try_init_udp dst = (t, .error (.udp_bind err))) ∨
      ∃ u v, S.udp.bind (S.udp.new socket_buf_size) (.from dst) = .ok u ∧
        ((t.operation_event.connected = false ∧ t.try_init_udp dst = (v, .error .udp_ready) ∧
          Adds t (.udp t.next_handle) (.udp u) 0 (insert dst t.accepted_udp_sockets) v) ∨
        t.operation_event.connected = true ∧ t.try_init_udp dst = (v, .ok true) ∧
          Adds t (.udp t.next_handle) (.udp u) {.ready (.udp t.next_handle)}
            (insert dst t.accepted_udp_sockets) v)) := by
  by_cases hd : dst ∈ t.accepted_udp_sockets
  · exact .inl ⟨hd, by rw [try_init_udp, if_pos hd]⟩
  refine .inr ⟨hd, ?_⟩
  cases hb : S.udp.bind (S.udp.new socket_buf_size) (.from dst) with
  | error err => exact .inl ⟨err, rfl, by simp only [try_init_udp, if_neg hd, hb]⟩
  | ok u =>
    have adds := adds_enroll (t := t) (h := .udp t.next_handle) (s := .udp u) rfl rfl
      (insert dst t.accepted_udp_sockets)
    have hadd : (t.add (.udp u)).operation_event = t.operation_event := rfl
    cases hc : t.operation_event.connected with
    | false =>
      refine .inr ⟨u, _, rfl, .inl ⟨rfl, ?_, adds⟩⟩
      simp only [try_init_udp, if_neg hd, hb, hadd, hc]
      rfl
    | true =>
      refine .inr ⟨u, _, rfl, .inr ⟨rfl, ?_, adds.send_ready hc⟩⟩
      simp only [try_init_udp, if_neg hd, hb, hadd, hc]
      rfl

/-- `drive_once` does nothing but what `Begins` lists before it comes to its events. -/
theorem begin_drive_cases {t t' : TcpStack S} {packet : Option Packet} {now : ℕ}
    {res : Except DriveError Unit} (ok : t.begin_drive packet now = .ok (t', res)) :
    Begins t packet now t' res := by
  cases packet with
  | none =>
    obtain ⟨-, rfl, rfl⟩ := try_poll_eq_ok.mp ok
    have hp : t.push none = t := by simp [push]
    have : Begins t none now ((t.push none).poll now) (.ok ()) := .polled (by simp)
    rwa [hp] at this
  | some p =>
    simp only [begin_drive, receive, bind, Except.bind, pure, Except.pure] at ok
    cases hparse : parse_packet p with
    | error panic =>
      simp only [hparse] at ok
      cases ok
    | ok ty =>
      match ty, hparse with
      | none, hparse =>
        simp only [hparse] at ok
        obtain ⟨-, rfl, rfl⟩ := try_poll_eq_ok.mp ok
        exact .polled (by simp [hparse])
      | some (.tcp src dst), hparse =>
        rcases init_tcp_cases t dst with ⟨err, hl, hi⟩ | ⟨c, u, hl, hi, adds⟩
        · simp only [hparse, hi] at ok
          cases ok
          exact .failed rfl (.listen hparse hl)
        · simp only [hparse, hi] at ok
          obtain ⟨-, rfl, rfl⟩ := try_poll_eq_ok.mp ok
          exact .opened rfl (.tcp hparse hl) adds
      | some (.udp src dst), hparse =>
        rcases try_init_udp_cases t dst with ⟨-, hi⟩ | ⟨hd, ⟨err, hb, hi⟩ |
          ⟨u, v, hb, ⟨hc, hi, adds⟩ | ⟨-, hi, adds⟩⟩⟩
        · simp only [hparse, hi, Except.map] at ok
          obtain ⟨-, rfl, rfl⟩ := try_poll_eq_ok.mp ok
          exact .polled (by simp [hparse])
        · simp only [hparse, hi, Except.map] at ok
          cases ok
          exact .failed rfl (.bind hparse hd hb)
        · simp only [hparse, hi, Except.map] at ok
          cases ok
          exact .unready rfl (.udp hparse hd hb) adds hc rfl
        · simp only [hparse, hi, Except.map] at ok
          obtain ⟨-, rfl, rfl⟩ := try_poll_eq_ok.mp ok
          exact .opened rfl (.udp hparse hd hb) adds

/-! ## Polling -/

/-- What `Interface::poll` gives. -/
def poll_result (t : TcpStack S) (now : ℕ) : PollResult S.Interface S.Tcp S.Udp :=
  S.poll t.interface now t.virtual_iface.rx_queue t.sockets

/-- The value of the socket in slot `i` after the poll. -/
def polled_socket (t : TcpStack S) (now : ℕ) (i : ℕ) : S.Socket → S.Socket
  | .tcp c => .tcp ((t.poll_result now).tcp i c)
  | .udp u => .udp ((t.poll_result now).udp i u)

/-- The stack after the poll, before its wakers run. -/
def advance (t : TcpStack S) (now : ℕ) : TcpStack S :=
  { t with
    interface := (t.poll_result now).interface
    virtual_iface := ⟨[], t.virtual_iface.tx_queue ++ (t.poll_result now).sent⟩
    socket_set := t.socket_set.mapIdx fun i item => item.put (t.polled_socket now i item.socket) }

/-- A poll sets the sockets, and wakes. -/
theorem wakes_poll (t : TcpStack S) (now : ℕ) : Wakes (t.advance now) (t.poll now) :=
  wakes_foldl (t.poll_result now).woken (t.advance now)

/-- A poll sets every socket. -/
@[simp] theorem socket_at_advance (t : TcpStack S) (now i : ℕ) :
    (t.advance now).socket_at i = (t.socket_at i).map (t.polled_socket now i) := by
  simp only [socket_at, advance, Arena.val_mapIdx, Option.map_map]
  cases t.socket_set.val i <;> rfl

/-- Setting the sockets leaves the wakers. -/
@[simp] theorem waker_advance (t : TcpStack S) (now i : ℕ) (side : Side) :
    (t.advance now).waker i side = t.waker i side := by
  simp only [waker, advance, Arena.val_mapIdx]
  cases t.socket_set.val i <;> rfl

/-- Setting the sockets leaves what is pending. -/
@[simp] theorem pending_advance (t : TcpStack S) (now : ℕ) :
    (t.advance now).pending = t.pending := by
  have hp : (t.advance now).parked = t.parked :=
    Arena.sum_mapIdx Item.parked t.socket_set _ fun _ _ => rfl
  simp only [pending, hp]
  rfl

/-- Setting the sockets leaves the requests. -/
@[simp] theorem requests_advance (t : TcpStack S) (now : ℕ) :
    (t.advance now).requests = t.requests :=
  congrArg (fun p => Multiset.filterMap result_tx p + _) (pending_advance t now)

/-- Setting the sockets leaves the tables. -/
theorem same_advance (t : TcpStack S) (now : ℕ) : SameTables t (t.advance now) where
  gen := by funext i; simp [advance]
  next := rfl
  kind := by
    funext i
    simp only [kind_at, socket_at_advance, Option.map_map]
    cases t.socket_at i with
    | none => rfl
    | some s => cases s <;> rfl
  socket_handles := rfl
  accepted_udp_sockets := rfl

/-- A packet that is queued leaves the tables. -/
theorem same_push (t : TcpStack S) (packet : Option Packet) : SameTables t (t.push packet) :=
  ⟨rfl, rfl, rfl, rfl, rfl⟩

/-- A poll leaves the tables. -/
theorem same_poll (t : TcpStack S) (now : ℕ) : SameTables t (t.poll now) :=
  (same_advance t now).trans (wakes_poll t now).same

/-- What a poll leaves in a slot. -/
theorem socket_at_poll (t : TcpStack S) (now i : ℕ) :
    (t.poll now).socket_at i = (t.socket_at i).map (t.polled_socket now i) := by
  rw [(wakes_poll t now).socket_at, socket_at_advance]

/-- A poll makes no event pending. -/
theorem pending_poll_le (t : TcpStack S) (now : ℕ) : (t.poll now).pending ≤ t.pending :=
  (wakes_poll t now).pending.trans_eq (pending_advance t now)

/-- A poll loses no request. -/
theorem requests_poll (t : TcpStack S) (now : ℕ) : (t.poll now).requests = t.requests :=
  (wakes_poll t now).requests.trans (requests_advance t now)

/-- A poll uses up the device's receive queue. -/
theorem rx_queue_poll (t : TcpStack S) (now : ℕ) : (t.poll now).virtual_iface.rx_queue = [] := by
  rw [(wakes_poll t now).virtual_iface]
  rfl

end TcpStack

end L3Extract
