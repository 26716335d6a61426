import L3Extract.Lib.Index
import L3Extract.Parsing
import L3Extract.Smoltcp.Reference
import L3Extract.Stack.Sockets

/-!
# The UDP sockets that are open

`try_init_udp` opens a UDP socket for an address unless `accepted_udp_sockets` has the address,
which it puts there. `handle_close_event` takes an address out again, and it has no other source for
it than the endpoint of the socket that it closes. `Accepted` says that the set is the index of
these addresses (`Indexes`): each is the address of one socket. It holds in every state that the
stack reaches (`accepted_run`), and `udp_accepted_once` draws the conclusions.
-/

namespace L3Extract

open OperationEvent Transition

variable {S : Smoltcp}

/-- The address that a UDP socket is bound to, as `handle_close_event` builds it. -/
def Smoltcp.bound_addr (S : Smoltcp) : S.Socket → Option SocketAddr
  | .tcp _ => none
  | .udp u => (S.udp.endpoint u).addr.map fun ip => .new ip (S.udp.endpoint u).port

/-- A socket that was bound to the destination of a datagram has it as its address. -/
theorem Smoltcp.Spec.bound_addr_of_bind (spec : S.Spec) {packet : Packet} {src dst : SocketAddr}
    {size : ℕ} {u : S.Udp} (parsed : parse_packet packet = .ok (some (.udp src dst)))
    (binds : S.udp.bind (S.udp.new size) (.from dst) = .ok u) :
    S.bound_addr (.udp u) = some dst := by
  rw [Smoltcp.bound_addr, spec.bind_endpoint _ _ _ binds]
  exact congrArg some (new_of_parse_packet parsed).symm

namespace TcpStack

/-- The address that the UDP socket in a slot is bound to. -/
def udp_addr (t : TcpStack S) (i : ℕ) : Option SocketAddr := (t.socket_at i).bind S.bound_addr

/-- `accepted_udp_sockets` is the index of the addresses of the UDP sockets. -/
structure Accepted (t : TcpStack S) : Prop where
  bound : t.Bound
  port : ∀ addr ∈ t.accepted_udp_sockets, addr.port ≠ 0
  indexes : Indexes t.udp_addr t.accepted_udp_sockets

/-- A UDP socket that is bound has an address, and no other slot has one. -/
theorem Bound.udp_addr_isSome {t : TcpStack S} (bound : t.Bound) (tables : t.Tables) (i : ℕ) :
    (t.udp_addr i).isSome = true ↔ (.udp, i) ∈ t.socket_handles := by
  rw [tables, udp_addr, kind_at]
  cases hs : t.socket_at i with
  | none => simp
  | some s =>
    cases s with
    | tcp c => simp [Smoltcp.bound_addr, AnySocket.protocol]
    | udp u =>
      have := bound i u (udp_at_eq_some.mpr hs)
      simp [Smoltcp.bound_addr, AnySocket.protocol, this]

/-! ## Each step keeps the index -/

/-- What serving a request or closing makes of a socket keeps its address. -/
theorem Serves.bound_addr (spec : S.Spec) {t : TcpStack S} {e : OperationEvent} {s s' : S.Socket}
    {memory : BufferId → IoBuf} {a : Answer} (serves : t.Serves e s s' memory a) :
    S.bound_addr s' = S.bound_addr s := by
  cases serves with
  | write can_send => rfl
  | read queued => rfl
  | send can_send => simp only [Smoltcp.bound_addr, spec.udp_send_endpoint]
  | recv can_recv => simp only [Smoltcp.bound_addr, spec.udp_recv_endpoint]

/-- A handler that keeps the tables keeps the addresses. -/
theorem Outcome.udp_addr_of_same (spec : S.Spec) {t t' : TcpStack S} {e : OperationEvent}
    (outcome : Outcome t e t') {i : ℕ} (kind : t'.kind_at i = t.kind_at i) :
    t'.udp_addr i = t.udp_addr i := by
  cases hs' : t'.socket_at i with
  | none =>
    have : t.socket_at i = none := by simpa [kind_at, hs'] using kind.symm
    simp [udp_addr, hs', this]
  | some s' =>
    rcases outcome.socket_at hs' with hs | ⟨s, memory, a, hs, serves⟩ | ⟨c, hs, rfl⟩
    · simp [udp_addr, hs', hs]
    · simp [udp_addr, hs', hs, serves.bound_addr spec]
    · simp [udp_addr, hs', hs, Smoltcp.bound_addr]

/-- A Close takes the address of its own socket out of the set. -/
theorem Closes.mem_accepted {t : TcpStack S} {h : TypedSocketHandle} {s s' : S.Socket}
    {accepted : Finset SocketAddr} (closes : t.Closes h s s' accepted)
    (socket : t.socket_at h.handle.index = some s) (addr : SocketAddr) :
    addr ∈ accepted ↔ addr ∈ t.accepted_udp_sockets ∧ t.udp_addr h.handle.index ≠ some addr := by
  cases closes with
  | tcp inactive => simp [udp_addr, socket, Smoltcp.bound_addr]
  | udp bound => simp [udp_addr, socket, Smoltcp.bound_addr, bound, and_comm, eq_comm]

/-- Handling an event keeps the addresses and the set, or clears the slot of a Close and takes its
address out of the set. -/
theorem Outcome.accepted_cases (spec : S.Spec) {t t' : TcpStack S} {e : OperationEvent}
    (outcome : Outcome t e t') :
    (t'.udp_addr = t.udp_addr ∧ t'.accepted_udp_sockets = t.accepted_udp_sockets) ∨
    ∃ h, e = .close h ∧
      (∀ i, t'.udp_addr i = if i = h.handle.index then none else t.udp_addr i) ∧
      ∀ addr, addr ∈ t'.accepted_udp_sockets ↔
        addr ∈ t.accepted_udp_sockets ∧ t.udp_addr h.handle.index ≠ some addr := by
  rcases outcome.tables_closes with same | ⟨h, s, s', event, socket, closes, removes⟩
  · have kind := fun i => congrFun same.kind i
    exact .inl ⟨funext fun i => outcome.udp_addr_of_same spec (kind i),
      same.accepted_udp_sockets⟩
  · refine .inr ⟨h, event, fun i => ?_, closes.mem_accepted socket⟩
    split_ifs with hi
    · have gone : t'.socket_at i = none := by simpa [kind_at, hi] using removes.kind i
      simp [udp_addr, gone]
    · exact outcome.udp_addr_of_same spec (by rw [removes.kind, if_neg hi])

/-- Handling an event keeps `accepted_udp_sockets` in agreement. -/
theorem Outcome.accepted (spec : S.Spec) {t t' : TcpStack S} {e : OperationEvent}
    (outcome : Outcome t e t') (accepted : t.Accepted) : t'.Accepted where
  bound := outcome.bound spec accepted.bound
  port addr haddr := by
    rcases outcome.accepted_cases spec with ⟨-, set⟩ | ⟨h, -, -, left⟩
    · exact accepted.port addr (set ▸ haddr)
    · exact accepted.port addr ((left addr).mp haddr).1
  indexes := by
    rcases outcome.accepted_cases spec with ⟨addr, set⟩ | ⟨h, -, addr, left⟩
    · rw [addr, set]
      exact accepted.indexes
    · exact accepted.indexes.clear addr left

/-- The address of a socket that was just opened. -/
theorem Opens.bound_addr (spec : S.Spec) {t : TcpStack S} {packet : Packet} {h : TypedSocketHandle}
    {s : S.Socket} {accepted : Finset SocketAddr} (opens : t.Opens packet h s accepted) :
    (S.bound_addr s = none ∧ accepted = t.accepted_udp_sockets) ∨
    ∃ dst, dst ∉ t.accepted_udp_sockets ∧ dst.port ≠ 0 ∧ S.bound_addr s = some dst ∧
      accepted = insert dst t.accepted_udp_sockets := by
  cases opens with
  | tcp parsed listens => exact .inl ⟨rfl, rfl⟩
  | @udp src dst u parsed fresh binds =>
    exact .inr ⟨dst, fresh, spec.port_of_bind binds, spec.bound_addr_of_bind parsed binds, rfl⟩

/-- The address of a socket that is added, if it is a UDP socket. -/
theorem Adds.udp_addr {t t' : TcpStack S} {h : TypedSocketHandle} {s : S.Socket}
    {new : Multiset OperationEvent} {accepted : Finset SocketAddr}
    (adds : Adds t h s new accepted t') (i : ℕ) :
    t'.udp_addr i = if i = h.handle.index then S.bound_addr s else t.udp_addr i := by
  rw [TcpStack.udp_addr, adds.socket_at]
  split_ifs <;> rfl

/-- The slot of a new socket was free. -/
theorem Adds.udp_addr_free {t t' : TcpStack S} {h : TypedSocketHandle} {s : S.Socket}
    {new : Multiset OperationEvent} {accepted : Finset SocketAddr}
    (adds : Adds t h s new accepted t') : t.udp_addr h.handle.index = none := by
  rw [TcpStack.udp_addr, adds.socket_free]
  rfl

/-- Opening a socket keeps the index. -/
theorem Adds.indexes (spec : S.Spec) {t t' : TcpStack S} {packet : Packet} {h : TypedSocketHandle}
    {s : S.Socket} {new : Multiset OperationEvent} {accepted : Finset SocketAddr}
    (adds : Adds t h s new accepted t') (opens : t.Opens packet h s accepted)
    (indexes : Indexes t.udp_addr t.accepted_udp_sockets) :
    Indexes t'.udp_addr t'.accepted_udp_sockets := by
  have free := adds.udp_addr_free
  rw [adds.accepted_udp_sockets]
  rcases opens.bound_addr spec with ⟨none, rfl⟩ | ⟨dst, fresh, -, addr, rfl⟩
  · have same : t'.udp_addr = t.udp_addr := by
      funext i
      rw [adds.udp_addr, none]
      split_ifs with hi
      · rw [hi, free]
      · rfl
    rw [same]
    exact indexes
  · exact indexes.insert free fresh fun i => by rw [adds.udp_addr, addr]

/-- A poll leaves UDP sockets on their addresses. -/
@[simp] theorem udp_addr_poll (spec : S.Spec) (t : TcpStack S) (packet : Option Packet) (now : ℕ) :
    ((t.push packet).poll now).udp_addr = t.udp_addr := by
  funext i
  rw [udp_addr, udp_addr, socket_at_poll]
  change ((t.socket_at i).map _).bind _ = _
  cases t.socket_at i with
  | none => rfl
  | some s =>
    cases s with
    | tcp c => rfl
    | udp u =>
      simp only [Option.map_some, Option.bind_some, polled_socket, Smoltcp.bound_addr, poll_result,
        spec.udp_poll_endpoint]

/-- Beginning a call keeps `accepted_udp_sockets` in agreement. -/
theorem Begins.accepted (spec : S.Spec) {t t' : TcpStack S} {packet : Option Packet} {now : ℕ}
    {res : Except DriveError Unit} (begins : Begins t packet now t' res) (accepted : t.Accepted) :
    t'.Accepted where
  bound := begins.bound spec accepted.bound
  port := by
    -- An address that is bound has a port.
    have opened : ∀ {p : Packet} {h : TypedSocketHandle} {s : S.Socket} {keys : Finset SocketAddr},
        t.Opens p h s keys → ∀ addr ∈ keys, addr.port ≠ 0 := by
      intro p h s keys opens addr haddr
      rcases opens.bound_addr spec with ⟨-, rfl⟩ | ⟨dst, -, port, -, rfl⟩
      · exact accepted.port addr haddr
      · rcases Finset.mem_insert.mp haddr with rfl | haddr
        · exact port
        · exact accepted.port addr haddr
    cases begins with
    | failed arrived fails => exact accepted.port
    | unready arrived opens adds => exact adds.accepted_udp_sockets ▸ opened opens
    | polled quiet =>
      rw [(same_poll _ _).accepted_udp_sockets]
      exact accepted.port
    | opened arrived opens adds =>
      rw [(same_poll _ _).accepted_udp_sockets]
      exact adds.accepted_udp_sockets ▸ opened opens
  indexes := by
    cases begins with
    | failed arrived fails => exact accepted.indexes
    | unready arrived opens adds disconnected protocol =>
      exact adds.indexes spec opens accepted.indexes
    | polled quiet =>
      rw [udp_addr_poll spec, (same_poll _ _).accepted_udp_sockets]
      exact accepted.indexes
    | opened arrived opens adds =>
      rw [udp_addr_poll spec, (same_poll _ _).accepted_udp_sockets]
      exact adds.indexes spec opens accepted.indexes

/-! ## Runs -/

/-- The invariant is about the sockets and the set only. -/
theorem Accepted.of_same {t t' : TcpStack S} (set : t'.socket_set = t.socket_set)
    (keys : t'.accepted_udp_sockets = t.accepted_udp_sockets) (accepted : t.Accepted) :
    t'.Accepted := by
  have sockets : t'.socket_at = t.socket_at := by funext i; rw [socket_at, socket_at, set]
  refine ⟨fun i c hc => accepted.bound i c ?_, keys ▸ accepted.port, ?_⟩
  · rw [udp_at_eq_some] at hc ⊢
    rwa [← sockets]
  · rw [keys, show t'.udp_addr = t.udp_addr by funext i; rw [udp_addr, udp_addr, sockets]]
    exact accepted.indexes

/-- A new stack has accepted no address. -/
theorem accepted_new (size : ℕ) (interface : S.Interface) : (new size interface).Accepted := by
  have none : ∀ i, (new size interface).socket_at i = none := fun i => by simp [new, socket_at]
  refine ⟨fun i u h => ?_, fun addr h => by simp [new] at h, ?_⟩
  · simp [udp_at, none] at h
  · rw [show (new size interface).udp_addr = fun _ => Option.none by
      funext i; simp [udp_addr, none]]
    exact .empty

/-- A move keeps `accepted_udp_sockets` in agreement. -/
theorem accepted_move (spec : S.Spec) {t t' : TcpStack S} {m : Move} (step : t.move m = some t')
    (accepted : t.Accepted) : t'.Accepted := by
  refine move_keeps step (fun _ _ _ _ _ _ hb => (begin_drive_cases hb).accepted spec accepted)
    (fun _ _ _ hu ok => (handle_outcome ok).accepted spec hu) ?_ accepted
  exact fun u u' set _ keys _ accepted => accepted.of_same set keys

/-- `accepted_udp_sockets` is the index of the bound addresses in every state that is reached. -/
theorem accepted_run (spec : S.Spec) {size : ℕ} {interface : S.Interface}
    {guard : TcpStack S → Move → Prop} {t : TcpStack S}
    (run : Run move guard (new size interface) t) : t.Accepted :=
  run.invariant (accepted_new size interface) fun _ _ _ _ _ step accepted =>
    accepted_move spec step accepted

/-- `receive` of a datagram. -/
theorem receive_udp (t : TcpStack S) {packet : Packet} {src dst : SocketAddr}
    (parsed : parse_packet packet = .ok (some (.udp src dst))) :
    t.receive packet = match t.try_init_udp dst with
      | (u, .ok _) => .ok (u.push (some packet), .ok ())
      | (u, .error err) => .ok (u, .error err) := by
  simp only [receive, parsed, bind, Except.bind, pure, Except.pure]
  rcases t.try_init_udp dst with ⟨u, err | new⟩ <;> rfl

/-- After a datagram was received, one socket has its destination. -/
theorem Accepted.one_socket (spec : S.Spec) {t u : TcpStack S} (accepted : t.Accepted)
    {packet : Packet} {src dst : SocketAddr}
    (parsed : parse_packet packet = .ok (some (.udp src dst)))
    (ok : t.receive packet = .ok (u, .ok ())) : ∃! i, u.udp_addr i = some dst := by
  rw [receive_udp t parsed] at ok
  rcases try_init_udp_cases t dst with ⟨mem, hi⟩ | ⟨fresh, ⟨err, binds, hi⟩ |
    ⟨c, v, binds, ⟨-, hi, adds⟩ | ⟨-, hi, adds⟩⟩⟩
  · simp only [hi] at ok
    cases ok
    exact accepted.indexes.existsUnique mem
  · simp [hi] at ok
  · simp [hi] at ok
  · simp only [hi] at ok
    cases ok
    have indexes := adds.indexes spec (.udp parsed fresh binds) accepted.indexes
    refine indexes.existsUnique ?_
    rw [adds.accepted_udp_sockets]
    exact Finset.mem_insert_self _ _

/-- A datagram for which there is no socket opens a new one, also when its Ready cannot be sent. -/
theorem Accepted.new_socket (spec : S.Spec) {t : TcpStack S} (accepted : t.Accepted)
    {packet : Packet} {src dst : SocketAddr}
    (parsed : parse_packet packet = .ok (some (.udp src dst))) (port : dst.port ≠ 0)
    (gone : ∀ i, t.udp_addr i ≠ some dst) :
    ∃ u res, t.receive packet = .ok (u, res) ∧
      (res = .ok () ↔ t.operation_event.connected = true) ∧
      u.udp_addr t.next_handle.index = some dst ∧
      u.socket_set.gen t.next_handle.index = some t.next_handle.incarnation := by
  -- Every accepted address has its socket.
  have fresh : dst ∉ t.accepted_udp_sockets := fun mem => by
    obtain ⟨i, hi⟩ := (accepted.indexes.mem_iff dst).mp mem
    exact gone i hi
  have addr : ∀ {c v new}, S.udp.bind (S.udp.new socket_buf_size) (.from dst) = .ok c →
      Adds t (.udp t.next_handle) (.udp c) new (insert dst t.accepted_udp_sockets) v →
      v.udp_addr t.next_handle.index = some dst ∧
        v.socket_set.gen t.next_handle.index = some t.next_handle.incarnation := by
    intro c v new binds adds
    refine ⟨?_, by rw [adds.gen]; exact if_pos rfl⟩
    rw [adds.udp_addr]
    exact (if_pos rfl).trans (spec.bound_addr_of_bind parsed binds)
  rw [receive_udp t parsed]
  rcases try_init_udp_cases t dst with ⟨mem, hi⟩ | ⟨-, ⟨err, binds, hi⟩ |
    ⟨c, v, binds, ⟨hc, hi, adds⟩ | ⟨hc, hi, adds⟩⟩⟩
  · exact absurd mem fresh
  · obtain ⟨c, hc⟩ := spec.bind_ok socket_buf_size (.from dst) port
    rw [hc] at binds
    cases binds
  · exact ⟨v, _, by rw [hi], by simp [hc], addr binds adds⟩
  · have bound := addr binds adds
    exact ⟨v.push (some packet), _, by rw [hi], by simp [hc], bound⟩

/-- A Close of a UDP socket clears its slot. -/
theorem Outcome.udp_closed {t t' : TcpStack S} {handle : SocketHandle}
    (outcome : Outcome t (.close (.udp handle)) t') (found : t.contains (.udp handle) = true) :
    t'.socket_at handle.index = none := by
  cases outcome with
  | removed h s s' accepted u event found socket closes wakes others woken eq =>
    cases event
    subst eq
    exact (socket_at_remove u _ _).trans (if_pos rfl)
  | ignored h event gone eq =>
    cases event
    rw [found] at gone
    cases gone
  | answered tx a result_tx refuses eq => cases result_tx
  | served tx a s s' memory result_tx found socket serves eq => cases result_tx
  | parked side parks eq => cases parks
  | shutdown handle tx c event found socket eq => cases event
  | closing handle c event found socket active eq => cases event
  | delivered_tcp handle c remote local_ event socket may_recv remote_eq local_eq eq => cases event
  | delivered_udp handle u ip event socket bound eq => cases event

/-- A Close of a UDP socket takes its own address out of the set, and leaves no socket with it. -/
theorem Accepted.close (spec : S.Spec) {t t' : TcpStack S} (accepted : t.Accepted)
    (tables : t.Tables) {handle : SocketHandle} (found : t.contains (.udp handle) = true)
    (ok : t.handle (.close (.udp handle)) = .ok t') :
    ∃ addr, t.udp_addr handle.index = some addr ∧ addr ∈ t.accepted_udp_sockets ∧
      t'.accepted_udp_sockets = t.accepted_udp_sockets.erase addr ∧
      ∀ i, t'.udp_addr i ≠ some addr := by
  have outcome := handle_outcome ok
  have mem : (.udp, handle.index) ∈ t.socket_handles := of_decide_eq_true found
  obtain ⟨addr, haddr⟩ := Option.isSome_iff_exists.mp
    ((accepted.bound.udp_addr_isSome tables _).mpr mem)
  have gone : t'.udp_addr handle.index = none := by rw [udp_addr, outcome.udp_closed found]; rfl
  rcases outcome.accepted_cases spec with ⟨same, -⟩ | ⟨h, event, left, set⟩
  · rw [same, haddr] at gone
    cases gone
  · cases event
    have keys : t'.accepted_udp_sockets = t.accepted_udp_sockets.erase addr := by
      ext a
      have own : t.udp_addr (TypedSocketHandle.udp handle).handle.index = some addr := haddr
      rw [set, Finset.mem_erase, and_comm, own, ne_eq, Option.some.injEq, eq_comm]
    refine ⟨addr, haddr, (accepted.indexes.mem_iff addr).mpr ⟨_, haddr⟩, keys, fun i hi => ?_⟩
    have := ((outcome.accepted spec accepted).indexes.mem_iff addr).mpr ⟨i, hi⟩
    rw [keys] at this
    exact absurd rfl (Finset.mem_erase.mp this).1

/-! ## UDP acceptance -/

/-- In every state that calls of `drive_once` with any packets and batches reach, those that return
an error included, and in every state within such a call, the addresses of the UDP sockets are a
bijection from their handles onto `accepted_udp_sockets`. A datagram is polled when one socket is
bound to its destination, which is a new one if there was none. A Close takes its own socket's
address out of the set, and no socket has this address from then on. -/
theorem udp_accepted_once (spec : S.Spec) {size : ℕ} {interface : S.Interface} {t : TcpStack S}
    (run : Reachable move (new size interface) t) :
    Set.BijOn t.udp_addr {i | (.udp, i) ∈ t.socket_handles} (some '' ↑t.accepted_udp_sockets) ∧
    (∀ packet src dst, parse_packet packet = .ok (some (.udp src dst)) →
      (∀ u, t.receive packet = .ok (u, .ok ()) → ∃! i, u.udp_addr i = some dst) ∧
      ((∀ i, t.udp_addr i ≠ some dst) → dst.port ≠ 0 →
        ∃ u res, t.receive packet = .ok (u, res) ∧
          (res = .ok () ↔ t.operation_event.connected = true) ∧
          u.udp_addr t.next_handle.index = some dst ∧
          u.socket_set.gen t.next_handle.index = some t.next_handle.incarnation)) ∧
    ∀ packet now u res events v, t.begin_drive packet now = .ok (u, res) →
      u.handle_in_order events = .ok v →
      Set.BijOn v.udp_addr {i | (.udp, i) ∈ v.socket_handles} (some '' ↑v.accepted_udp_sockets) ∧
      ∀ handle w, v.contains (.udp handle) = true → v.handle (.close (.udp handle)) = .ok w →
        ∃ addr, v.udp_addr handle.index = some addr ∧ addr ∈ v.accepted_udp_sockets ∧
          w.accepted_udp_sockets = v.accepted_udp_sockets.erase addr ∧
          ∀ i, w.udp_addr i ≠ some addr := by
  have tables := tables_run run
  have accepted := accepted_run spec run
  have bijOn : ∀ {v : TcpStack S}, v.Tables → v.Accepted →
      Set.BijOn v.udp_addr {i | (.udp, i) ∈ v.socket_handles}
        (some '' ↑v.accepted_udp_sockets) := by
    intro v tables accepted
    have := accepted.indexes.bijOn
    simpa only [accepted.bound.udp_addr_isSome tables] using this
  refine ⟨bijOn tables accepted, fun packet src dst parsed =>
    ⟨fun u ok => accepted.one_socket spec parsed ok,
      fun gone port => accepted.new_socket spec parsed port gone⟩, ?_⟩
  intro packet now u res events v hb hv
  have tables' : v.Tables := tables_in_order (tables_begin tables hb) hv
  have accepted' : v.Accepted := in_order_keeps
    (fun _ _ _ hu ok => (handle_outcome ok).accepted spec hu)
    ((begin_drive_cases hb).accepted spec accepted) hv
  exact ⟨bijOn tables' accepted', fun handle w found ok => accepted'.close spec tables' found ok⟩

open Reference in
/-- Two UDP sockets are opened, the first one is closed, and a datagram opens one for its address
again. -/
theorem udp_accepted_once_again : ∃ t : TcpStack reference,
    exec move (new 64 ()) [
      .drive_once (some (udp_packet 1 2 [7])) 0 none,
      .drive_once (some (udp_packet 1 3 [7])) 0 none,
      .drive_once none 0 (some [.close (.udp ⟨0, 0⟩)]),
      .drive_once (some (udp_packet 1 2 [8])) 0 none] = some t ∧
    t.accepted_udp_sockets = {server_addr 2, server_addr 3} ∧
    Set.BijOn t.udp_addr {i | (.udp, i) ∈ t.socket_handles}
      (some '' ↑t.accepted_udp_sockets) := by
  obtain ⟨t, ht, hs⟩ := exists_of_exec_any move (new 64 () : TcpStack reference)
    [.drive_once (some (udp_packet 1 2 [7])) 0 none,
      .drive_once (some (udp_packet 1 3 [7])) 0 none,
      .drive_once none 0 (some [.close (.udp ⟨0, 0⟩)]),
      .drive_once (some (udp_packet 1 2 [8])) 0 none]
    (fun t => t.accepted_udp_sockets = {server_addr 2, server_addr 3}) (by decide +kernel)
  exact ⟨t, ht, of_decide_eq_true hs, (udp_accepted_once reference_spec (Run.of_exec ht)).1⟩

end TcpStack

end L3Extract
