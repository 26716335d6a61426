import L3Extract.Smoltcp.Transmit
import L3Extract.Stack.Buffers

/-!
# What becomes of a UDP socket

A UDP socket of the set is bound when a datagram opens it, polled whenever `drive_once` begins, and
handed to the Sends and Recvs that are for its slot (`Begins.udp_from`, `Outcome.udp_from`). What
holds of a new socket and is kept by each of these holds of every UDP socket (`EachUdp`).
-/

namespace L3Extract

open OperationEvent

variable {S : Smoltcp}

/-- A UDP socket in slot `i` is polled. -/
inductive Smoltcp.UdpPolled (S : Smoltcp) (i : ℕ) (u : S.Udp) : S.Udp → Prop
  | intro (interface : S.Interface) (now : ℕ) (packets : List Packet)
      (sockets : List (Option S.Socket)) (there : Slots.get sockets i = some (.udp u)) :
      UdpPolled S i u ((S.poll interface now packets sockets).udp i u)

namespace TcpStack

/-! ## What is polled -/

/-- What the poll of a call finds: the stack as it was, and besides, if the packet opened one, a new
socket, with no waker but that of its Ready. -/
structure Prepares (t v : TcpStack S) : Prop where
  interface : v.interface = t.interface
  virtual_iface : v.virtual_iface = t.virtual_iface
  connected : v.operation_event.connected = t.operation_event.connected
  socket_at : ∀ {i s}, t.socket_at i = some s → v.socket_at i = some s
  waker : ∀ {i s}, t.socket_at i = some s → ∀ side, v.waker i side = t.waker i side
  ready : ∀ {i side e}, v.waker i side = some e → t.waker i side = some e ∨ ∃ h, e = .ready h

/-- A call that comes to its events has prepared the stack and polled it. -/
theorem Begins.prepares {t t' : TcpStack S} {packet : Option Packet} {now : ℕ}
    (begins : Begins t packet now t' (.ok ())) :
    ∃ v, Prepares t v ∧ t' = (v.push packet).poll now := by
  cases begins with
  | polled quiet => exact ⟨t, ⟨rfl, rfl, rfl, id, fun _ _ => rfl, .inl⟩, rfl⟩
  | @opened p h s accepted v arrived opens adds =>
    have other : ∀ {i s'}, t.socket_at i = some s' → i ≠ h.handle.index := by
      rintro i s' hs rfl
      rw [adds.socket_free] at hs
      cases hs
    refine ⟨v, ⟨adds.interface, adds.virtual_iface, adds.connected, fun hs => ?_,
      fun hs side => ?_, fun {i side e} he => ?_⟩, rfl⟩
    · rw [adds.socket_at, if_neg (other hs), hs]
    · exact adds.waker _ side (other hs)
    · by_cases hi : i = h.handle.index
      · subst hi
        cases side with
        | recv =>
          rw [adds.waker_recv] at he
          cases he
        | send => exact .inr ⟨h, adds.waker_send e he⟩
      · rw [adds.waker i side hi] at he
        exact .inl he

/-- A UDP socket is handed to a request. -/
inductive UdpServes (t : TcpStack S) (u : S.Udp) : OperationEvent → S.Udp → Prop
  | send (handle : SocketHandle) (src : SocketAddr) (buffer : BufferId) (tx : ResultTx)
      (can_send : S.udp.can_send u = true) :
      UdpServes t u (.send handle src buffer tx)
        (S.udp.send_slice u (t.memory buffer).as_slice (.from src)).1
  | recv (handle : SocketHandle) (buffer : BufferId) (tx : ResultTx) :
      UdpServes t u (.recv handle buffer tx) (S.udp.recv_slice u (t.memory buffer).capacity).1

/-- A UDP socket after an event is one that was there before, or one that was handed to the event's
request. -/
theorem Outcome.udp_from {t t' : TcpStack S} {e : OperationEvent} (outcome : Outcome t e t')
    {i : ℕ} {u' : S.Udp} (h : t'.udp_at i = some u') :
    ∃ u, t.udp_at i = some u ∧ (u' = u ∨ i = e.index ∧ t.UdpServes u e u') := by
  by_cases hi : i = e.index
  swap
  · rw [TcpStack.udp_at, TcpStack.socket_at, outcome.val_of_ne hi] at h
    exact ⟨u', h, .inl rfl⟩
  rcases outcome.socket_at (udp_at_eq_some.mp h) with same | ⟨s, memory, a, hs, serves⟩ |
    ⟨c, hs, eq⟩
  · exact ⟨u', udp_at_eq_some.mpr same, .inl rfl⟩
  · cases serves with
    | send can_send => exact ⟨_, udp_at_eq_some.mpr hs, .inr ⟨hi, .send _ _ _ _ can_send⟩⟩
    | recv can_recv => exact ⟨_, udp_at_eq_some.mpr hs, .inr ⟨hi, .recv _ _ _⟩⟩
  · cases eq

/-- What happens to the datagrams that a UDP socket has to send while an event is handled: a request
adds some, and nothing else changes them. -/
theorem Outcome.udp_queues (spec : S.Spec) {t t' : TcpStack S} {e : OperationEvent}
    (outcome : Outcome t e t') {i : ℕ} {u' : S.Udp} (slot : t'.udp_at i = some u') :
    ∃ u new, t.udp_at i = some u ∧ S.udp.tx_buffer u' = S.udp.tx_buffer u ++ new ∧
      (e.result_tx = none → new = []) := by
  obtain ⟨u, was, rfl | ⟨-, serves⟩⟩ := outcome.udp_from slot
  · exact ⟨u', [], was, (List.append_nil _).symm, fun _ => rfl⟩
  cases serves with
  | send handle src buffer tx can_send =>
    have sends := spec.udp_send_slice u (t.memory buffer).as_slice (.from src)
    cases res : (S.udp.send_slice u (t.memory buffer).as_slice (.from src)).2 with
    | ok done => exact ⟨u, _, was, sends.ok res, fun none => by cases none⟩
    | error err =>
      exact ⟨u, [], was, (sends.error err res).trans (List.append_nil _).symm, fun _ => rfl⟩
  | recv handle buffer tx =>
    exact ⟨u, [], was, (spec.udp_recv_slice u _).tx_buffer.trans (List.append_nil _).symm,
      fun _ => rfl⟩

/-- A UDP socket after `drive_once` began was there before or was bound by it, and it was polled
unless the call returned an error. -/
theorem Begins.udp_from {t t' : TcpStack S} {packet : Option Packet} {now : ℕ}
    {res : Except DriveError Unit} (begins : Begins t packet now t' res) {i : ℕ} {u' : S.Udp}
    (h : t'.udp_at i = some u') :
    ∃ u, (t.udp_at i = some u ∨
        ∃ endpoint, S.udp.bind (S.udp.new socket_buf_size) endpoint = .ok u) ∧
      (res ≠ .ok () ∧ u' = u ∨ S.UdpPolled i u u') := by
  have poll : ∀ {v : TcpStack S}, ((v.push packet).poll now).udp_at i = some u' →
      ∃ u, v.udp_at i = some u ∧ S.UdpPolled i u u' := by
    intro v hu'
    rw [udp_at_eq_some, socket_at_poll] at hu'
    obtain ⟨s, hs, eq⟩ := Option.map_eq_some_iff.mp hu'
    have hs : v.socket_at i = some s := hs
    cases s with
    | tcp c => cases eq
    | udp u =>
      cases eq
      refine ⟨u, udp_at_eq_some.mpr hs, .intro _ _ _ _ ?_⟩
      rw [get_sockets]
      exact hs
  -- A socket that was not there is just bound.
  have add : ∀ {p : Packet} {h : TypedSocketHandle} {s : S.Socket} {new : Multiset OperationEvent}
      {accepted : Finset SocketAddr} {v : TcpStack S} {u : S.Udp}, t.Opens p h s accepted →
      Adds t h s new accepted v → v.udp_at i = some u → t.udp_at i = some u ∨
        ∃ endpoint, S.udp.bind (S.udp.new socket_buf_size) endpoint = .ok u := by
    intro p h s new accepted v u opens adds hu
    rcases adds.udp_at hu with ⟨-, rfl⟩ | ⟨-, hu⟩
    · cases opens with
      | udp parsed fresh binds => exact .inr ⟨_, binds⟩
    · exact .inl hu
  cases begins with
  | failed => exact ⟨u', .inl h, .inl ⟨by simp, rfl⟩⟩
  | unready arrived opens adds => exact ⟨u', add opens adds h, .inl ⟨by simp, rfl⟩⟩
  | polled quiet =>
    obtain ⟨u, hu, polled⟩ := poll h
    exact ⟨u, .inl hu, .inr polled⟩
  | opened arrived opens adds =>
    obtain ⟨u, hu, polled⟩ := poll h
    exact ⟨u, add opens adds hu, .inr polled⟩

/-! ## A Send -/

/-- What the handler of a Send makes of the stack: it hands the datagram to the socket, or parks the
Send. -/
def sent (t : TcpStack S) (u : S.Udp) (handle : SocketHandle) (src : SocketAddr) (buffer : BufferId)
    (tx : ResultTx) : TcpStack S :=
  if S.udp.can_send u then
    (t.put handle.index (.udp (S.udp.send_slice u (t.memory buffer).as_slice (.from src)).1)).answer
      tx (send_answer (t.memory buffer).as_slice
        (S.udp.send_slice u (t.memory buffer).as_slice (.from src)).2)
  else t.register handle.index .send (.send handle src buffer tx)

/-- What handling a Send does at its socket. -/
theorem handle_send {t : TcpStack S} {handle : SocketHandle} (src : SocketAddr) (buffer : BufferId)
    (tx : ResultTx) {u : S.Udp} (found : t.contains (.udp handle) = true)
    (slot : t.udp_at handle.index = some u) :
    t.handle (.send handle src buffer tx) = .ok (t.sent u handle src buffer tx) := by
  have get := get_udp_eq_ok.mpr (udp_at_eq_some.mp slot)
  simp only [TcpStack.handle, handle_udp_wake_event, found, get, Bool.not_true, Bool.false_eq_true,
    if_false]
  refine except_bind_eq_ok.mpr ⟨u, rfl, ?_⟩
  cases can : S.udp.can_send u with
  | false => simp only [sent, can, Bool.not_false, if_true, Bool.false_eq_true, if_false]; rfl
  | true =>
    simp only [sent, can, Bool.not_true, Bool.false_eq_true, if_false, if_true]
    cases (S.udp.send_slice u (t.memory buffer).as_slice (.from src)).2 with
    | error err => rfl
    | ok done => rfl

/-- The socket after the handler of a Send. -/
theorem udp_at_sent (t : TcpStack S) {handle : SocketHandle} (src : SocketAddr) (buffer : BufferId)
    (tx : ResultTx) {u : S.Udp} (slot : t.udp_at handle.index = some u) :
    (t.sent u handle src buffer tx).udp_at handle.index =
      some (if S.udp.can_send u then
        (S.udp.send_slice u (t.memory buffer).as_slice (.from src)).1 else u) := by
  cases can : S.udp.can_send u with
  | false =>
    simp only [sent, can, Bool.false_eq_true, if_false]
    rw [udp_at_eq_some, socket_at_register]
    exact udp_at_eq_some.mp slot
  | true =>
    have put := socket_at_put t handle.index handle.index
      (.udp (S.udp.send_slice u (t.memory buffer).as_slice (.from src)).1)
    rw [udp_at_eq_some.mp slot, Option.map_some, if_pos rfl] at put
    simp only [sent, can, if_true]
    exact udp_at_eq_some.mpr put

/-! ## Invariants of UDP sockets -/

/-- A property that new UDP sockets have, and that polling and receiving keep. -/
structure UdpInvariant (P : S.Udp → Prop) : Prop where
  bind : ∀ {endpoint u}, S.udp.bind (S.udp.new socket_buf_size) endpoint = .ok u → P u
  polled : ∀ {i u u'}, S.UdpPolled i u u' → P u → P u'
  recv : ∀ {u} len, P u → P (S.udp.recv_slice u len).1

/-- A property of every UDP socket of the set. -/
def EachUdp (t : TcpStack S) (P : S.Udp → Prop) : Prop := ∀ i u, t.udp_at i = some u → P u

variable {P : S.Udp → Prop}

/-- Beginning a call keeps what holds of each UDP socket. -/
theorem EachUdp.begins (invariant : UdpInvariant P) {t t' : TcpStack S} {packet : Option Packet}
    {now : ℕ} {res : Except DriveError Unit} (begins : Begins t packet now t' res)
    (each : t.EachUdp P) : t'.EachUdp P := by
  intro i u' hu'
  obtain ⟨u, was, becomes⟩ := begins.udp_from hu'
  have old : P u := by
    rcases was with hu | ⟨endpoint, binds⟩
    · exact each i u hu
    · exact invariant.bind binds
  rcases becomes with ⟨-, rfl⟩ | polled
  · exact old
  · exact invariant.polled polled old

/-- A Send has to keep the property of its socket. -/
theorem EachUdp.outcome (invariant : UdpInvariant P) {t t' : TcpStack S} {e : OperationEvent}
    (outcome : Outcome t e t')
    (send : ∀ handle src buffer tx u, e = .send handle src buffer tx →
      t.udp_at handle.index = some u → P u →
      P (S.udp.send_slice u (t.memory buffer).as_slice (.from src)).1)
    (each : t.EachUdp P) : t'.EachUdp P := by
  intro i u' hu'
  obtain ⟨u, hu, rfl | ⟨hi, serves⟩⟩ := outcome.udp_from hu'
  · exact each i u' hu
  subst hi
  cases serves with
  | send handle src buffer tx can_send =>
    exact send handle src buffer tx u rfl hu (each handle.index u hu)
  | recv handle buffer tx => exact invariant.recv _ (each handle.index u hu)

end TcpStack

end L3Extract
