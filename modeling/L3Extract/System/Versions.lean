import L3Extract.Smoltcp.Reference
import L3Extract.Stack.Datagrams
import L3Extract.System.Packets

/-!
# The IP version of a datagram

smoltcp queues a datagram for any destination, and builds the packet when it is polled, from the
address that the socket is bound to and from the destination. It panics when these are of two IP
versions. The handler of a Send does not compare them (`other_version`).

`same_version` says that the queued datagrams are all of their socket's version as long as the Sends
are that their sockets take.
-/

namespace L3Extract

open OperationEvent Transition TcpStack

variable {S : Smoltcp} {ring : PayloadRing S.Udp}

/-- The datagrams that a UDP socket has to send go to addresses of the version of its own. -/
def Smoltcp.Uniform (S : Smoltcp) (u : S.Udp) : Prop :=
  ∀ d ∈ S.udp.tx_buffer u, ∃ ip, (S.udp.endpoint u).addr = some ip ∧
    ip.same_version d.1.addr = true

namespace TcpStack

/-! ## Invariants of the sockets -/

/-- Binding and polling keep a UDP socket's datagrams of its version. -/
theorem uniform_invariant (spec : S.Spec) (enqueues : S.Enqueues ring) (flushes : S.Flushes) :
    UdpInvariant S.Uniform where
  bind h d hd := by
    rw [enqueues.bind _ _ _ h] at hd
    cases hd
  polled := by
    rintro i u _ ⟨interface, now, packets, sockets, there⟩ - d hd
    rw [flushes.poll_tx_buffer _ _ _ _ _ _ there] at hd
    cases hd
  recv len uniform d hd := by
    rw [(spec.udp_recv_slice _ len).tx_buffer] at hd
    rw [spec.udp_recv_endpoint]
    exact uniform d hd

/-- UDP sockets are not bound to port 0. -/
theorem port_invariant (spec : S.Spec) :
    UdpInvariant fun u : S.Udp => (S.udp.endpoint u).port ≠ 0 where
  bind h := by
    rw [spec.bind_endpoint _ _ _ h]
    exact spec.port_of_bind h
  polled := by
    rintro i u _ ⟨interface, now, packets, sockets, there⟩ port
    rwa [spec.udp_poll_endpoint]
  recv len port := by rwa [spec.udp_recv_endpoint]

/-- If the socket of a Send takes the datagram, then its address is of the socket's version. -/
def sends_uniform (t : TcpStack S) (ring : PayloadRing S.Udp) : OperationEvent → Bool
  | .send handle src buffer _ => (t.udp_at handle.index).all fun u =>
    !ring.takes u (t.memory buffer).as_slice (.from src) ||
      (S.udp.endpoint u).addr.any fun ip => ip.same_version src.ip
  | _ => true

/-- A Send keeps the datagrams of its socket uniform exactly under this condition. -/
theorem uniform_send_iff (spec : S.Spec) (enqueues : S.Enqueues ring) {t : TcpStack S}
    {handle : SocketHandle} {src : SocketAddr} {buffer : BufferId} {tx : ResultTx} {u : S.Udp}
    (slot : t.udp_at handle.index = some u) (port : (S.udp.endpoint u).port ≠ 0)
    (uniform : S.Uniform u) :
    S.Uniform (S.udp.send_slice u (t.memory buffer).as_slice (.from src)).1 ↔
      t.sends_uniform ring (.send handle src buffer tx) = true := by
  have takes := enqueues.takes_iff port (t.memory buffer).as_slice (.from src)
  have sends := spec.udp_send_slice u (t.memory buffer).as_slice (.from src)
  have condition : t.sends_uniform ring (.send handle src buffer tx) = true ↔
      (ring.takes u (t.memory buffer).as_slice (.from src) = true →
        ∃ ip, (S.udp.endpoint u).addr = some ip ∧ ip.same_version src.ip = true) := by
    rw [sends_uniform, slot, Option.all_some, Bool.or_eq_true, Option.any_eq_true]
    cases ring.takes u (t.memory buffer).as_slice (.from src) <;> simp
  rw [condition, ← takes]
  simp only [Smoltcp.Uniform, spec.udp_send_endpoint]
  cases res : (S.udp.send_slice u (t.memory buffer).as_slice (.from src)).2 with
  | error err =>
    rw [sends.error err res]
    exact iff_of_true uniform (by simp)
  | ok done =>
    rw [sends.ok res]
    simp only [List.forall_mem_append, List.forall_mem_singleton, true_implies]
    exact and_iff_right uniform

end TcpStack

namespace System

/-- A property of all UDP sockets holds in every run whose Sends keep it. -/
theorem each_udp_of_run {P : S.Udp → Prop} (invariant : UdpInvariant P) {size : ℕ}
    {interface : S.Interface} {guard : System S → Action → Prop}
    (send : ∀ s : System S, Run step guard (new size interface) s → guard s .event →
      ∀ handle src buffer tx u, s.next_event = some (.send handle src buffer tx) →
        s.stack.udp_at handle.index = some u → P u →
        P (S.udp.send_slice u (s.stack.memory buffer).as_slice (.from src)).1)
    {s : System S} (run : Run step guard (new size interface) s) : s.stack.EachUdp P := by
  refine run.invariant (I := fun s => s.stack.EachUdp P) ?_ fun s a s' run meets h each => ?_
  · intro i u hu
    simp [new, TcpStack.new, TcpStack.udp_at, TcpStack.socket_at] at hu
  cases stack_step h with
  | began packet now batch res action ok => exact each.begins invariant (begin_drive_cases ok)
  | handled e action next ok =>
    subst action
    exact each.outcome invariant (handle_outcome ok) fun handle src buffer tx u event =>
      send s run meets handle src buffer tx u (event ▸ next)
  | outside socket_set socket_handles accepted_udp_sockets rx_queue =>
    intro i u hu
    rw [TcpStack.udp_at, TcpStack.socket_at, socket_set] at hu
    exact each i u hu

/-- In every run a UDP socket has a port. -/
theorem port_of_run (spec : S.Spec) {size : ℕ} {interface : S.Interface}
    {guard : System S → Action → Prop} {s : System S}
    (run : Run step guard (new size interface) s) :
    s.stack.EachUdp fun u => (S.udp.endpoint u).port ≠ 0 :=
  each_udp_of_run (port_invariant spec)
    (fun _ _ _ _ _ _ _ _ _ _ port => by rwa [spec.udp_send_endpoint]) run

/-- The Sends that are handled are for addresses of the version of their sockets, if these take
them. -/
def SendsUniform (ring : PayloadRing S.Udp) (s : System S) (a : Action) : Prop :=
  a = .event → ∀ e ∈ s.next_event, s.stack.sends_uniform ring e = true

instance (s : System S) (a : Action) : Decidable (s.SendsUniform ring a) :=
  inferInstanceAs (Decidable (_ → _))

/-- A Send under the condition keeps the datagrams of its socket's version. -/
theorem SendsUniform.step (spec : S.Spec) (enqueues : S.Enqueues ring) {size : ℕ}
    {interface : S.Interface} {guard : System S → Action → Prop} {s : System S}
    (run : Run step guard (new size interface) s) (meets : s.SendsUniform ring .event)
    {handle : SocketHandle} {src : SocketAddr} {buffer : BufferId} {tx : ResultTx} {u : S.Udp}
    (next : s.next_event = some (.send handle src buffer tx))
    (slot : s.stack.udp_at handle.index = some u) (uniform : S.Uniform u) :
    S.Uniform (S.udp.send_slice u (s.stack.memory buffer).as_slice (.from src)).1 :=
  (uniform_send_iff spec enqueues slot (port_of_run spec run _ u slot) uniform).mpr
    (meets rfl _ next)

/-- In every run whose Sends meet the condition, every datagram that a UDP socket has queued is for
an address of the IP version of the address that the socket is bound to. A step that handles an
event keeps this if and only if the event meets the condition. -/
theorem same_version (spec : S.Spec) (enqueues : S.Enqueues ring) (flushes : S.Flushes)
    (size : ℕ) (interface : S.Interface) :
    (∀ s : System S, Run step (SendsUniform ring) (new size interface) s →
      s.stack.EachUdp S.Uniform) ∧
    ∀ s s' : System S, Reachable step (new size interface) s → s.stack.EachUdp S.Uniform →
      s.step .event = some s' → (s'.stack.EachUdp S.Uniform ↔ s.SendsUniform ring .event) := by
  refine ⟨fun s run => ?_, fun s s' run each h => ⟨fun after => ?_, fun meets => ?_⟩⟩
  · exact each_udp_of_run (uniform_invariant spec enqueues flushes)
      (fun _ run meets _ _ _ _ _ next slot => meets.step spec enqueues run next slot) run
  · intro _ e next
    cases e with
    | send handle src buffer tx =>
      cases slot : s.stack.udp_at handle.index with
      | none =>
        rw [sends_uniform, slot]
        rfl
      | some u =>
        have port := port_of_run spec run _ u slot
        have kept := after handle.index
        obtain ⟨events, stack, driving, ok, rfl⟩ := handled_of_step h next
        have found : s.stack.contains (.udp handle) = true :=
          decide_eq_true (((sound_of_run run).tables _ _).mpr
            (kind_of_udp (udp_at_eq_some.mp slot)))
        cases (handle_send src buffer tx found slot).symm.trans ok
        have there := udp_at_sent s.stack src buffer tx slot
        cases can : S.udp.can_send u with
        | true =>
          rw [can, if_pos rfl] at there
          exact (uniform_send_iff spec enqueues slot port (each _ u slot)).mp (kept _ there)
        | false =>
          -- The socket takes nothing.
          rw [sends_uniform, slot, Option.all_some, PayloadRing.takes, can]
          rfl
    | _ => rfl
  · cases stack_step h with
    | began packet now batch res action ok => cases action
    | handled e action next ok =>
      exact each.outcome (uniform_invariant spec enqueues flushes) (handle_outcome ok)
        fun handle src buffer tx u event slot uniform =>
          meets.step spec enqueues run (event ▸ next) slot uniform
    | outside socket_set socket_handles accepted_udp_sockets rx_queue =>
      intro i u hu
      rw [TcpStack.udp_at, TcpStack.socket_at, socket_set] at hu
      exact each i u hu

open Reference in
/-- A datagram opens a socket, which its user accepts. -/
def accepted_datagram : List Action := [
  .start (some (udp_packet 1 2 [7])) 0 none, .finish, .generate, .start none 0 (some 0), .event,
  .finish, .accept_udp]

open Reference in
/-- The user sends a byte to the given address. -/
def answer_to (addr : SocketAddr) : List Action :=
  accepted_datagram ++ [.call (.send ⟨⟨0, 0⟩, server_addr 2⟩ ⟨[8], 1⟩ addr), .generate,
    .start none 0 (some 0), .event]

/-- A datagram to an IPv6 address is queued at a socket that is bound to an IPv4 address, and the
next call of `drive_once` panics in the poll. -/
theorem other_version : ∃ (s : System reference) (u : Reference.Udp),
    exec step (new 64 ()) (answer_to (.v6 1 9 0 0)) = some s ∧
    s.stack.answers = [(0, .ok (.len 1))] ∧ s.stack.udp_at 0 = some u ∧
    (reference.udp.endpoint u).addr = some (.v4 0x0a000101) ∧
    reference.udp.tx_buffer u = [(⟨.v6 1, 9⟩, [8])] ∧
    s.stack.begin_drive none 0 = .error .smoltcp := by
  obtain ⟨s, hs, ht⟩ := exists_of_exec_any step (new 64 () : System reference)
    (answer_to (.v6 1 9 0 0))
    (fun s => s.stack.answers = [(0, .ok (.len 1))] ∧ s.stack.poll_panics 0 = true ∧
      (s.stack.udp_at 0).any fun u =>
      (reference.udp.endpoint u).addr = some (.v4 0x0a000101) ∧
      reference.udp.tx_buffer u = [(⟨.v6 1, 9⟩, [8])])
    (by decide +kernel)
  obtain ⟨answers, panics, ht⟩ := of_decide_eq_true ht
  obtain ⟨u, slot, ht⟩ := (Option.any_eq_true _ _).mp ht
  obtain ⟨addr, queued⟩ := of_decide_eq_true ht
  exact ⟨s, u, hs, answers, slot, addr, queued, if_pos panics⟩

open Reference in
/-- A datagram to an IPv4 address is as it should be. -/
theorem same_version_v4 : ∃ (s : System reference) (u : Reference.Udp),
    s.stack.udp_at 0 = some u ∧ reference.udp.tx_buffer u ≠ [] ∧ reference.Uniform u := by
  obtain ⟨s, hs, ht⟩ := exists_of_execIf_any step (new 64 () : System reference)
    (fun s a => decide (s.SendsUniform payload_ring a)) (answer_to (client_addr 1))
    (fun s => (s.stack.udp_at 0).any fun u => reference.udp.tx_buffer u ≠ []) (by decide +kernel)
  obtain ⟨u, slot, ht⟩ := (Option.any_eq_true _ _).mp ht
  have run : Run step (SendsUniform payload_ring) (new 64 ()) s :=
    Run.of_execIf (fun _ _ => of_decide_eq_true) hs
  exact ⟨s, u, slot, of_decide_eq_true ht,
    (same_version reference_spec reference_enqueues reference_flushes 64 ()).1 s run 0 u slot⟩

end System

end L3Extract
