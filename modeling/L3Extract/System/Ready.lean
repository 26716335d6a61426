import L3Extract.Stack.Sockets
import L3Extract.System.Retention

/-!
# Delivering a socket

The handler of a Ready sends a TCP socket to the acceptor when the socket may receive. This test
stands for "the handshake is done", and it is not the same. A peer that sends data and then a RST
leaves a socket that is closed, has no endpoints any more, and may still be read: the handler panics
(`ready_panics`). A peer that sends a FIN at once leaves a socket in CLOSE-WAIT that may not be
read: the handler waits for a change that does not come (`ready_stuck`).

`ready_handled` and `handshake_delivered` say that these are the only inputs on which the handler
fails.
-/

namespace L3Extract

open OperationEvent Transition TcpStack

variable {S : Smoltcp}

namespace System

/-! ## Invariants of the sockets -/

/-- The receive queue is empty in every run. -/
theorem drained_of_run {size : ℕ} {interface : S.Interface} {guard : System S → Action → Prop}
    {s : System S} (run : Run step guard (new size interface) s) : s.stack.Drained := by
  refine run.invariant (I := fun s => s.stack.Drained) rfl fun _ _ _ _ _ h drained => ?_
  cases stack_step h with
  | began packet now batch res action ok => exact (begin_drive_cases ok).drained drained
  | handled e action next ok => exact (handle_outcome ok).drained drained
  | outside socket_set socket_handles accepted_udp_sockets rx_queue => exact rx_queue.trans drained

/-- In every run the UDP sockets are bound. -/
theorem bound_of_run (spec : S.Spec) {size : ℕ} {interface : S.Interface}
    {guard : System S → Action → Prop} {s : System S}
    (run : Run step guard (new size interface) s) : s.stack.Bound := by
  refine run.invariant (I := fun s => s.stack.Bound) ?_ fun _ _ _ _ _ h bound => ?_
  · intro i u hu
    simp [new, TcpStack.new, TcpStack.udp_at, TcpStack.socket_at] at hu
  cases stack_step h with
  | began packet now batch res action ok => exact (begin_drive_cases ok).bound spec bound
  | handled e action next ok => exact (handle_outcome ok).bound spec bound
  | outside socket_set socket_handles accepted_udp_sockets rx_queue =>
    intro i u hu
    rw [TcpStack.udp_at, TcpStack.socket_at, socket_set] at hu
    exact bound i u hu

/-- A TCP socket that is past its handshake, or was removed. -/
structure Completed (handle : SocketHandle) (s : System S) : Prop where
  old : handle.incarnation < s.stack.socket_set.next
  opening : s.stack.socket_set.gen handle.index = some handle.incarnation →
    ∀ c, s.stack.tcp_at handle.index = some c → (S.tcp.state c).opening = false

/-- The handshake of a socket is done once. -/
theorem Completed.step (spec : S.Spec) {s s' : System S} {a : Action} {handle : SocketHandle}
    (drained : s.stack.Drained) (h : s.step a = some s') (completed : Completed handle s) :
    Completed handle s' := by
  have ownership := ownership_of_effect (effect_of_steps (steps_of_step h))
  refine ⟨completed.old.trans_le (next_le_of_ownership ownership), fun live c' hc' => ?_⟩
  have was := (gen_of_ownership ownership completed.old live).1
  cases stack_step h with
  | began packet now batch res action ok =>
    have there : handle.index ≠ s.stack.socket_set.free := by
      intro hi
      rw [hi, Arena.gen_free] at was
      cases was
    obtain ⟨c, hc, rfl | polled⟩ := (begin_drive_cases ok).tcp_at spec drained hc' there
    · exact completed.opening was _ hc
    · exact polled.opening (completed.opening was c hc)
  | handled e action next ok =>
    obtain ⟨c, hc, handled⟩ := (handle_outcome ok).tcp_at spec hc'
    exact handled.opening spec.close_state (completed.opening was c hc)
  | outside socket_set socket_handles accepted_udp_sockets rx_queue =>
    rw [TcpStack.tcp_at, TcpStack.socket_at, socket_set] at hc'
    exact completed.opening was c' hc'

/-! ## The test of the handler -/

/-- A socket that passes the test has both endpoints, unless it is closed with data left. -/
theorem endpoints_of_may_recv (spec : S.Spec) (c : S.Tcp) :
    (S.tcp.may_recv c = true → (S.tcp.remote_endpoint c).isSome = true ∧
      (S.tcp.local_endpoint c).isSome = true) ↔
      ¬ (S.tcp.state c = .closed ∧ S.tcp.recv_queue c ≠ 0) := by
  rw [spec.may_recv, spec.remote_endpoint, spec.local_endpoint, and_self]
  constructor
  · rintro h ⟨state, queue⟩
    have := h (.inr queue)
    rw [state] at this
    cases this
  · rintro h (receiving | queue)
    · cases hs : S.tcp.state c <;> simp_all [TcpState.receiving, TcpState.connected]
    · have hclosed : S.tcp.state c ≠ .closed := fun hs => h ⟨hs, queue⟩
      have hlisten : S.tcp.state c ≠ .listen := fun hs => queue (spec.listen_queue c hs)
      simp [TcpState.connected, hclosed, hlisten]

/-- What the handler of a Ready does with a TCP socket. -/
theorem handle_ready_tcp {t : TcpStack S} {handle : SocketHandle} {c : S.Tcp}
    (socket : t.socket_at handle.index = some (.tcp c)) :
    t.handle (.ready (.tcp handle)) =
      if S.tcp.may_recv c = false then .ok (t.register handle.index .recv (.ready (.tcp handle)))
      else match S.tcp.remote_endpoint c, S.tcp.local_endpoint c with
        | none, _ => .error .no_local_addr
        | some _, none => .error .no_remote_addr
        | some local_addr, some remote_addr => .ok { t with
            tcp_stream := t.tcp_stream.send
              ⟨handle, local_addr.socket_addr, remote_addr.socket_addr⟩ } := by
  have hget : t.get_tcp handle = .ok c := get_tcp_eq_ok.mpr socket
  simp only [TcpStack.handle, handle_ready_wake_event, hget, bind, Except.bind]
  cases S.tcp.may_recv c with
  | false => rfl
  | true => rfl

/-- The handler of a Ready does not panic on a bound UDP socket. -/
theorem handle_ready_udp {t : TcpStack S} {handle : SocketHandle} {u : S.Udp}
    (socket : t.socket_at handle.index = some (.udp u))
    (bound : (S.udp.endpoint u).addr.isSome = true) :
    ∃ t', t.handle (.ready (.udp handle)) = .ok t' := by
  obtain ⟨ip, hip⟩ := Option.isSome_iff_exists.mp bound
  have hget : t.get_udp handle = .ok u := get_udp_eq_ok.mpr socket
  simp only [TcpStack.handle, handle_ready_wake_event, hget, bind, Except.bind, hip]
  exact ⟨_, rfl⟩

/-- How the handler of a Ready ends for a TCP socket: parked if the socket may not receive, else
delivered, or in a panic if it is closed. -/
inductive ReadyCases (t : TcpStack S) (handle : SocketHandle) (c : S.Tcp) :
    Except Panic (TcpStack S) → Prop
  | parked (receiving : (S.tcp.state c).receiving = false) (drained : S.tcp.recv_queue c = 0) :
      ReadyCases t handle c (.ok (t.register handle.index .recv (.ready (.tcp handle))))
  | panics (closed : S.tcp.state c = .closed) (unread : S.tcp.recv_queue c ≠ 0) (panic : Panic) :
      ReadyCases t handle c (.error panic)
  | delivered (info : TcpInfo) (is : info.handle = handle) (open_ : S.tcp.state c ≠ .closed)
      (receives : (S.tcp.state c).receiving = true ∨ S.tcp.recv_queue c ≠ 0) :
      ReadyCases t handle c (.ok { t with tcp_stream := t.tcp_stream.send info })

/-- What handling the Ready of a TCP socket comes to. -/
theorem ready_cases (spec : S.Spec) {t : TcpStack S} {handle : SocketHandle} {c : S.Tcp}
    (socket : t.socket_at handle.index = some (.tcp c)) :
    ReadyCases t handle c (t.handle (.ready (.tcp handle))) := by
  have may_recv := spec.may_recv c
  have endpoints := endpoints_of_may_recv spec c
  rw [handle_ready_tcp socket]
  cases hm : S.tcp.may_recv c with
  | false =>
    have neither : ¬ ((S.tcp.state c).receiving = true ∨ S.tcp.recv_queue c ≠ 0) := fun h => by
      rw [may_recv.mpr h] at hm
      cases hm
    rw [not_or, Bool.not_eq_true, not_not] at neither
    rw [if_pos rfl]
    exact .parked neither.1 neither.2
  | true =>
    rw [if_neg (by simp)]
    have receives := may_recv.mp hm
    by_cases closed : S.tcp.state c = .closed
    · have unread : S.tcp.recv_queue c ≠ 0 := by
        rw [closed] at receives
        exact receives.resolve_left (by simp [TcpState.receiving])
      have gone : S.tcp.remote_endpoint c = none := by
        have remote := spec.remote_endpoint c
        rw [closed] at remote
        simpa [TcpState.connected] using remote
      simp only [gone]
      exact .panics closed unread _
    · obtain ⟨remote, local_⟩ := endpoints.mpr (fun h => closed h.1) hm
      obtain ⟨r, hr⟩ := Option.isSome_iff_exists.mp remote
      obtain ⟨l, hl⟩ := Option.isSome_iff_exists.mp local_
      simp only [hr, hl]
      exact .delivered ⟨handle, r.socket_addr, l.socket_addr⟩ rfl closed receives

/-- The handler of a Ready panics exactly on a closed TCP socket with data left. -/
theorem handle_ready_ok (spec : S.Spec) {t : TcpStack S} {handle : SocketHandle} {c : S.Tcp}
    (socket : t.socket_at handle.index = some (.tcp c)) :
    (∃ t', t.handle (.ready (.tcp handle)) = .ok t') ↔
      ¬ (S.tcp.state c = .closed ∧ S.tcp.recv_queue c ≠ 0) := by
  have ready := ready_cases spec socket
  generalize t.handle (.ready (.tcp handle)) = result at ready
  cases ready with
  | parked receiving drained => exact iff_of_true ⟨_, rfl⟩ fun h => h.2 drained
  | panics closed unread panic =>
    exact iff_of_false (by rintro ⟨t', ok⟩; cases ok) fun h => h ⟨closed, unread⟩
  | delivered info is open_ receives => exact iff_of_true ⟨_, rfl⟩ fun h => open_ h.1

/-! ## Panics -/

/-- When a Ready is handled in a reachable state, there is a live socket of its kind. The handler
panics exactly when this is a TCP socket that is closed with data in its receive buffer. -/
theorem ready_handled (spec : S.Spec) {size : ℕ} {interface : S.Interface} {s : System S}
    (run : Reachable step (new size interface) s) {h : TypedSocketHandle}
    (next : s.next_event = some (.ready h)) :
    (∃ socket, s.stack.socket_at h.handle.index = some socket ∧ socket.protocol = h.protocol) ∧
    ((∃ t, s.stack.handle (.ready h) = .ok t) ↔ ∀ c, s.stack.tcp_at h.handle.index = some c →
      ¬ (S.tcp.state c = .closed ∧ S.tcp.recv_queue c ≠ 0)) ∧
    (∀ c, s.stack.tcp_at h.handle.index = some c →
      ((S.tcp.may_recv c = true → (S.tcp.remote_endpoint c).isSome = true ∧
        (S.tcp.local_endpoint c).isSome = true) ↔
        ¬ (S.tcp.state c = .closed ∧ S.tcp.recv_queue c ≠ 0))) ∧
    ∀ u, s.stack.udp_at h.handle.index = some u → (S.udp.endpoint u).addr.isSome = true := by
  have refers := ((sound_of_run run).contains_of_next next rfl).1
  have bound := bound_of_run spec run
  refine ⟨Option.map_eq_some_iff.mp refers.2, ?_, fun c _ => endpoints_of_may_recv spec c,
    bound h.handle.index⟩
  cases h with
  | tcp handle =>
    obtain ⟨c, hc⟩ := tcp_of_kind refers.2
    have hc : s.stack.socket_at handle.index = some (.tcp c) := hc
    rw [handle_ready_ok spec hc]
    rw [show s.stack.tcp_at (TypedSocketHandle.tcp handle).handle.index = some c from
      tcp_at_eq_some.mpr hc]
    simp
  | udp handle =>
    obtain ⟨u, hu⟩ := udp_of_kind refers.2
    have hnone : s.stack.tcp_at handle.index = none := by
      have hu : s.stack.socket_at handle.index = some (.udp u) := hu
      rw [TcpStack.tcp_at, hu]
    refine iff_of_true (handle_ready_udp hu (bound _ u (udp_at_eq_some.mpr hu))) fun c hc => ?_
    cases hnone.symm.trans hc

/-- The panic of a handler. -/
def panic_at (s : System S) (e : OperationEvent) : Option Panic :=
  match s.stack.handle e with
  | .ok _ => none
  | .error panic => some panic

open Reference in
/-- A client opens a connection, sends a byte and a RST, and then its Ready is handled. -/
def reset_before_ready : List Action := [
  .start (some (syn 1 2)) 0 none, .finish, .start (some (ack 1 2 [7])) 0 none, .finish,
  .start (some (rst 1 2)) 0 none, .finish, .generate, .start none 0 (some 0)]

/-- The handler panics, as the socket may be read and has no endpoints. -/
theorem ready_panics : ∃ s : System reference,
    exec step (new 64 ()) reset_before_ready = some s ∧
    s.next_event = some (.ready (.tcp ⟨0, 0⟩)) ∧
    s.panic_at (.ready (.tcp ⟨0, 0⟩)) = some .no_local_addr := by
  obtain ⟨s, hs, ht⟩ := exists_of_exec_any step (new 64 () : System reference)
    reset_before_ready (fun s => s.next_event = some (.ready (.tcp ⟨0, 0⟩)) ∧
      s.panic_at (.ready (.tcp ⟨0, 0⟩)) = some .no_local_addr)
    (by decide +kernel)
  exact ⟨s, hs, of_decide_eq_true ht⟩

open Reference in
/-- A connection that was not reset is delivered. -/
theorem ready_handled_established : ∃ s : System reference,
    s.next_event = some (.ready (.tcp ⟨0, 0⟩)) ∧
    ((∃ t, s.stack.handle (.ready (.tcp ⟨0, 0⟩)) = .ok t) ↔ ∀ c, s.stack.tcp_at 0 = some c →
      ¬ (reference.tcp.state c = .closed ∧ reference.tcp.recv_queue c ≠ 0)) := by
  obtain ⟨s, hs, ht⟩ := exists_of_exec_any step (new 64 () : System reference)
    [.start (some (syn 1 2)) 0 none, .finish, .start (some (ack 1 2 [7])) 0 none, .finish,
      .generate, .start none 0 (some 0)]
    (fun s => s.next_event = some (.ready (.tcp ⟨0, 0⟩))) (by decide +kernel)
  have next : s.next_event = some (.ready (.tcp ⟨0, 0⟩)) := of_decide_eq_true ht
  exact ⟨s, next, (ready_handled reference_spec (Run.of_exec hs) next).2.1⟩

/-! ## Deliveries -/

/-- The Ready delivers or removes its socket exactly when there is an acceptor and the socket is
open and may receive. -/
theorem ready_delivers_iff (spec : S.Spec) {t : TcpStack S} {handle : SocketHandle} {c : S.Tcp}
    (socket : t.socket_at handle.index = some (.tcp c))
    (live : t.socket_set.gen handle.index ≠ none) :
    (∃ t', t.handle (.ready (.tcp handle)) = .ok t' ∧
      ((∃ info, info.handle = handle ∧ t'.tcp_stream.queue = t.tcp_stream.queue ++ [info]) ∨
        t'.socket_set.gen handle.index = none)) ↔
      t.tcp_stream.connected = true ∧ S.tcp.state c ≠ .closed ∧
        ((S.tcp.state c).receiving = true ∨ S.tcp.recv_queue c ≠ 0) := by
  have ready := ready_cases spec socket
  generalize t.handle (.ready (.tcp handle)) = result at ready
  cases ready with
  | parked receiving drained =>
    refine iff_of_false ?_ fun h => h.2.2.elim (by simp [receiving]) fun h => h drained
    rintro ⟨t', ok, ⟨info, -, queue⟩ | gone⟩
    · cases ok
      simp [TcpStack.register] at queue
    · cases ok
      rw [(same_register t _ _ _).gen] at gone
      exact live gone
  | panics closed unread panic =>
    exact iff_of_false (by rintro ⟨t', ok, -⟩; cases ok) fun h => h.2.1 closed
  | delivered info is open_ receives =>
    constructor
    · rintro ⟨t', ok, ⟨info', -, queue⟩ | gone⟩
      · cases ok
        refine ⟨?_, open_, receives⟩
        by_contra deaf
        simp [Channel.send, deaf] at queue
      · cases ok
        exact absurd gone live
    · rintro ⟨hears, -⟩
      exact ⟨_, rfl, .inl ⟨info, is, by simp [Channel.send, hears]⟩⟩

/-- The Ready is parked exactly when the socket may not receive. -/
theorem ready_parks_iff (spec : S.Spec) {t : TcpStack S} {handle : SocketHandle} {c : S.Tcp}
    (socket : t.socket_at handle.index = some (.tcp c))
    (unparked : t.waker handle.index .recv ≠ some (.ready (.tcp handle))) :
    (∃ t', t.handle (.ready (.tcp handle)) = .ok t' ∧
      t'.waker handle.index .recv = some (.ready (.tcp handle))) ↔
      (S.tcp.state c).receiving = false ∧ S.tcp.recv_queue c = 0 := by
  have ready := ready_cases spec socket
  generalize t.handle (.ready (.tcp handle)) = result at ready
  cases ready with
  | parked receiving drained =>
    refine iff_of_true ⟨_, rfl, ?_⟩ ⟨receiving, drained⟩
    rw [waker_register, if_pos ⟨rfl, rfl, Option.isSome_of_eq_some socket⟩]
  | panics closed unread panic =>
    exact iff_of_false (by rintro ⟨t', ok, -⟩; cases ok) fun h => unread h.2
  | delivered info is open_ receives =>
    refine iff_of_false ?_ fun h => receives.elim (by simp [h.1]) fun unread => unread h.2
    rintro ⟨t', ok, parked⟩
    cases ok
    exact unparked parked

/-- When the Ready of a TCP socket is handled in a reachable state, and the socket was past its
handshake at some earlier time, then it still is. The handler sends it to the acceptor, or removes
it, exactly when the acceptor is there and the socket may receive and is not closed. It parks the
Ready exactly when the socket may not receive. -/
theorem handshake_delivered (spec : S.Spec) {size : ℕ} {interface : S.Interface}
    {s₀ s : System S} {handle : SocketHandle} {c₀ : S.Tcp}
    (reached : Reachable step (new size interface) s₀)
    (there : s₀.stack.socket_set.gen handle.index = some handle.incarnation)
    (socket : s₀.stack.tcp_at handle.index = some c₀)
    (completed : (S.tcp.state c₀).opening = false) (run : Reachable step s₀ s)
    (next : s.next_event = some (.ready (.tcp handle))) :
    ∃ c, s.stack.tcp_at handle.index = some c ∧ (S.tcp.state c).opening = false ∧
      ((∃ t, s.stack.handle (.ready (.tcp handle)) = .ok t ∧
        ((∃ info, info.handle = handle ∧
          t.tcp_stream.queue = s.stack.tcp_stream.queue ++ [info]) ∨
          t.socket_set.gen handle.index = none)) ↔
        s.stack.tcp_stream.connected = true ∧ S.tcp.state c ≠ .closed ∧
          ((S.tcp.state c).receiving = true ∨ S.tcp.recv_queue c ≠ 0)) ∧
      ((∃ t, s.stack.handle (.ready (.tcp handle)) = .ok t ∧
        t.waker handle.index .recv = some (.ready (.tcp handle))) ↔
        (S.tcp.state c).receiving = false ∧ S.tcp.recv_queue c = 0) := by
  have sound := sound_of_run (reached.trans run)
  have start : Completed handle s₀ := ⟨Arena.gen_lt_next there, fun _ c hc => by
    rw [socket] at hc
    cases hc
    exact completed⟩
  -- A socket does not go back to its handshake.
  have past : Completed handle s := run.invariant start fun _ _ _ hr _ h completed =>
    completed.step spec (drained_of_run (reached.trans hr)) h
  have refers : s.stack.Refers (.tcp handle) := (sound.contains_of_next next rfl).1
  obtain ⟨c, hc⟩ := tcp_of_kind refers.2
  have hc : s.stack.socket_at handle.index = some (.tcp c) := hc
  have opening := past.opening refers.1 c (tcp_at_eq_some.mpr hc)
  have live : s.stack.socket_set.gen handle.index ≠ none := by
    rw [show s.stack.socket_set.gen handle.index = _ from refers.1]
    simp
  -- The Ready that is being handled is in no waker.
  have unparked : s.stack.waker handle.index .recv ≠ some (.ready (.tcp handle)) := fun hw =>
    sound.owned.not_pending_of_next next rfl (mem_pending_of_waker hw)
  exact ⟨c, tcp_at_eq_some.mpr hc, opening, ready_delivers_iff spec hc live,
    ready_parks_iff spec hc unparked⟩

open Reference in
/-- A client opens a connection, and sends a FIN before the Ready is handled: first the actions up
to the end of the handshake, then those up to the Ready. -/
def opened_connection : List Action :=
  [.start (some (syn 1 2)) 0 none, .finish, .start (some (ack 1 2 [])) 0 none, .finish]

open Reference in
/-- The Ready is parked on a socket in CLOSE-WAIT, and nothing is sent to the acceptor. -/
theorem ready_stuck : ∃ s₀ s t : System reference,
    exec step (new 64 ()) opened_connection = some s₀ ∧ s₀.stack.socket_set.gen 0 = some 0 ∧
    (s₀.stack.tcp_at 0).map reference.tcp.state = some .established ∧
    exec step s₀ [.start (some (fin 1 2)) 0 none, .finish, .generate, .start none 0 (some 0)] =
      some s ∧
    s.next_event = some (.ready (.tcp ⟨0, 0⟩)) ∧ s.step .event = some t ∧
    (t.stack.tcp_at 0).map reference.tcp.state = some .close_wait ∧
    t.stack.waker 0 .recv = some (.ready (.tcp ⟨0, 0⟩)) ∧ t.stack.tcp_stream.sent = [] := by
  obtain ⟨s₀, hs₀, ht⟩ := exists_of_exec_any step (new 64 () : System reference)
    opened_connection
    (fun s₀ => s₀.stack.socket_set.gen 0 = some 0 ∧
      (s₀.stack.tcp_at 0).map reference.tcp.state = some .established ∧
      (exec step s₀ [.start (some (fin 1 2)) 0 none, .finish, .generate,
        .start none 0 (some 0)]).any fun s =>
          s.next_event = some (.ready (.tcp ⟨0, 0⟩)) ∧ (s.step .event).any fun t =>
            (t.stack.tcp_at 0).map reference.tcp.state = some .close_wait ∧
            t.stack.waker 0 .recv = some (.ready (.tcp ⟨0, 0⟩)) ∧ t.stack.tcp_stream.sent = [])
    (by decide +kernel)
  obtain ⟨there, established, ht⟩ := of_decide_eq_true ht
  obtain ⟨s, hs, ht⟩ := (Option.any_eq_true _ _).mp ht
  obtain ⟨next, ht⟩ := of_decide_eq_true ht
  obtain ⟨t, handled, ht⟩ := (Option.any_eq_true _ _).mp ht
  exact ⟨s₀, s, t, hs₀, there, established, hs, next, handled, of_decide_eq_true ht⟩

/-- A connection without a FIN is delivered. -/
theorem handshake_delivered_established : ∃ (s₀ s : System reference) (c₀ c : reference.Tcp),
    exec step (new 64 ()) opened_connection = some s₀ ∧ s₀.stack.tcp_at 0 = some c₀ ∧
    exec step s₀ [.generate, .start none 0 (some 0)] = some s ∧ s.stack.tcp_at 0 = some c ∧
    (reference.tcp.state c).opening = false := by
  obtain ⟨s₀, hs₀, ht⟩ := exists_of_exec_any step (new 64 () : System reference)
    opened_connection
    (fun s₀ => s₀.stack.socket_set.gen 0 = some 0 ∧
      ((s₀.stack.tcp_at 0).any fun c => !(reference.tcp.state c).opening) ∧
      (exec step s₀ [.generate, .start none 0 (some 0)]).any fun s =>
        s.next_event = some (.ready (.tcp ⟨0, 0⟩)))
    (by decide +kernel)
  obtain ⟨there, hc₀, ht⟩ := of_decide_eq_true ht
  obtain ⟨c₀, socket, completed⟩ := (Option.any_eq_true _ _).mp hc₀
  obtain ⟨s, hs, ht⟩ := (Option.any_eq_true _ _).mp ht
  have next : s.next_event = some (.ready (.tcp ⟨0, 0⟩)) := of_decide_eq_true ht
  obtain ⟨c, hc, opening, -⟩ := handshake_delivered reference_spec (Run.of_exec hs₀) there socket
    (by simpa using completed) (Run.of_exec hs) next
  exact ⟨s₀, s, c₀, c, hs₀, socket, hs, hc, opening⟩

end System

end L3Extract
