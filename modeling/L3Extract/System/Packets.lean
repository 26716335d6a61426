import L3Extract.Stack.Failure
import L3Extract.System.Ready
import L3Extract.System.Requests

/-!
# What packets can do to a call

Whoever sends packets to the stack chooses all their bytes. With the `EventGenerator` there, a call
of `drive_once` in a reachable state returns `Ok` for almost all of them. There are two exceptions
(`drive_once_returns`): a SYN or a datagram to port 0, for which the call returns an error and drops
its batch, and a connection that was reset with data before its Ready was handled, for which it
panics (`ready_panics`).
-/

namespace L3Extract

open OperationEvent Transition TcpStack

variable {S : Smoltcp}

/-- The socket is closed and has data that was not read. -/
def TcpApi.ClosedUnread {Socket : Type} (api : TcpApi Socket) (c : Socket) : Prop :=
  api.state c = .closed ∧ api.recv_queue c ≠ 0

namespace System

/-! ## Invariants -/

/-- In every run `accepted_udp_sockets` agrees with the UDP sockets. -/
theorem accepted_of_run (spec : S.Spec) {size : ℕ} {interface : S.Interface}
    {guard : System S → Action → Prop} {s : System S}
    (run : Run step guard (new size interface) s) : s.stack.Accepted := by
  refine run.invariant (I := fun s => s.stack.Accepted) (accepted_new size interface)
    fun _ _ _ _ _ h accepted => ?_
  cases stack_step h with
  | began packet now batch res action ok => exact (begin_drive_cases ok).accepted spec accepted
  | handled e action next ok => exact (handle_outcome ok).accepted spec accepted
  | outside socket_set socket_handles accepted_udp_sockets rx_queue =>
    exact accepted.of_same socket_set accepted_udp_sockets

/-- Only TCP sockets are shut down. -/
theorem shutdown_tcp {size : ℕ} {interface : S.Interface} {guard : System S → Action → Prop}
    {s : System S} (run : Run step guard (new size interface) s) {h : TypedSocketHandle}
    {tx : ResultTx} (pending : .shutdown h tx ∈ s.pending) : h.protocol = .tcp :=
  pending_of_run (P := fun e => ∀ h tx, e = .shutdown h tx → h.protocol = .tcp)
    (fun _ _ _ he => by cases he) (fun _ _ _ he => by cases he)
    (fun c id h tx he => by cases c <;> cases he; rfl) run _ pending h tx rfl

/-- In every run no socket opens a connection. -/
theorem passive_of_run (spec : S.Spec) {size : ℕ} {interface : S.Interface}
    {guard : System S → Action → Prop} {s : System S}
    (run : Run step guard (new size interface) s) : s.stack.Passive := by
  refine run.invariant (I := fun s => s.stack.Passive) ?_ fun _ _ _ _ _ h passive => ?_
  · intro i c hc
    simp [new, TcpStack.new, TcpStack.tcp_at, TcpStack.socket_at] at hc
  cases stack_step h with
  | began packet now batch res action ok => exact (begin_drive_cases ok).passive spec passive
  | handled e action next ok => exact (handle_outcome ok).passive spec passive
  | outside socket_set socket_handles accepted_udp_sockets rx_queue =>
    intro i c hc
    rw [TcpStack.tcp_at, TcpStack.socket_at, socket_set] at hc
    exact passive i c hc

/-! ## Handling a batch -/

/-- Every event but a Ready is handled without a panic in a reachable state. -/
theorem handle_ok_of_next (spec : S.Spec) {size : ℕ} {interface : S.Interface} {s : System S}
    (run : Reachable step (new size interface) s) {e : OperationEvent}
    (next : s.next_event = some e) (other : ∀ h, e ≠ .ready h) :
    ∃ t, s.stack.handle e = .ok t := by
  have tables := (sound_of_run run).tables
  cases e with
  | ready h => exact absurd rfl (other h)
  | read handle buffer tx => exact handle_tcp_wake_event_ok (e := .read handle buffer tx) tables rfl
  | write handle buffer tx =>
    exact handle_tcp_wake_event_ok (e := .write handle buffer tx) tables rfl
  | recv handle buffer tx => exact handle_udp_wake_event_ok (e := .recv handle buffer tx) tables rfl
  | send handle src buffer tx =>
    exact handle_udp_wake_event_ok (e := .send handle src buffer tx) tables rfl
  | shutdown h tx =>
    exact handle_shutdown_event_ok tx tables (shutdown_tcp run (mem_pending_of_next next))
  | close h =>
    exact handle_close_event_ok tables fun u hu =>
      bound_of_run spec run _ u (udp_at_eq_some.mpr hu)

/-- `close` neither makes a socket one that was closed with data nor the other way. -/
theorem closed_unread_close (spec : S.Spec) {c : S.Tcp} (passive : S.tcp.state c ≠ .syn_sent) :
    S.tcp.ClosedUnread (S.tcp.close c) ↔ S.tcp.ClosedUnread c := by
  have queue := spec.listen_queue c
  simp only [TcpApi.ClosedUnread, spec.close_state, spec.close_queue]
  cases hs : S.tcp.state c <;> simp_all [TcpState.after_close]

/-- What comes before a Ready in a call does not make its socket one that the handler panics on, nor
the other way: only a Shutdown, sent for a socket that had the slot before, may be for the slot. -/
theorem closed_unread_of_handle (spec : S.Spec) {size : ℕ} {interface : S.Interface} {s : System S}
    (run : Reachable step (new size interface) s) {e : OperationEvent} {t : TcpStack S}
    {handle : SocketHandle} (next : s.next_event = some e) (ok : s.stack.handle e = .ok t)
    (first : e.deferred = none) (both : {e} + {.ready (.tcp handle)} ≤ s.pending) :
    (∃ c, t.tcp_at handle.index = some c ∧ S.tcp.ClosedUnread c) ↔
      ∃ c, s.stack.tcp_at handle.index = some c ∧ S.tcp.ClosedUnread c := by
  have outcome := handle_outcome ok
  have sound := sound_of_run run
  by_cases slot : handle.index = e.index
  swap
  · rw [TcpStack.tcp_at, TcpStack.tcp_at, TcpStack.socket_at, TcpStack.socket_at,
      outcome.val_of_ne slot]
  have pending : .ready (.tcp handle) ∈ s.pending :=
    Multiset.mem_of_le both (Multiset.mem_add.mpr (.inr (Multiset.mem_singleton_self _)))
  have refers := sound.owned.refers _ (mem_owners_of_pending pending rfl)
  -- An owner of the socket in this slot is the Ready itself.
  have alone : ∀ h, e.owner = some h → False := by
    intro h owner
    have heq : h = .tcp handle := by
      have slot' : h.handle.index = handle.index := by
        rw [slot]
        cases e <;> cases owner <;> rfl
      exact (sound.contains_of_next next owner).1.unique refers slot'
    exact sound.owned.not_both both (heq ▸ owner) rfl
  cases e with
  | ready h => exact (alone h rfl).elim
  | close h => exact (alone h rfl).elim
  | shutdown h tx =>
    cases shutdown_cases ok with
    | unknown gone => rfl
    | @closed handle' c found socket =>
      have slot : handle'.index = handle.index := slot.symm
      have before : s.stack.tcp_at handle.index = some c := by
        rw [← slot]
        exact tcp_at_eq_some.mpr socket
      have after : ((s.stack.register handle'.index .send (.shutdown (.tcp handle') tx)).close_tcp
          handle'.index c).tcp_at handle.index = some (S.tcp.close c) := by
        rw [tcp_at_eq_some, (wakes_close_tcp _ _ c).socket_at, socket_at_put, slot,
          socket_at_register, tcp_at_eq_some.mp before]
        simp
      simp only [before, after, Option.some.injEq, exists_eq_left']
      exact closed_unread_close spec (passive_of_run spec run _ c before)
  | _ => cases first

/-- The next event is handled without a panic, unless it is the Ready of a socket that is closed
with data. -/
theorem handle_ok_iff (spec : S.Spec) {size : ℕ} {interface : S.Interface} {s : System S}
    (run : Reachable step (new size interface) s) {e : OperationEvent}
    (next : s.next_event = some e) :
    (∃ t, s.stack.handle e = .ok t) ↔ ∀ handle c, e = .ready (.tcp handle) →
      s.stack.tcp_at handle.index = some c → ¬ S.tcp.ClosedUnread c := by
  by_cases ready : ∃ h, e = .ready h
  · obtain ⟨h, rfl⟩ := ready
    obtain ⟨⟨socket, hs, protocol⟩, ok, -⟩ := ready_handled spec run next
    rw [ok]
    cases h with
    | tcp handle =>
      refine ⟨fun all handle' c heq hc => ?_, fun all c hc => all handle c rfl hc⟩
      cases heq
      exact all c hc
    | udp handle =>
      refine iff_of_true (fun c hc => ?_) fun handle' c heq => by cases heq
      rw [hs.symm.trans (tcp_at_eq_some.mp hc) |> Option.some.inj] at protocol
      cases protocol
  · have other : ∀ h, e ≠ .ready h := fun h heq => ready ⟨h, heq⟩
    exact iff_of_true (handle_ok_of_next spec run next other) fun handle c heq =>
      absurd heq (other _)

/-- A batch is handled without a panic if and only if none of its Readys is for a socket that is
closed with data. -/
theorem handle_in_order_ok_iff (spec : S.Spec) {size : ℕ} {interface : S.Interface}
    {events : List OperationEvent} (ordered : Ordered events) {s : System S}
    (run : Reachable step (new size interface) s) (driving : s.driving = some events) :
    (∃ t, s.stack.handle_in_order events = .ok t) ↔
      ∀ handle c, .ready (.tcp handle) ∈ events → s.stack.tcp_at handle.index = some c →
        ¬ S.tcp.ClosedUnread c := by
  -- Over the events that are left; the run goes on with each that is handled.
  induction events generalizing s with
  | nil => simp [handle_in_order, pure, Except.pure]
  | cons e events ih =>
    have next : s.next_event = some e := by rw [next_event, driving]; rfl
    obtain ⟨later, rest⟩ := List.pairwise_cons.mp ordered
    have both : ∀ {e'}, e' ∈ events → {e} + {e'} ≤ s.pending := by
      intro e' he'
      rw [pending, coe_collected_of_driving driving]
      have later : {e'} ≤ (↑(s.batches.flatten ++ events) : Multiset OperationEvent) :=
        Multiset.singleton_le.mpr (Multiset.mem_coe.mpr (List.mem_append_right _ he'))
      exact (add_le_add_right later {e}).trans (Multiset.le_add_left _ _)
    have step_to : ∀ {u}, s.stack.handle e = .ok u →
        Reachable step (new size interface) { s with stack := u, driving := some events } := by
      intro u hu
      refine run.tail (a := .event) trivial ?_
      simp only [step, driving, hu]
    -- What is handled now does not change which Readys panic later.
    have same : ∀ {u handle}, s.stack.handle e = .ok u → .ready (.tcp handle) ∈ events →
        ((∃ c, u.tcp_at handle.index = some c ∧ S.tcp.ClosedUnread c) ↔
          ∃ c, s.stack.tcp_at handle.index = some c ∧ S.tcp.ClosedUnread c) := by
      intro u handle hu mem
      refine closed_unread_of_handle spec run next hu ?_ (both mem)
      cases hd : e.deferred with
      | none => rfl
      | some p => exact absurd (later _ mem (by rw [hd]; rfl)) (by simp [deferred])
    rw [handle_in_order, List.foldlM_cons]
    constructor
    · rintro ⟨t, ht⟩ handle c mem hc closed
      obtain ⟨u, hu, ht⟩ := except_bind_eq_ok.mp ht
      rcases List.mem_cons.mp mem with heq | mem
      · exact (handle_ok_iff spec run next).mp ⟨u, hu⟩ handle c heq.symm hc closed
      · obtain ⟨c', hc', closed'⟩ := (same hu mem).mpr ⟨c, hc, closed⟩
        exact (ih rest (step_to hu) rfl).mp ⟨t, ht⟩ handle c' mem hc' closed'
    · intro all
      refine exists_bind_ok ((handle_ok_iff spec run next).mpr fun handle c heq =>
        all handle c (heq ▸ List.mem_cons_self)) fun u hu => ?_
      refine (ih rest (step_to hu) rfl).mpr fun handle c' mem hc' closed' => ?_
      obtain ⟨c, hc, closed⟩ := (same hu mem).mp ⟨c', hc', closed'⟩
      exact all handle c (List.mem_cons_of_mem _ mem) hc closed

/-- The order in which `drive_once` handles a batch puts what is deferred last. -/
theorem ordered_passes (events : List OperationEvent) : Ordered (passes events) := by
  have first : ∀ {e e' : OperationEvent}, e ∈ events.filter (·.deferred = none) →
      e.deferred.isSome = true → e'.deferred.isSome = true := by
    intro e e' he some
    rw [of_decide_eq_true (List.mem_filter.mp he).2] at some
    cases some
  have last : ∀ {p : Protocol} {e e' : OperationEvent}, e' ∈ events.filter (·.deferred = some p) →
      e.deferred.isSome = true → e'.deferred.isSome = true := by
    intro p e e' he' _
    rw [of_decide_eq_true (List.mem_filter.mp he').2]
    rfl
  refine List.pairwise_append.mpr ⟨List.pairwise_append.mpr ⟨?_, ?_, ?_⟩, ?_, ?_⟩
  · exact List.Pairwise.imp_of_mem (fun he _ _ => first he)
      (List.pairwise_of_forall fun _ _ => trivial)
  · exact List.Pairwise.imp_of_mem (fun _ he' _ => last he')
      (List.pairwise_of_forall fun _ _ => trivial)
  · exact fun e he e' he' => last he'
  · exact List.Pairwise.imp_of_mem (fun _ he' _ => last he')
      (List.pairwise_of_forall fun _ _ => trivial)
  · exact fun e he e' he' => last he'

/-- What is left of the batch of the running call is in that order. -/
theorem ordered_of_run {size : ℕ} {interface : S.Interface} {guard : System S → Action → Prop}
    {s : System S} (run : Run step guard (new size interface) s) {events : List OperationEvent}
    (driving : s.driving = some events) : Ordered events := by
  have all : ∀ events, s.driving = some events → Ordered events := by
    refine run.invariant (I := fun s => ∀ events, s.driving = some events → Ordered events)
      (fun _ hd => by cases hd) fun _ _ _ _ _ h ordered => ?_
    cases call_step h with
    | started packet now batch events batches stack res action rest took ok eq =>
      subst eq
      intro events' hd
      cases res with
      | error err => cases hd
      | ok done =>
        -- `drive_once` puts the events of the batch in the order of its passes.
        cases hd
        exact ordered_passes _
    | handled e events stack action driving ok eq =>
      subst eq
      intro events' hd
      cases hd
      exact (List.pairwise_cons.mp (ordered _ driving)).2
    | beside driving =>
      intro events' hd
      rcases driving with same | none
      · exact ordered _ (same ▸ hd)
      · rw [none] at hd
        cases hd
  exact all events driving

/-! ## A call with a packet -/

/-- In a reachable state with the `EventGenerator` there, a call of `drive_once` with any packet
that has a byte and with a batch that `generate` returned goes through its batch and returns `Ok`,
if and only if the packet does not open a socket on port 0, smoltcp does not panic in the poll, and
no Ready of the batch is for a TCP socket that the poll leaves closed with data. -/
theorem drive_once_returns (spec : S.Spec) {size : ℕ} {interface : S.Interface} {s : System S}
    (run : Reachable step (new size interface) s)
    (connected : s.stack.operation_event.connected = true) (rest : s.driving = none)
    {batch : Option ℕ} {events : List OperationEvent} {batches : List (List OperationEvent)}
    (took : s.take_batch batch = some (events, batches)) {given : Option (List OperationEvent)}
    (gives : given.getD [] = events) {packet : Packet} (filled : packet ≠ []) (now : ℕ) :
    (∃ t r, s.stack.drive_once (some packet) now given = .ok (t, .ok r)) ↔
      to_port_zero packet = false ∧
      ∀ u, s.stack.receive packet = .ok (u, .ok ()) → u.poll_panics now = false ∧
        ∀ handle c, .ready (.tcp handle) ∈ events → (u.poll now).tcp_at handle.index = some c →
          ¬ S.tcp.ClosedUnread c := by
  obtain ⟨u, res, received, hres⟩ :=
    receive_ok spec (accepted_of_run spec run) connected filled
  rw [← hres, drive_once_ok_iff, gives]
  -- The batch is handled from a state that is reached.
  have handles : res = .ok () → u.poll_panics now = false →
      ((∃ v, (u.poll now).handle_in_order (passes events) = .ok v) ↔
        ∀ handle c, .ready (.tcp handle) ∈ events → (u.poll now).tcp_at handle.index = some c →
          ¬ S.tcp.ClosedUnread c) := by
    rintro rfl safe
    have begins : s.stack.begin_drive (some packet) now = .ok (u.poll now, .ok ()) :=
      begin_drive_ok_iff.mpr ⟨u, received, safe, rfl⟩
    set r : System S := { s with stack := u.poll now, batches, driving := some (passes events) }
    have reached : Reachable step (new size interface) r := by
      refine run.tail (a := .start (some packet) now batch) trivial ?_
      simp only [step, rest, took, begins]
      rfl
    have := handle_in_order_ok_iff spec (ordered_passes events) reached rfl
    simpa only [(passes_perm events).mem_iff] using this
  constructor
  · rintro ⟨v, w, begins, handled⟩
    obtain ⟨u', received', safe, rfl⟩ := begin_drive_ok_iff.mp begins
    cases received.symm.trans received'
    refine ⟨rfl, fun u' received' => ?_⟩
    cases received.symm.trans received'
    exact ⟨safe, (handles rfl safe).mp ⟨w, handled⟩⟩
  · rintro ⟨rfl, all⟩
    obtain ⟨safe, open_⟩ := all u received
    obtain ⟨w, handled⟩ := (handles rfl safe).mpr open_
    exact ⟨u.poll now, w, begin_drive_ok_iff.mpr ⟨u, received, safe, rfl⟩, handled⟩

open Reference in
/-- A SYN to port 0 makes a call fail that was given the batch with a connection's Ready. -/
theorem packet_stops_call : ∃ (s : System reference) (t : TcpStack reference),
    exec step (new 64 ()) (opened_connection ++ [.generate]) = some s ∧
    s.stack.operation_event.connected = true ∧ s.driving = none ∧
    s.take_batch (some 0) = some ([.ready (.tcp ⟨0, 0⟩)], []) ∧
    s.stack.drive_once (some (syn 1 0)) 0 (some [.ready (.tcp ⟨0, 0⟩)]) =
      .ok (t, .error (.listen .unaddressable)) := by
  obtain ⟨s, hs, ht⟩ := exists_of_exec_any step (new 64 () : System reference)
    (opened_connection ++ [.generate])
    (fun s => s.stack.operation_event.connected = true ∧ s.driving = none ∧
      s.take_batch (some 0) = some ([.ready (.tcp ⟨0, 0⟩)], []) ∧
      loses_ready s.stack = true) (by decide +kernel)
  obtain ⟨connected, rest, took, fails⟩ := of_decide_eq_true ht
  obtain ⟨⟨t, res⟩, hv, hr⟩ := exists_of_toOption_any fails
  obtain rfl : res = _ := (of_decide_eq_true hr).1
  exact ⟨s, t, hs, connected, rest, took, hv⟩

open Reference in
/-- A call with data for a connection and the batch with its Ready returns `Ok`. -/
theorem drive_once_returns_data : ∃ (s : System reference) (t : TcpStack reference)
    (r : List Packet × Option ℕ),
    s.stack.drive_once (some (ack 1 2 [7])) 0 (some [.ready (.tcp ⟨0, 0⟩)]) = .ok (t, .ok r) := by
  obtain ⟨s, hs, ht⟩ := exists_of_exec_any step (new 64 () : System reference)
    (opened_connection ++ [.generate])
    (fun s => s.stack.operation_event.connected = true ∧ s.driving = none ∧
      s.take_batch (some 0) = some ([.ready (.tcp ⟨0, 0⟩)], []) ∧
      ((s.stack.receive (ack 1 2 [7])).toOption.any fun r => r.1.poll_panics 0 = false ∧
        ((r.1.poll 0).tcp_at 0).map reference.tcp.state = some .established) = true)
    (by decide +kernel)
  obtain ⟨connected, rest, took, received⟩ := of_decide_eq_true ht
  obtain ⟨⟨u, res⟩, hu, polled⟩ := exists_of_toOption_any received
  obtain ⟨safe, state⟩ : u.poll_panics 0 = false ∧
      ((u.poll 0).tcp_at 0).map reference.tcp.state = some .established := of_decide_eq_true polled
  have returns : ∃ t r, s.stack.drive_once (some (ack 1 2 [7])) 0
      (some [.ready (.tcp ⟨0, 0⟩)]) = .ok (t, .ok r) := by
    refine (drive_once_returns reference_spec (Run.of_exec hs) connected rest took rfl
      (by decide) 0).mpr ⟨by decide +kernel, fun u' hu' => ?_⟩
    rw [hu] at hu'
    cases hu'
    refine ⟨safe, fun handle c mem hc closed => ?_⟩
    obtain ⟨rfl⟩ : handle = ⟨0, 0⟩ := by simpa using mem
    have hc : (u.poll 0).tcp_at 0 = some c := hc
    rw [hc, Option.map_some, closed.1] at state
    cases state
  obtain ⟨t, r, ok⟩ := returns
  exact ⟨s, t, r, ok⟩

end System

end L3Extract
