import L3Extract.Stack.Unrest
import L3Extract.System.Packets
import L3Extract.System.Shutdown

/-!
# The driver comes to rest

When no packet arrives, the clock stands still, and no user asks for anything, the caller alternates
`EventGenerator::generate` and `drive_once(None, batch)`. Events that have to wait are parked and
come back, and closing a socket sends what is parked at it; still the rounds make less and less of
what there is (`round_falls`), and after finitely many of them the channel is empty.

They go on that far unless one of them panics: `comes_to_rest` says that this happens exactly in a
poll of smoltcp and at the Ready of a TCP socket that is closed with unread data (`never_rests`),
and that there are no such Readys later when there are none at first.
-/

namespace L3Extract

open OperationEvent Transition TcpStack

variable {S : Smoltcp}

/-! ## Sockets that are closed with unread data -/

/-- `recv_slice` leaves no data where there was none. -/
theorem TcpApi.Receives.recv_queue (spec : S.Spec) {c : S.Tcp} {len : ℕ}
    (left : S.tcp.recv_queue (S.tcp.recv_slice c len).1 ≠ 0) : S.tcp.recv_queue c ≠ 0 := by
  have receives := spec.recv_slice_buffers c len
  rw [spec.recv_queue] at left ⊢
  intro none
  have empty := List.eq_nil_of_length_eq_zero none
  refine left (List.length_eq_zero_iff.mpr ?_)
  cases res : (S.tcp.recv_slice c len).2 with
  | ok data => rw [(receives.ok data res).2, empty, List.drop_nil]
  | error err => exact (receives.error err res).2

namespace TcpStack

/-- None of the events is the Ready of a TCP socket that is closed and has data that was not
read. -/
def NoneUnread (t : TcpStack S) (events : Multiset OperationEvent) : Prop :=
  ∀ handle c, .ready (.tcp handle) ∈ events → t.tcp_at handle.index = some c →
    ¬ S.tcp.ClosedUnread c

/-- Of fewer events none is such a Ready either. -/
theorem NoneUnread.mono {t : TcpStack S} {events events' : Multiset OperationEvent}
    (none : t.NoneUnread events) (le : events' ≤ events) : t.NoneUnread events' :=
  fun handle c mem => none handle c (Multiset.mem_of_le le mem)

/-- When no socket comes to be closed with unread data, no Ready comes to be that of one. -/
theorem NoneUnread.of_sockets {t t' : TcpStack S} {events : Multiset OperationEvent}
    (none : t.NoneUnread events) (old : ∀ i c', t'.tcp_at i = some c' → S.tcp.ClosedUnread c' →
      ∃ c, t.tcp_at i = some c ∧ S.tcp.ClosedUnread c) : t'.NoneUnread events := by
  intro handle c' mem slot closed
  obtain ⟨c, slot, closed⟩ := old handle.index c' slot closed
  exact none handle c mem slot closed

/-- A handler brings no socket to be closed with unread data. -/
theorem Outcome.closed_unread (spec : S.Spec) {t t' : TcpStack S} {e : OperationEvent}
    (outcome : Outcome t e t') (passive : t.Passive) (i : ℕ) (c' : S.Tcp)
    (slot : t'.tcp_at i = some c') (closed : S.tcp.ClosedUnread c') :
    ∃ c, t.tcp_at i = some c ∧ S.tcp.ClosedUnread c := by
  rcases outcome.socket_at (tcp_at_eq_some.mp slot) with same | ⟨s, memory, a, hs, serves⟩ |
    ⟨c, hs, heq⟩
  · exact ⟨c', tcp_at_eq_some.mpr same, closed⟩
  · obtain ⟨state, left⟩ := closed
    cases serves with
    | @write handle buffer tx c can_send =>
      refine ⟨c, tcp_at_eq_some.mpr hs, (spec.send_slice _ _).1.symm.trans state, ?_⟩
      rw [spec.recv_queue, (spec.send_slice_buffers c _).rx_buffer] at left
      rwa [spec.recv_queue]
    | @read handle buffer tx c queued =>
      exact ⟨c, tcp_at_eq_some.mpr hs, (spec.recv_slice _ _).1.symm.trans state,
        TcpApi.Receives.recv_queue spec left⟩
  · cases heq
    have was := tcp_at_eq_some.mpr hs
    exact ⟨c, was, (System.closed_unread_close spec (passive i c was)).mp closed⟩

/-- A batch that is handled leaves no pending Ready of a socket that is closed with unread data,
when there was none before. -/
theorem none_unread_handle_in_order (spec : S.Spec) {t t' : TcpStack S}
    {events : List OperationEvent} (passive : t.Passive)
    (none : t.NoneUnread (↑events + t.pending)) (ok : t.handle_in_order events = .ok t') :
    t'.NoneUnread t'.pending := by
  induction events generalizing t with
  | nil =>
    cases ok
    exact none.mono (Multiset.le_add_left _ _)
  | cons e events ih =>
    obtain ⟨u, handled, ok⟩ := except_bind_eq_ok.mp ok
    have outcome := handle_outcome handled
    refine ih (outcome.passive spec passive) ?_ ok
    refine (none.mono ?_).of_sockets (outcome.closed_unread spec passive)
    -- The handled event is pending again at most.
    calc (↑events + u.pending : Multiset OperationEvent)
        ≤ ↑events + ({e} + t.pending) := add_le_add_right outcome.pending_le _
      _ = ↑(e :: events) + t.pending := by
          rw [← Multiset.cons_coe, ← Multiset.singleton_add, add_left_comm, add_assoc]

/-- A poll without a packet brings no socket to be closed with unread data. -/
theorem closed_unread_poll (spec : S.Spec) (rests : S.Rests) {t : TcpStack S}
    (drained : t.virtual_iface.rx_queue = []) (now i : ℕ) (c' : S.Tcp)
    (slot : (t.poll now).tcp_at i = some c') (closed : S.tcp.ClosedUnread c') :
    ∃ c, t.tcp_at i = some c ∧ S.tcp.ClosedUnread c := by
  rw [tcp_at_eq_some, socket_at_poll] at slot
  obtain ⟨s, was, eq⟩ := Option.map_eq_some_iff.mp slot
  cases s with
  | udp u => cases eq
  | tcp c =>
    obtain rfl := AnySocket.tcp.inj eq
    rw [poll_result, drained] at closed
    obtain ⟨state, left⟩ := closed
    rcases rests.poll_state t.interface now t.sockets i c with same | ⟨-, empty⟩
    · have state := same.symm.trans state
      refine ⟨c, tcp_at_eq_some.mpr was, state, ?_⟩
      rw [spec.recv_queue] at left ⊢
      rwa [(spec.poll_closed _ _ _ _ _ _ state).2] at left
    · exact absurd empty left

/-- A poll leaves a socket that is closed with unread data as it is. -/
theorem closed_unread_polled (spec : S.Spec) {t : TcpStack S} (now : ℕ) {i : ℕ} {c : S.Tcp}
    (slot : t.tcp_at i = some c) (closed : S.tcp.ClosedUnread c) :
    ∃ c', (t.poll now).tcp_at i = some c' ∧ S.tcp.ClosedUnread c' := by
  refine ⟨(t.poll_result now).tcp i c, ?_, ?_⟩
  · rw [tcp_at_eq_some, socket_at_poll, tcp_at_eq_some.mp slot]
    rfl
  · obtain ⟨state, left⟩ := closed
    obtain ⟨still, same⟩ := spec.poll_closed t.interface now t.virtual_iface.rx_queue t.sockets i c
      state
    refine ⟨still, ?_⟩
    rw [spec.recv_queue] at left ⊢
    exact same.symm ▸ left

/-- The Readys in the channel are for such sockets when a round comes to them exactly if they are
when the round begins. -/
theorem none_unread_round_iff (spec : S.Spec) (rests : S.Rests) {t : TcpStack S}
    (drained : t.virtual_iface.rx_queue = []) (now : ℕ) (events : Multiset OperationEvent) :
    (t.generated.poll now).NoneUnread events ↔ t.NoneUnread events := by
  constructor
  · intro none handle c mem slot closed
    obtain ⟨c', slot', closed'⟩ := closed_unread_polled spec (t := t.generated) now slot closed
    exact none handle c' mem slot' closed'
  · intro none
    exact none.of_sockets (closed_unread_poll spec rests (t := t.generated) drained now)

/-- What is pending when a round comes to its events was pending before. -/
theorem pending_round_le (t : TcpStack S) (now : ℕ) :
    ↑(passes t.operation_event.queue) + (t.generated.poll now).pending ≤ t.pending := by
  have polled : (t.generated.poll now).pending ≤ t.generated.pending := pending_poll_le _ now
  have left : (↑t.operation_event.queue : Multiset OperationEvent) + t.generated.pending =
      t.pending := by
    have parked : t.generated.pending = t.parked := zero_add t.parked
    rw [parked]
    rfl
  rw [Multiset.coe_eq_coe.mpr (passes_perm _), ← left]
  exact add_le_add_right polled _

end TcpStack

namespace System

/-! ## Rounds -/

/-- The running call of `drive_once`, if there is one, goes on to its end. -/
def resume (s : System S) : Option (System S) :=
  match s.driving with
  | none => some s
  | some events => exec step s (List.replicate events.length .event ++ [.finish])

/-- `generate` returns a batch, and `drive_once` is called with it and goes on to its events. -/
def begin_round (now : ℕ) (s : System S) : Option (System S) :=
  exec step s [.generate, .start none now (some s.batches.length)]

/-- `generate` returns a batch, and `drive_once` is called with it and returns. -/
def round (now : ℕ) (s : System S) : Option (System S) := (s.begin_round now).bind resume

/-- The state after `n` rounds, which begin when the running call has returned. -/
def alternate (s : System S) (now n : ℕ) : Option (System S) :=
  s.resume.bind (rounds (round now) n)

/-- The running call goes through its events and returns. -/
theorem resume_of_driving {s : System S} {events : List OperationEvent}
    (driving : s.driving = some events) :
    s.resume = (s.stack.handle_in_order events).toOption.map fun t =>
      { s with stack := t.pop_all_send_packets, driving := none } := by
  simp only [resume, driving]
  induction events generalizing s with
  | nil =>
    simp only [List.length_nil, List.replicate_zero, List.nil_append, exec, step, driving]
    rfl
  | cons e events ih =>
    rw [List.length_cons, List.replicate_succ, List.cons_append, exec]
    simp only [step, driving, handle_in_order, List.foldlM_cons]
    cases handled : s.stack.handle e with
    | error panic => rfl
    | ok u => exact ih (s := { s with stack := u, driving := some events }) rfl

/-- When a round can begin, and what it begins with. -/
theorem begin_round_eq (now : ℕ) {s : System S} (idle : s.driving = none) :
    s.begin_round now =
      if (s.stack.operation_event.connected = true ∧ s.stack.operation_event.queue ≠ []) ∧
          s.stack.poll_panics now = false then
        some { s with
          stack := s.stack.generated.poll now
          driving := some (passes s.stack.operation_event.queue) }
      else none := by
  simp only [begin_round, exec, step]
  by_cases ready : s.stack.operation_event.connected = true ∧ s.stack.operation_event.queue ≠ []
  swap
  · rw [if_neg ready, if_neg fun h => ready h.1]
    rfl
  have begins : s.stack.generated.begin_drive none now =
      if s.stack.poll_panics now then .error .smoltcp
      else .ok (s.stack.generated.poll now, .ok ()) := rfl
  have begins : ({ s.stack with operation_event := s.stack.operation_event.drain } :
      TcpStack S).begin_drive none now = _ := begins
  cases panics : s.stack.poll_panics now with
  | true => simp [ready, idle, take_batch, begins, panics]
  | false =>
    simp [ready, idle, take_batch, begins, panics, begun, List.eraseIdx_append_of_length_le]

/-- A round is `generate` and a call of `drive_once`. -/
theorem round_eq_drive_once (now : ℕ) {s : System S} (idle : s.driving = none)
    (connected : s.stack.operation_event.connected = true)
    (filled : s.stack.operation_event.queue ≠ []) :
    s.round now = (s.stack.generated.drive_once none now
      (some s.stack.operation_event.queue)).toOption.map fun r => { s with stack := r.1 } := by
  have begins : s.stack.generated.begin_drive none now =
      if s.stack.poll_panics now then .error .smoltcp
      else .ok (s.stack.generated.poll now, .ok ()) := rfl
  rw [round, begin_round_eq now idle]
  simp only [drive_once, begins, bind, Except.bind, pure, Except.pure, handle_events_eq]
  cases panics : s.stack.poll_panics now with
  | true => simp [Except.toOption]
  | false =>
    rw [if_pos ⟨⟨connected, filled⟩, rfl⟩, Option.bind_some, resume_of_driving rfl, ← idle,
      if_neg (by decide)]
    dsimp only
    cases handled : (s.stack.generated.poll now).handle_in_order
        (passes s.stack.operation_event.queue) with
    | error panic => rfl
    | ok t => rfl

/-! ## Every round makes less of what there is -/

/-- What there is in the stack, and in the batch of the running call. -/
def unrest (s : System S) : ℕ := s.stack.unrest + 2 * (s.driving.getD []).length

/-- The system between two rounds. -/
structure Between (size : ℕ) (interface : S.Interface) (s : System S) : Prop where
  reached : Reachable step (new size interface) s
  idle : s.driving = none
  connected : s.stack.operation_event.connected = true

variable {size : ℕ} {interface : S.Interface}

/-- When the running call has returned the rounds can begin, and nothing has come to what there is.
-/
theorem between_of_resume (spec : S.Spec) {s t : System S}
    (reached : Reachable step (new size interface) s)
    (connected : s.stack.operation_event.connected = true) (resumes : s.resume = some t) :
    Between size interface t ∧ t.stack.unrest ≤ s.unrest := by
  cases driving : s.driving with
  | none =>
    simp only [resume, driving] at resumes
    cases resumes
    exact ⟨⟨reached, driving, connected⟩, Nat.le_add_right _ _⟩
  | some events =>
    have run : Reachable step s t := by
      simp only [resume, driving] at resumes
      exact Run.of_exec resumes
    rw [resume_of_driving driving] at resumes
    obtain ⟨u, handled, rfl⟩ := Option.map_eq_some_iff.mp resumes
    have handled : s.stack.handle_in_order events = .ok u := by
      cases h : s.stack.handle_in_order events <;> rw [h] at handled <;> cases handled
      rfl
    refine ⟨⟨reached.trans run, rfl, (connected_handle_in_order handled).trans connected⟩, ?_⟩
    have rest := unrest_handle_in_order spec handled
    rw [unrest, driving]
    exact rest

/-- A round that comes to its end leaves less than there was. -/
theorem round_falls (spec : S.Spec) (flushes : S.Flushes) (rests : S.Rests)
    (now : ℕ) {s t : System S} (between : Between size interface s) (h : s.round now = some t) :
    Between size interface t ∧ t.stack.unrest < s.stack.unrest := by
  obtain ⟨u, begins, resumes⟩ := Option.bind_eq_some_iff.mp h
  have reached := between.reached.trans (Run.of_exec begins)
  rw [begin_round_eq now between.idle] at begins
  split_ifs at begins with ready
  cases begins
  obtain ⟨next, handled⟩ := between_of_resume spec reached
    ((wakes_poll _ now).connected.trans ready.1.1) resumes
  have taken := unrest_begin_round rests flushes (drained_of_run between.reached) now
  have filled := List.length_pos_iff.mpr ready.1.2
  have batch := (passes_perm s.stack.operation_event.queue).length_eq
  refine ⟨next, handled.trans_lt ?_⟩
  rw [System.unrest, Option.getD_some, batch]
  show (s.stack.generated.poll now).unrest + _ < _
  omega

/-! ## Rest -/

/-- The running call returns if and only if none of its events panics. -/
theorem resumes_iff (spec : S.Spec) {s : System S}
    (reached : Reachable step (new size interface) s) :
    (∃ t, s.resume = some t) ↔ s.stack.NoneUnread ↑(s.driving.getD []) := by
  cases driving : s.driving with
  | none => simp [resume, NoneUnread, driving]
  | some events =>
    have returns := handle_in_order_ok_iff spec (ordered_of_run reached driving) reached driving
    rw [Option.getD_some, resume_of_driving driving]
    refine Iff.trans ?_ returns
    cases s.stack.handle_in_order events with
    | error panic => simp [Except.toOption]
    | ok t => simp [Except.toOption]

/-- With events in the channel, a round goes to its end if and only if smoltcp does not panic in its
poll and none of the events panics. -/
theorem round_iff (spec : S.Spec) (rests : S.Rests) (now : ℕ) {s : System S}
    (between : Between size interface s) (filled : s.stack.operation_event.queue ≠ []) :
    (∃ t, s.round now = some t) ↔ s.stack.poll_panics now = false ∧
      s.stack.NoneUnread ↑s.stack.operation_event.queue := by
  have begins := begin_round_eq now between.idle
  cases panics : s.stack.poll_panics now with
  | true =>
    rw [panics, if_neg (by simp)] at begins
    simp [round, begins]
  | false =>
    rw [panics, if_pos ⟨⟨between.connected, filled⟩, rfl⟩] at begins
    have reached := between.reached.trans (Run.of_exec begins)
    rw [round, begins, Option.bind_some, resumes_iff spec reached, Option.getD_some,
      Multiset.coe_eq_coe.mpr (passes_perm _),
      none_unread_round_iff spec rests (drained_of_run between.reached)]
    exact (and_iff_right rfl).symm

/-- What a call of `drive_once` goes to its end with leaves no pending Ready of a socket that is
closed with unread data, when there was none before. -/
theorem none_unread_of_resume (spec : S.Spec) {s t : System S}
    (reached : Reachable step (new size interface) s) (resumes : s.resume = some t)
    (none : s.stack.NoneUnread (↑(s.driving.getD []) + s.stack.pending)) :
    t.stack.NoneUnread t.stack.pending := by
  cases driving : s.driving with
  | none =>
    simp only [resume, driving] at resumes
    cases resumes
    exact none.mono (Multiset.le_add_left _ _)
  | some events =>
    rw [driving, Option.getD_some] at none
    rw [resume_of_driving driving] at resumes
    obtain ⟨u, handled, rfl⟩ := Option.map_eq_some_iff.mp resumes
    have handled : s.stack.handle_in_order events = .ok u := by
      cases h : s.stack.handle_in_order events <;> rw [h] at handled <;> cases handled
      rfl
    have after : u.NoneUnread u.pending :=
      none_unread_handle_in_order spec (passive_of_run spec reached) none handled
    exact after

/-- A round leaves no such Ready if none was pending. -/
theorem none_unread_of_round (spec : S.Spec) (rests : S.Rests) (now : ℕ) {s t : System S}
    (between : Between size interface s) (h : s.round now = some t)
    (none : s.stack.NoneUnread s.stack.pending) : t.stack.NoneUnread t.stack.pending := by
  obtain ⟨u, begins, resumes⟩ := Option.bind_eq_some_iff.mp h
  have reached := between.reached.trans (Run.of_exec begins)
  rw [begin_round_eq now between.idle] at begins
  split_ifs at begins with ready
  cases begins
  refine none_unread_of_resume spec reached resumes ?_
  refine (none_unread_round_iff spec rests (drained_of_run between.reached) now _).mpr ?_
  exact none.mono (pending_round_le s.stack now)

/-- From every reachable state with the `EventGenerator` there, without packets and without new
requests, and with the clock standing still, there are at most `s.unrest` rounds. They go on until
the channel is empty if and only if the running call has no Ready of a TCP socket that is closed
with unread data, and where a round begins, smoltcp does not panic in the poll and the channel has
no such Ready. It never has one when no such Ready is pending at first. -/
theorem comes_to_rest (spec : S.Spec) (flushes : S.Flushes) (rests : S.Rests)
    {s : System S} (run : Reachable step (new size interface) s)
    (connected : s.stack.operation_event.connected = true) (now : ℕ) :
    (∀ n t, s.alternate now n = some t → n ≤ s.unrest) ∧
    ((∃ n t, s.alternate now n = some t ∧ t.stack.operation_event.queue = []) ↔
      s.stack.NoneUnread ↑(s.driving.getD []) ∧ ∀ n t, s.alternate now n = some t →
        t.stack.operation_event.queue ≠ [] → t.stack.poll_panics now = false ∧
          t.stack.NoneUnread ↑t.stack.operation_event.queue) ∧
    (s.stack.NoneUnread (↑(s.driving.getD []) + s.stack.pending) →
      ∀ n t, s.alternate now n = some t → t.stack.NoneUnread t.stack.pending) := by
  have falls := fun (s t : System S) (h : Between size interface s) =>
    round_falls spec flushes rests now h (t := t)
  refine ⟨fun n t after => ?_, ⟨?_, ?_⟩, fun none n t after => ?_⟩
  · obtain ⟨s₀, resumes, after⟩ := Option.bind_eq_some_iff.mp after
    obtain ⟨start, le⟩ := between_of_resume spec run connected resumes
    have bound := (le_of_rounds falls start after).2
    omega
  · rintro ⟨n, t, after, empty⟩
    obtain ⟨s₀, resumes, after⟩ := Option.bind_eq_some_iff.mp after
    obtain ⟨start, -⟩ := between_of_resume spec run connected resumes
    refine ⟨(resumes_iff spec run).mp ⟨s₀, resumes⟩, fun m u before filled => ?_⟩
    obtain ⟨s₁, resumes', before⟩ := Option.bind_eq_some_iff.mp before
    cases resumes.symm.trans resumes'
    refine (round_iff spec rests now (le_of_rounds falls start before).1 filled).mp ?_
    -- The round comes before the one that leaves the channel empty.
    rcases lt_trichotomy m n with lt | rfl | gt
    · exact exists_round_of_lt after before lt
    · cases after.symm.trans before
      exact absurd empty filled
    · obtain ⟨w, next⟩ := exists_round_of_lt before after gt
      have between := (le_of_rounds falls start after).1
      rw [round, begin_round_eq now between.idle, if_neg fun ready => ready.1.2 empty] at next
      cases next
  · rintro ⟨running, safe⟩
    obtain ⟨s₀, resumes⟩ := (resumes_iff spec run).mpr running
    obtain ⟨start, -⟩ := between_of_resume spec run connected resumes
    obtain ⟨n, t, after, last⟩ := exists_rounds_end falls start
    have between := (le_of_rounds falls start after).1
    have after : s.alternate now n = some t := by
      rw [alternate, resumes]
      exact after
    refine ⟨n, t, after, ?_⟩
    by_contra filled
    obtain ⟨u, next⟩ := (round_iff spec rests now between filled).mpr (safe n t after filled)
    rw [last] at next
    cases next
  · obtain ⟨s₀, resumes, after⟩ := Option.bind_eq_some_iff.mp after
    obtain ⟨start, -⟩ := between_of_resume spec run connected resumes
    have begun := none_unread_of_resume spec run resumes none
    refine (le_of_rounds (I := fun s => Between size interface s ∧
      s.stack.NoneUnread s.stack.pending)
      (μ := fun s => s.stack.unrest) (fun s t ⟨between, none⟩ h => ?_) ⟨start, begun⟩ after).1.2
    obtain ⟨next, lt⟩ := falls s t between h
    exact ⟨⟨next, none_unread_of_round spec rests now between h none⟩, lt⟩

open Reference in
/-- A Read is parked at the stream of a connection, and the stream is shut down. -/
def reading_and_shut_down : List Action := accepted_connection ++ [
  .call (.read ⟨⟨0, 0⟩, client_addr 1, server_addr 2⟩ ⟨[], 4⟩), .generate, .start none 0 (some 0),
  .event, .finish, .call (.shutdown ⟨⟨0, 0⟩, client_addr 1, server_addr 2⟩)]

open Reference in
/-- Another client opens a connection, sends a byte and a RST. Shutting the stream down sends its
Read once more, and then the Ready of the other connection panics: the Read stays in the channel,
and no round empties it. -/
theorem never_rests : ∃ s u : System reference,
    exec step (new 64 ()) (reading_and_shut_down ++ [.start (some (syn 3 2)) 0 none, .finish,
      .start (some (ack 3 2 [7])) 0 none, .finish, .start (some (rst 3 2)) 0 none, .finish]) =
      some s ∧ s.stack.operation_event.connected = true ∧
    (∀ n t, s.alternate 0 n = some t → t.stack.operation_event.queue ≠ []) ∧
    exec step s [.generate, .start none 0 (some 0), .event] = some u ∧
    u.next_event = some (.ready (.tcp ⟨1, 1⟩)) ∧
    u.panic_at (.ready (.tcp ⟨1, 1⟩)) = some .no_local_addr ∧
    u.stack.operation_event.queue = [.read ⟨0, 0⟩ 0 0] := by
  obtain ⟨s, hs, ht⟩ := exists_of_exec_any step (new 64 () : System reference)
    (reading_and_shut_down ++ [.start (some (syn 3 2)) 0 none, .finish,
      .start (some (ack 3 2 [7])) 0 none, .finish, .start (some (rst 3 2)) 0 none, .finish])
    (fun s => s.stack.operation_event.connected ∧ s.driving = none ∧
      s.stack.operation_event.queue ≠ [] ∧ (s.round 0).isNone ∧
      (exec step s [.generate, .start none 0 (some 0), .event]).any fun u =>
        u.next_event = some (.ready (.tcp ⟨1, 1⟩)) ∧
        u.panic_at (.ready (.tcp ⟨1, 1⟩)) = some .no_local_addr ∧
        u.stack.operation_event.queue = [.read ⟨0, 0⟩ 0 0])
    (by decide +kernel)
  obtain ⟨connected, idle, filled, stuck, ht⟩ := of_decide_eq_true ht
  obtain ⟨u, hu, ht⟩ := (Option.any_eq_true _ _).mp ht
  refine ⟨s, u, hs, connected, fun n t after => ?_, hu, of_decide_eq_true ht⟩
  have resumed : s.resume = some s := by simp only [resume, idle]
  rw [alternate, resumed, Option.bind_some] at after
  -- The first round panics, so that no round changes the channel.
  cases n with
  | zero =>
    cases after
    exact filled
  | succ n =>
    rw [rounds, Option.isNone_iff_eq_none.mp stuck] at after
    cases after

open Reference in
/-- Without that connection, the second round parks the Read again and leaves the channel empty. -/
theorem comes_to_rest_shut_down : ∃ (s t : System reference) (n : ℕ),
    exec step (new 64 ()) reading_and_shut_down = some s ∧
    s.stack.operation_event.queue = [.shutdown (.tcp ⟨0, 0⟩) 1] ∧
    s.alternate 0 n = some t ∧ t.stack.operation_event.queue = [] ∧ n ≤ s.unrest ∧
    s.stack.poll_panics 0 = false := by
  obtain ⟨s, hs, ht⟩ := exists_of_exec_any step (new 64 () : System reference)
    reading_and_shut_down
    (fun s => s.stack.operation_event.connected ∧ s.driving = none ∧
      s.stack.operation_event.queue = [.shutdown (.tcp ⟨0, 0⟩) 1] ∧
      (s.alternate 0 2).any fun t => t.stack.operation_event.queue = [])
    (by decide +kernel)
  obtain ⟨connected, idle, queue, ht⟩ := of_decide_eq_true ht
  obtain ⟨t, after, empty⟩ := (Option.any_eq_true _ _).mp ht
  have empty := of_decide_eq_true empty
  obtain ⟨bound, rests, -⟩ := comes_to_rest reference_spec reference_flushes reference_rests
    (Run.of_exec hs) connected 0
  have start : s.alternate 0 0 = some s := by
    simp only [alternate, resume, idle]
    rfl
  refine ⟨s, t, 2, hs, queue, after, empty, bound 2 t after, ?_⟩
  exact ((rests.mp ⟨2, t, after, empty⟩).2 0 s start (by simp [queue])).1

end System

end L3Extract
