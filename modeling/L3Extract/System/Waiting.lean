import L3Extract.Stack.Waiting
import L3Extract.System.Shutdown

/-!
# No call is forgotten

A user's call that finds its socket not ready leaves a waker there and sleeps. It must not sleep on
when the socket becomes ready, whichever of the parties made it so: the peer by a packet, a timer,
another user's request on the same socket, or `close`. `parked_waits` says that in every state that
is reached, what a parked event waits for has not come, and `sleeping_call_waits` what follows for
the calls when nothing is under way: a call that has not returned either can return, or it is
parked at its socket, and waits for something that its peer or its user has yet to do.
-/

namespace L3Extract

open OperationEvent Transition TcpStack

variable {S : Smoltcp}

namespace System

/-- In every run what a parked event waits for has not come. -/
theorem waiting_of_run (spec : S.Spec) (notifies : S.Notifies) {size : ℕ} {interface : S.Interface}
    {guard : System S → Action → Prop} {s : System S}
    (run : Run step guard (new size interface) s) : s.stack.Waiting := by
  refine run.invariant (I := fun s => s.stack.Waiting) ?_ fun t a u hr _ h waiting => ?_
  · intro i side e parked
    simp [new, TcpStack.new, waker] at parked
  cases stack_step h with
  | began packet now batch res action ok => exact waiting.begin_drive spec notifies ok
  | handled e action next ok => exact waiting.handle spec notifies ok
  | outside socket_set socket_handles accepted_udp_sockets rx_queue =>
    exact waiting.of_socket_set socket_set

/-- In every state that the stack and its users reach, whatever a parked event waits for has not
come to its socket. A parked Read, Write, Recv, or Send would be parked again and change nothing if
it were handled now. -/
theorem parked_waits (spec : S.Spec) (notifies : S.Notifies) {size : ℕ} {interface : S.Interface}
    {s : System S} (run : Reachable step (new size interface) s) {i : ℕ} {side : Side}
    {e : OperationEvent} (parked : s.stack.waker i side = some e) :
    (∃ socket, s.stack.socket_at i = some socket ∧ Awaits S e side socket) ∧
      (e.deferred.isSome = true → s.stack.handle e = .ok s.stack) := by
  obtain ⟨socket, slot, awaits⟩ := waiting_of_run spec notifies run i side e parked
  obtain ⟨index, -, found⟩ := placed_of_run run i side e parked
  refine ⟨⟨socket, slot, awaits⟩, fun request => ?_⟩
  obtain ⟨p, deferred⟩ := Option.isSome_iff_exists.mp request
  rw [handle_of_awaits index found slot awaits deferred, register_of_waker parked]

/-- A call that has not returned can return, or its request is on its way to a handler, or it is
parked at a socket to which what it waits for has not come. -/
theorem call_waits (spec : S.Spec) (notifies : S.Notifies) {size : ℕ} {interface : S.Interface}
    {guard : System S → Action → Prop} {s : System S} (run : Run step guard (new size interface) s)
    {f : Future} (calls : f ∈ s.futures) :
    (∃ t, s.step (.return_ f.rx) = some t) ∨
      (∃ e ∈ s.stack.operation_event.queue ++ s.collected, e.result_tx = some f.rx) ∨
      ∃ i side e socket, s.stack.waker i side = some e ∧ e.result_tx = some f.rx ∧
        s.stack.socket_at i = some socket ∧ Awaits S e side socket := by
  have rx : f.rx ∈ s.futures.map Future.rx := List.mem_map_of_mem calls
  by_cases sent : f.rx ∈ s.pending.filterMap result_tx
  · obtain ⟨e, mem, result_tx⟩ := (Multiset.mem_filterMap _ _).mp sent
    rw [pending, TcpStack.pending, Multiset.mem_add, Multiset.mem_add] at mem
    rcases mem with (queued | parked) | collected
    · exact .inr (.inl ⟨e, List.mem_append_left _ (Multiset.mem_coe.mp queued), result_tx⟩)
    · obtain ⟨i, side, waker⟩ := exists_waker_of_mem_parked parked
      obtain ⟨socket, slot, awaits⟩ := waiting_of_run spec notifies run i side e waker
      exact .inr (.inr ⟨i, side, e, socket, waker, result_tx, slot, awaits⟩)
    · exact .inr (.inl ⟨e, List.mem_append_right _ (Multiset.mem_coe.mp collected), result_tx⟩)
  · exact .inl ⟨_, if_pos ⟨rx, .inr sent⟩⟩

/-- When the channel is empty, the caller holds no batch, and `drive_once` is not running, a call
that has not returned can return, or its request is parked at a socket to which what it waits for
has not come. -/
theorem sleeping_call_waits (spec : S.Spec) (notifies : S.Notifies) {size : ℕ}
    {interface : S.Interface} {s : System S} (run : Reachable step (new size interface) s)
    (empty : s.stack.operation_event.queue = []) (batches : s.batches = [])
    (idle : s.driving = none) {f : Future} (calls : f ∈ s.futures) :
    (∃ t, s.step (.return_ f.rx) = some t) ∨
      ∃ i side e socket, s.stack.waker i side = some e ∧ e.result_tx = some f.rx ∧
        s.stack.socket_at i = some socket ∧ Awaits S e side socket := by
  rcases call_waits spec notifies run calls with returns | ⟨e, mem, -⟩ | parked
  · exact .inl returns
  · -- No request is on its way.
    simp [collected, empty, batches, idle] at mem
  · exact .inr parked

open Reference in
/-- A Read on a connection without data, and a Write that finds room. -/
def read_and_write : List Action := accepted_connection ++ [
  .call (.read ⟨⟨0, 0⟩, client_addr 1, server_addr 2⟩ ⟨[0, 0], 0⟩),
  .call (.write ⟨⟨0, 0⟩, client_addr 1, server_addr 2⟩ ⟨[7, 8], 2⟩), .generate,
  .start none 0 (some 0), .event, .event, .finish]

/-- The Read is parked. -/
theorem parked_waits_read : ∃ s : System reference,
    exec step (new 64 ()) read_and_write = some s ∧
    s.stack.waker 0 .recv = some (.read ⟨0, 0⟩ 0 0) ∧
    s.stack.handle (.read ⟨0, 0⟩ 0 0) = .ok s.stack := by
  obtain ⟨s, run, test⟩ := exists_of_exec_any step (new 64 () : System reference) read_and_write
    (fun s => s.stack.waker 0 .recv = some (.read ⟨0, 0⟩ 0 0)) (by decide +kernel)
  have parked := of_decide_eq_true test
  exact ⟨s, run, parked,
    (parked_waits reference_spec reference_notifies (Run.of_exec run) parked).2 rfl⟩

/-- The Write was answered, and its call returns; that of the Read waits for data. -/
theorem sleeping_call_waits_read : ∃ s : System reference,
    exec step (new 64 ()) (read_and_write ++ [.return_ 1]) = some s ∧
    s.futures = [⟨.tcp ⟨0, 0⟩, 0⟩] ∧ s.step (.return_ 0) = none ∧
    ∃ i side e socket, s.stack.waker i side = some e ∧ e.result_tx = some 0 ∧
      s.stack.socket_at i = some socket ∧ Awaits reference e side socket := by
  obtain ⟨s, run, test⟩ := exists_of_exec_any step (new 64 () : System reference)
    (read_and_write ++ [.return_ 1])
    (fun s => s.stack.operation_event.queue = [] ∧ s.batches = [] ∧ s.driving = none ∧
      s.futures = [⟨.tcp ⟨0, 0⟩, 0⟩] ∧ (s.step (.return_ 0)).isNone) (by decide +kernel)
  obtain ⟨empty, batches, idle, futures, sleeps⟩ := of_decide_eq_true test
  have sleeps := Option.isNone_iff_eq_none.mp sleeps
  refine ⟨s, run, futures, sleeps, ?_⟩
  have calls : (⟨.tcp ⟨0, 0⟩, 0⟩ : Future) ∈ s.futures := by rw [futures]; exact List.mem_cons_self
  rcases sleeping_call_waits reference_spec reference_notifies (Run.of_exec run) empty batches idle
    calls with ⟨t, returns⟩ | waits
  · rw [sleeps] at returns
    cases returns
  · exact waits

end System

end L3Extract
