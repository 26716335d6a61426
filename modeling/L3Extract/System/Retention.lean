import L3Extract.System.Ownership

/-!
# What is pending stays pending

An event that was sent stays pending until it is handled: in the channel, in a waker, or in a batch.
It is lost when it waits in a waker and the handler of another event overwrites the waker or removes
the socket (`TcpStack.Loses`). It is also lost when the caller gives it up: with a batch, with the
`EventGenerator`, or when `drive_once` returns an error. `Retains` is the condition on the caller
that excludes the latter, and then `mem_pending_step` and `requests_step` say what a step keeps.
-/

namespace L3Extract

open OperationEvent Transition TcpStack

variable {S : Smoltcp}

/-- The packet path of `drive_once` returns no error. -/
def TcpStack.accepts (t : TcpStack S) (packet : Option Packet) (now : ℕ) : Bool :=
  match t.begin_drive packet now with
  | .ok (_, .error _) => false
  | _ => true

namespace System

/-- The caller keeps the `EventGenerator`, and hands every batch to a call of `drive_once` that does
not return an error. -/
def Retains (s : System S) : Action → Prop
  | .drop_generator => False
  | .drop_batch _ => False
  | .start packet now (some _) => s.stack.accepts packet now = true
  | _ => True

instance (s : System S) (a : Action) : Decidable (s.Retains a) :=
  match a with
  | .start packet now (some _) => instDecidableEqBool (s.stack.accepts packet now) true
  | .drop_batch _ => instDecidableFalse
  | .drop_generator => instDecidableFalse
  | .start _ _ none => instDecidableTrue
  | .event => instDecidableTrue
  | .finish => instDecidableTrue
  | .generate => instDecidableTrue
  | .accept_tcp => instDecidableTrue
  | .accept_udp => instDecidableTrue
  | .drop_tcp_acceptor => instDecidableTrue
  | .drop_udp_acceptor => instDecidableTrue
  | .call _ => instDecidableTrue
  | .return_ _ => instDecidableTrue
  | .drop_future _ => instDecidableTrue
  | .drop_tcp_stream _ => instDecidableTrue
  | .drop_udp_socket _ => instDecidableTrue

/-! ## The event channel -/

/-- The event channel stays connected as long as the `EventGenerator` is there. -/
theorem connected_step {s s' : System S} {a : Action} (h : s.step a = some s')
    (retains : s.Retains a) :
    s'.stack.operation_event.connected = s.stack.operation_event.connected := by
  cases steps_of_step h with
  | started packet now batch events batches stack res action rest took ok eq =>
    rw [eq]
    exact (begin_drive_cases ok).connected
  | handled e events stack action driving ok eq =>
    rw [eq]
    exact (handle_outcome ok).connected
  | generator_dropped action eq => subst action; cases retains
  | called c action held connected eq =>
    rw [eq]
    exact Channel.connected_send _ _
  | tcp_stream_dropped stream action held idle eq =>
    rw [eq]
    exact Channel.connected_send _ _
  | udp_socket_dropped socket action held idle eq =>
    rw [eq]
    exact Channel.connected_send _ _
  | finished action driving eq => rw [eq]; rfl
  | generated action connected eq => rw [eq]; rfl
  | batch_dropped i action eq => rw [eq]
  | accepted_tcp info rest action queue eq => rw [eq]
  | accepted_udp info rest action queue eq => rw [eq]
  | tcp_acceptor_dropped action eq => rw [eq]
  | udp_acceptor_dropped action eq => rw [eq]
  | refused c action connected eq => rw [eq]
  | returned futures action sub eq => rw [eq]

/-- The event channel keeps its receiver in every run that retains the events. -/
theorem connected_of_run {size : ℕ} {interface : S.Interface} {guard : System S → Action → Prop}
    (retains : ∀ s a, guard s a → s.Retains a) {s : System S}
    (run : Run step guard (new size interface) s) :
    s.stack.operation_event.connected = true :=
  run.invariant (I := fun s => s.stack.operation_event.connected = true) rfl
    fun _ _ _ _ hg h hc => (connected_step h (retains _ _ hg)).trans hc

/-- A value that is sent while the channel is connected is pending. -/
theorem pending_send_event {t : TcpStack S} (connected : t.operation_event.connected = true)
    (e : OperationEvent) : (t.send_event e).pending = {e} + t.pending := by
  have hp : ∀ ch, ({ t with operation_event := ch } : TcpStack S).parked = t.parked := fun _ => rfl
  simp only [TcpStack.pending, send_event, Channel.send, connected, if_true, hp]
  rw [← Multiset.coe_add, Multiset.coe_singleton]
  abel

/-- A request that is sent while the channel is connected is pending. -/
theorem requests_send_event {t : TcpStack S} (connected : t.operation_event.connected = true)
    (e : OperationEvent) : (t.send_event e).requests = ↑e.result_tx.toList + t.requests := by
  have ha : (t.send_event e).answers = t.answers := rfl
  rw [TcpStack.requests, TcpStack.requests, pending_send_event connected, Multiset.filterMap_add,
    filterMap_singleton, ha, add_assoc]

/-! ## Batches -/

/-- A batch that is handed over is not given up. -/
theorem coe_collected_of_retains {s : System S} {packet : Option Packet} {now : ℕ}
    {batch : Option ℕ} {events : List OperationEvent} {batches : List (List OperationEvent)}
    {stack : TcpStack S} {res : Except DriveError Unit} (rest : s.driving = none)
    (took : s.take_batch batch = some (events, batches))
    (ok : s.stack.begin_drive packet now = .ok (stack, res))
    (retains : s.Retains (.start packet now batch)) :
    (↑(batches.flatten ++ (begun events res).getD []) : Multiset OperationEvent) =
      ↑s.collected := by
  cases res with
  | ok => exact coe_collected_of_start rest took
  | error err =>
    cases batch with
    | some i =>
      have ha : s.stack.accepts packet now = true := retains
      simp [accepts, ok] at ha
    | none =>
      cases took
      simp [begun, collected, rest]

/-- What `generate` takes from the channel is collected. -/
theorem coe_collected_of_generated {s s' : System S} (eq : s' = { s with
      stack := { s.stack with operation_event := s.stack.operation_event.drain }
      batches := s.batches ++ [s.stack.operation_event.queue] }) :
    (↑s'.collected : Multiset OperationEvent) =
      ↑s.stack.operation_event.queue + ↑s.collected := by
  subst eq
  simp only [collected, List.flatten_append, List.flatten_singleton, ← Multiset.coe_add]
  abel

/-! ## Pending events -/

/-- An event that is pending while the system takes a step stays pending, unless it is handled or
lost. -/
theorem mem_pending_step {s s' : System S} {a : Action} (h : s.step a = some s')
    (retains : s.Retains a) (connected : s.stack.operation_event.connected = true)
    {e : OperationEvent} (he : e ∈ s.pending) (resends : e.resends = true) :
    e ∈ s'.pending ∨
      ∃ e', a = .event ∧ s.next_event = some e' ∧ (e' = e ∨ s.stack.Loses e' e) := by
  -- A step that keeps what the stack has pending and what is collected.
  have kept : (e ∈ s.stack.pending → e ∈ s'.stack.pending) →
      (↑s'.collected : Multiset OperationEvent) = ↑s.collected → e ∈ s'.pending := by
    intro hstack hcollected
    rw [pending, hcollected]
    rcases Multiset.mem_add.mp he with he | he
    · exact Multiset.mem_add.mpr (.inl (hstack he))
    · exact Multiset.mem_add.mpr (.inr he)
  have sent : ∀ e', e ∈ s.stack.pending → e ∈ (s.stack.send_event e').pending := fun e' he => by
    rw [pending_send_event connected]
    exact Multiset.mem_add.mpr (.inr he)
  cases steps_of_step h with
  | started packet now batch events batches stack res action rest took ok eq =>
    subst action eq
    exact .inl (kept (fun he => (begin_drive_cases ok).mem_pending he resends connected)
      (coe_collected_of_retains rest took ok retains))
  | handled e' events stack action driving ok eq =>
    -- The event is the one that is handled, is lost to it, or stays.
    have next : s.next_event = some e' := by rw [next_event, driving]; rfl
    rw [pending, coe_collected_of_driving driving] at he
    have hp' : s'.pending = stack.pending + ↑(s.batches.flatten ++ events) := by rw [eq]; rfl
    rw [hp']
    rcases Multiset.mem_add.mp he with he | he
    · rcases (handle_outcome ok).mem_pending he resends connected with he | hl
      · exact .inl (Multiset.mem_add.mpr (.inl he))
      · exact .inr ⟨e', action, next, .inr hl⟩
    · rcases Multiset.mem_add.mp he with he | he
      · exact .inr ⟨e', action, next, .inl (Multiset.mem_singleton.mp he).symm⟩
      · exact .inl (Multiset.mem_add.mpr (.inr he))
  | finished action driving eq =>
    subst eq
    exact .inl (kept id (by rw [collected, collected, driving]; rfl))
  | generated action connected eq =>
    left
    rw [pending, coe_collected_of_generated eq, eq]
    have hp : ({ s.stack with operation_event := s.stack.operation_event.drain } :
      TcpStack S).pending = s.stack.parked := zero_add _
    rw [hp]
    rw [pending, TcpStack.pending] at he
    rwa [← add_assoc, add_comm s.stack.parked]
  | batch_dropped i action eq => subst action; cases retains
  | generator_dropped action eq => subst action; cases retains
  | called c action held connected eq =>
    subst eq
    exact .inl (kept (sent _) rfl)
  | tcp_stream_dropped stream action held idle eq =>
    subst eq
    exact .inl (kept (sent _) rfl)
  | udp_socket_dropped socket action held idle eq =>
    subst eq
    exact .inl (kept (sent _) rfl)
  | accepted_tcp info rest action queue eq => subst eq; exact .inl he
  | accepted_udp info rest action queue eq => subst eq; exact .inl he
  | tcp_acceptor_dropped action eq => subst eq; exact .inl he
  | udp_acceptor_dropped action eq => subst eq; exact .inl he
  | refused c action connected eq => subst eq; exact .inl he
  | returned futures action sub eq => subst eq; exact .inl he

/-! ## Requests -/

/-- How a step changes the account of requests. -/
inductive RequestStep (s : System S) (a : Action) (s' : System S) : Prop
  /-- No request is issued, and only the events in `lost` are lost. -/
  | kept (lost : Multiset OperationEvent)
      (loses : ∀ e₀ ∈ lost, ∃ e, a = .event ∧ s.next_event = some e ∧ s.stack.Loses e e₀)
      (issued : s'.issued = s.issued)
      (requests : s'.requests + lost.filterMap result_tx = s.requests)
  /-- A request is issued. -/
  | issued (c : Call) (held : c.handle ∈ s.streams) (issued : s'.issued = s.issued ++ [c.handle])
      (requests : s'.requests = {s.issued.length} + s.requests)

/-- What a step does to the pending events, if it retains them. -/
theorem request_step {s s' : System S} {a : Action} (h : s.step a = some s')
    (retains : s.Retains a) (connected : s.stack.operation_event.connected = true) :
    RequestStep s a s' := by
  -- A step that keeps the stack's account and what is collected.
  have kept : s'.issued = s.issued → s'.stack.requests = s.stack.requests →
      (↑s'.collected : Multiset OperationEvent) = ↑s.collected → RequestStep s a s' := by
    intro hissued hstack hcollected
    refine .kept 0 (by simp) hissued ?_
    rw [requests, hstack, hcollected, requests]
    simp
  have close : ∀ h', (s.stack.send_event (.close h')).requests = s.stack.requests := fun h' => by
    rw [requests_send_event connected]
    simp [result_tx]
  cases steps_of_step h with
  | started packet now batch events batches stack res action rest took ok eq =>
    subst action eq
    exact kept rfl (begin_drive_cases ok).requests (coe_collected_of_retains rest took ok retains)
  | handled e events stack action driving ok eq =>
    have next : s.next_event = some e := by rw [next_event, driving]; rfl
    obtain ⟨lost, loses, hr⟩ := (handle_outcome ok).requests
    refine .kept lost (fun e₀ h₀ => ⟨e, action, next, loses e₀ h₀⟩) (by rw [eq]) ?_
    have hs' : s'.requests = stack.requests +
        (↑(s.batches.flatten ++ events) : Multiset _).filterMap result_tx := by rw [eq]; rfl
    rw [hs', requests, coe_collected_of_driving driving, Multiset.filterMap_add,
      filterMap_singleton, add_right_comm, hr]
    abel
  | finished action driving eq =>
    subst eq
    exact kept rfl rfl (by rw [collected, collected, driving]; rfl)
  | generated action connected eq =>
    -- The requests go from the channel to the new batch.
    refine .kept 0 (by simp) (by rw [eq]) ?_
    have hs' : s'.stack.requests =
        s.stack.parked.filterMap result_tx + ↑(s.stack.answers.map Prod.fst) := by
      rw [eq]
      exact congrArg (fun p => Multiset.filterMap result_tx p + _) (zero_add s.stack.parked)
    rw [requests, hs', coe_collected_of_generated eq, requests, TcpStack.requests,
      TcpStack.pending, Multiset.filterMap_add, Multiset.filterMap_add]
    simp only [Multiset.filterMap_zero]
    abel
  | batch_dropped i action eq => subst action; cases retains
  | generator_dropped action eq => subst action; cases retains
  | called c action held connected eq =>
    subst eq
    refine .issued c held rfl ?_
    have hs : (s.issue c).stack.requests = {s.issued.length} + s.stack.requests := by
      refine (requests_send_event (t := { s.stack with
        memory := Function.update s.stack.memory s.issued.length c.buf }) connected _).trans ?_
      rw [c.event_result_tx]
      rfl
    have hc : (s.issue c).collected = s.collected := rfl
    rw [requests, requests, hs, hc, add_assoc]
  | tcp_stream_dropped stream action held idle eq =>
    subst eq
    exact kept rfl (close _) rfl
  | udp_socket_dropped socket action held idle eq =>
    subst eq
    exact kept rfl (close _) rfl
  | accepted_tcp info rest action queue eq => subst eq; exact kept rfl rfl rfl
  | accepted_udp info rest action queue eq => subst eq; exact kept rfl rfl rfl
  | tcp_acceptor_dropped action eq => subst eq; exact kept rfl rfl rfl
  | udp_acceptor_dropped action eq => subst eq; exact kept rfl rfl rfl
  | refused c action connected eq => subst eq; exact kept rfl rfl rfl
  | returned futures action sub eq => subst eq; exact kept rfl rfl rfl

/-! ## Wakers -/

/-- In every run the wakers are in their places. -/
theorem placed_of_run {size : ℕ} {interface : S.Interface} {guard : System S → Action → Prop}
    {s : System S} (run : Run step guard (new size interface) s) : s.stack.Placed := by
  refine run.invariant (I := fun s => s.stack.Placed) ?_ fun t a u hr _ h placed => ?_
  · intro i side e he
    simp [new, TcpStack.new, waker] at he
  cases stack_step h with
  | began packet now batch res action ok => exact (begin_drive_cases ok).placed placed
  | handled e action next ok => exact (handle_outcome ok).placed (sound_of_run hr).tables placed
  | outside socket_set socket_handles accepted_udp_sockets rx_queue =>
    intro i side e he
    rw [waker, socket_set] at he
    rw [contains, socket_handles]
    exact placed i side e he

end System

end L3Extract
