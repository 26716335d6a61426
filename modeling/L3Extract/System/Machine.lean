import L3Extract.Lib.Transition
import L3Extract.Stack.Arrival
import L3Extract.Stack.Batch
import L3Extract.Stack.Outcome

/-!
# The stack and its users

`System` puts the stack together with the parties that it talks to: the caller, who collects batches
of events from the `EventGenerator` and hands them to `drive_once`; the holders of the two
acceptors; and the users of `TcpStream`s and `UdpSocket`s, with the calls of `read`, `write`,
`shutdown`, `recv`, and `send` that have not returned. The parties may run on threads of their own.
`step` takes one atomic action of one of them.

A call of `drive_once` is not atomic here. It begins with the packet and the poll (`start`), handles
one event after the other (`event`), and returns (`finish`); the users may act in between. By
`handle_events_eq` it handles a batch in the order `passes`, and `run_of_drive_once` shows that
a whole call is such a run.

`generate` takes all that is in the channel at once: its loop ends when it finds the channel empty,
and what is put into the channel while it runs is seen by nobody else before.
-/

namespace L3Extract

open OperationEvent Transition

variable {S : Smoltcp}

/-- A call of `read`, `write`, `shutdown`, `recv`, or `send` that has not returned: the socket it is
for, and its end of the result channel. -/
structure Future where
  handle : TypedSocketHandle
  rx : ResultTx
  deriving DecidableEq

/-- The stack with its surroundings. -/
structure System (S : Smoltcp) where
  stack : TcpStack S
  /-- The events that the running call of `drive_once` has still to handle. -/
  driving : Option (List OperationEvent)
  /-- The batches that `generate` returned and that were not handed to `drive_once` yet. -/
  batches : List (List OperationEvent)
  tcp_streams : List TcpInfo
  udp_sockets : List UdpInfo
  futures : List Future
  /-- The socket that each request was issued for, by the number of the request. -/
  issued : List TypedSocketHandle

/-- A call of a user. -/
inductive Call
  | read (stream : TcpInfo) (buf : IoBuf)
  | write (stream : TcpInfo) (buf : IoBuf)
  | shutdown (stream : TcpInfo)
  | recv (socket : UdpInfo) (buf : IoBuf)
  | send (socket : UdpInfo) (buf : IoBuf) (addr : SocketAddr)
  deriving DecidableEq

/-- The socket that a call is for. -/
def Call.handle : Call → TypedSocketHandle
  | read stream _ => .tcp stream.handle
  | write stream _ => .tcp stream.handle
  | shutdown stream => .tcp stream.handle
  | recv socket _ => .udp socket.handle
  | send socket _ _ => .udp socket.handle

/-- The event that a call sends, with its result channel and its buffer. -/
def Call.event (id : ℕ) : Call → OperationEvent
  | read stream _ => .read stream.handle id id
  | write stream _ => .write stream.handle id id
  | shutdown stream => .shutdown (.tcp stream.handle) id
  | recv socket _ => .recv socket.handle id id
  | send socket _ addr => .send socket.handle addr id id

/-- The buffer that a call brings. -/
def Call.buf : Call → IoBuf
  | read _ buf => buf
  | write _ buf => buf
  | shutdown _ => ⟨[], 0⟩
  | recv _ buf => buf
  | send _ buf _ => buf

/-- The event of a call is for its socket. -/
theorem Call.event_handle (c : Call) (id : ℕ) : (c.event id).handle = c.handle := by
  cases c <;> rfl

/-- The event of a call has its number for a result channel. -/
theorem Call.event_result_tx (c : Call) (id : ℕ) : (c.event id).result_tx = some id := by
  cases c <;> rfl

/-- An action of one of the parties. -/
inductive Action
  /-- `drive_once` is called with a packet and the batch of the given number. -/
  | start (packet : Option Packet) (now : ℕ) (batch : Option ℕ)
  /-- The running call of `drive_once` handles its next event. -/
  | event
  /-- The running call of `drive_once` returns. -/
  | finish
  /-- `EventGenerator::generate` -/
  | generate
  /-- The caller drops the batch of the given number. -/
  | drop_batch (i : ℕ)
  /-- The `EventGenerator` is dropped. -/
  | drop_generator
  /-- `TcpAcceptor::poll_next` and `UdpAcceptor::poll_next` give out a socket. -/
  | accept_tcp
  | accept_udp
  /-- The `TcpAcceptor` or the `UdpAcceptor` is dropped. -/
  | drop_tcp_acceptor
  | drop_udp_acceptor
  /-- A user calls a method of a stream or a socket. -/
  | call (c : Call)
  /-- The call with the given result channel returns. -/
  | return_ (rx : ResultTx)
  /-- The future of the call with the given result channel is dropped. -/
  | drop_future (rx : ResultTx)
  /-- `Drop for TcpStream` and `Drop for UdpSocket` -/
  | drop_tcp_stream (stream : TcpInfo)
  | drop_udp_socket (socket : UdpInfo)
  deriving DecidableEq

namespace System

/-- A new stack, its generator, and its acceptors. -/
def new (tcp_socket_buf_size : ℕ) (interface : S.Interface) : System S where
  stack := .new tcp_socket_buf_size interface
  driving := none
  batches := []
  tcp_streams := []
  udp_sockets := []
  futures := []
  issued := []

/-- The events that `generate` has taken from the channel and that were not handled. -/
def collected (s : System S) : List OperationEvent := s.batches.flatten ++ s.driving.getD []

/-- The events that were sent and not handled: in the channel, in wakers, in batches. -/
def pending (s : System S) : Multiset OperationEvent := s.stack.pending + ↑s.collected

/-- The sockets that user-held streams are for. -/
def streams (s : System S) : List TypedSocketHandle :=
  s.tcp_streams.map (fun stream => .tcp stream.handle) ++
    s.udp_sockets.map fun socket => .udp socket.handle

/-- The sockets that wait in the acceptors' channels. -/
def infos (s : System S) : List TypedSocketHandle :=
  s.stack.tcp_stream.queue.map (fun info => .tcp info.handle) ++
    s.stack.udp_stream.queue.map fun info => .udp info.handle

/-- The event that the running call of `drive_once` handles next. -/
def next_event (s : System S) : Option OperationEvent := s.driving.bind List.head?

/-- The batch of the given number, and the other batches. -/
def take_batch (s : System S) (batch : Option ℕ) :
    Option (List OperationEvent × List (List OperationEvent)) :=
  match batch with
  | none => some ([], s.batches)
  | some i => s.batches[i]?.map fun events => (events, s.batches.eraseIdx i)

/-- No call on the socket is running. -/
def idle (s : System S) (h : TypedSocketHandle) : Bool := s.futures.all fun f => f.handle ≠ h

/-- The user holds the stream or socket that the call is made on. -/
def holds (s : System S) : Call → Bool
  | .read stream _ => stream ∈ s.tcp_streams
  | .write stream _ => stream ∈ s.tcp_streams
  | .shutdown stream => stream ∈ s.tcp_streams
  | .recv socket _ => socket ∈ s.udp_sockets
  | .send socket _ _ => socket ∈ s.udp_sockets

/-- The request that a call issues. -/
def issue (s : System S) (c : Call) : System S :=
  let id := s.issued.length
  let stack := { s.stack with memory := Function.update s.stack.memory id c.buf }
  { s with
    stack := stack.send_event (c.event id)
    futures := s.futures ++ [⟨c.handle, id⟩]
    issued := s.issued ++ [c.handle] }

/-- The events that a call of `drive_once` still has to handle after it began. -/
def begun (events : List OperationEvent) : Except DriveError Unit → Option (List OperationEvent)
  | .ok () => some (passes events)
  | .error _ => none

/-- The state after an action, if the action is possible and does not panic. -/
def step (s : System S) : Action → Option (System S)
  | .start packet now batch =>
    if s.driving.isSome then none
    else match s.take_batch batch with
      | none => none
      | some (events, batches) =>
        match s.stack.begin_drive packet now with
        | .error _ => none
        -- After an error the batch is dropped with its events.
        | .ok (stack, res) => some { s with stack, batches, driving := begun events res }
  | .event =>
    match s.driving with
    | some (e :: events) =>
      match s.stack.handle e with
      | .error _ => none
      | .ok stack => some { s with stack, driving := some events }
    | _ => none
  | .finish =>
    match s.driving with
    | some [] => some { s with stack := s.stack.pop_all_send_packets, driving := none }
    | _ => none
  | .generate =>
    let ch := s.stack.operation_event
    if ch.connected ∧ ch.queue ≠ [] then
      some { s with
        stack := { s.stack with operation_event := ch.drain }
        batches := s.batches ++ [ch.queue] }
    else none
  | .drop_batch i =>
    if i < s.batches.length then some { s with batches := s.batches.eraseIdx i } else none
  | .drop_generator =>
    some { s with stack := { s.stack with operation_event := s.stack.operation_event.disconnect } }
  | .accept_tcp =>
    match s.stack.tcp_stream.queue with
    | [] => none
    | info :: _ => some { s with
        stack := { s.stack with tcp_stream := s.stack.tcp_stream.recv }
        tcp_streams := s.tcp_streams ++ [info] }
  | .accept_udp =>
    match s.stack.udp_stream.queue with
    | [] => none
    | info :: _ => some { s with
        stack := { s.stack with udp_stream := s.stack.udp_stream.recv }
        udp_sockets := s.udp_sockets ++ [info] }
  | .drop_tcp_acceptor =>
    some { s with stack := { s.stack with tcp_stream := s.stack.tcp_stream.disconnect } }
  | .drop_udp_acceptor =>
    some { s with stack := { s.stack with udp_stream := s.stack.udp_stream.disconnect } }
  | .call c =>
    if s.holds c then
      -- Without a receiver, `send` fails and the call returns its error at once.
      some (if s.stack.operation_event.connected then s.issue c else s)
    else none
  | .return_ rx =>
    -- `recv_async` returns when there is an answer, or when no sender is left.
    if rx ∈ s.futures.map Future.rx ∧ (rx ∈ s.stack.answers.map Prod.fst ∨
        rx ∉ s.pending.filterMap result_tx) then
      some { s with futures := s.futures.filter fun f => f.rx ≠ rx }
    else none
  | .drop_future rx =>
    if rx ∈ s.futures.map Future.rx then
      some { s with futures := s.futures.filter fun f => f.rx ≠ rx }
    else none
  | .drop_tcp_stream stream =>
    if stream ∈ s.tcp_streams ∧ s.idle (.tcp stream.handle) then
      some { s with
        stack := s.stack.send_event (.close (.tcp stream.handle))
        tcp_streams := s.tcp_streams.erase stream }
    else none
  | .drop_udp_socket socket =>
    if socket ∈ s.udp_sockets ∧ s.idle (.udp socket.handle) then
      some { s with
        stack := s.stack.send_event (.close (.udp socket.handle))
        udp_sockets := s.udp_sockets.erase socket }
    else none

/-! ## What a step does -/

/-- What an action does, by cases that the invariants go through. -/
inductive Steps (s : System S) (a : Action) (s' : System S) : Prop
  | started (packet : Option Packet) (now : ℕ) (batch : Option ℕ) (events : List OperationEvent)
      (batches : List (List OperationEvent)) (stack : TcpStack S) (res : Except DriveError Unit)
      (action : a = .start packet now batch) (rest : s.driving = none)
      (took : s.take_batch batch = some (events, batches))
      (ok : s.stack.begin_drive packet now = .ok (stack, res))
      (eq : s' = { s with stack, batches, driving := begun events res })
  | handled (e : OperationEvent) (events : List OperationEvent) (stack : TcpStack S)
      (action : a = .event) (driving : s.driving = some (e :: events))
      (ok : s.stack.handle e = .ok stack)
      (eq : s' = { s with stack, driving := some events })
  | finished (action : a = .finish) (driving : s.driving = some [])
      (eq : s' = { s with stack := s.stack.pop_all_send_packets, driving := none })
  | generated (action : a = .generate) (connected : s.stack.operation_event.connected = true)
      (eq : s' = { s with
        stack := { s.stack with operation_event := s.stack.operation_event.drain }
        batches := s.batches ++ [s.stack.operation_event.queue] })
  | batch_dropped (i : ℕ) (action : a = .drop_batch i)
      (eq : s' = { s with batches := s.batches.eraseIdx i })
  | generator_dropped (action : a = .drop_generator) (eq : s' = { s with
      stack := { s.stack with operation_event := s.stack.operation_event.disconnect } })
  | accepted_tcp (info : TcpInfo) (rest : List TcpInfo) (action : a = .accept_tcp)
      (queue : s.stack.tcp_stream.queue = info :: rest) (eq : s' = { s with
        stack := { s.stack with tcp_stream := s.stack.tcp_stream.recv }
        tcp_streams := s.tcp_streams ++ [info] })
  | accepted_udp (info : UdpInfo) (rest : List UdpInfo) (action : a = .accept_udp)
      (queue : s.stack.udp_stream.queue = info :: rest) (eq : s' = { s with
        stack := { s.stack with udp_stream := s.stack.udp_stream.recv }
        udp_sockets := s.udp_sockets ++ [info] })
  | tcp_acceptor_dropped (action : a = .drop_tcp_acceptor) (eq : s' = { s with
      stack := { s.stack with tcp_stream := s.stack.tcp_stream.disconnect } })
  | udp_acceptor_dropped (action : a = .drop_udp_acceptor) (eq : s' = { s with
      stack := { s.stack with udp_stream := s.stack.udp_stream.disconnect } })
  | called (c : Call) (action : a = .call c) (held : c.handle ∈ s.streams)
      (connected : s.stack.operation_event.connected = true) (eq : s' = s.issue c)
  | refused (c : Call) (action : a = .call c)
      (connected : s.stack.operation_event.connected = false) (eq : s' = s)
  | returned (futures : List Future) (action : (∃ rx, a = .return_ rx) ∨ ∃ rx, a = .drop_future rx)
      (sub : futures.Sublist s.futures) (eq : s' = { s with futures })
  | tcp_stream_dropped (stream : TcpInfo) (action : a = .drop_tcp_stream stream)
      (held : stream ∈ s.tcp_streams) (idle : s.idle (.tcp stream.handle) = true)
      (eq : s' = { s with
        stack := s.stack.send_event (.close (.tcp stream.handle))
        tcp_streams := s.tcp_streams.erase stream })
  | udp_socket_dropped (socket : UdpInfo) (action : a = .drop_udp_socket socket)
      (held : socket ∈ s.udp_sockets) (idle : s.idle (.udp socket.handle) = true)
      (eq : s' = { s with
        stack := s.stack.send_event (.close (.udp socket.handle))
        udp_sockets := s.udp_sockets.erase socket })

/-- A call is made on a stream or socket that the user holds. -/
theorem mem_streams_of_holds {s : System S} {c : Call} (h : s.holds c = true) :
    c.handle ∈ s.streams := by
  cases c <;> simp only [holds, decide_eq_true_eq] at h <;>
    simp only [streams, Call.handle, List.mem_append, List.mem_map]
  · exact .inl ⟨_, h, rfl⟩
  · exact .inl ⟨_, h, rfl⟩
  · exact .inl ⟨_, h, rfl⟩
  · exact .inr ⟨_, h, rfl⟩
  · exact .inr ⟨_, h, rfl⟩

/-- A step does nothing but what `Steps` lists. -/
theorem steps_of_step {s s' : System S} {a : Action} (h : s.step a = some s') : Steps s a s' := by
  cases a with
  | start packet now batch =>
    simp only [step] at h
    split at h
    · cases h
    rename_i hd
    split at h
    · cases h
    rename_i events batches ht
    cases hb : s.stack.begin_drive packet now with
    | error panic => simp [hb] at h
    | ok r =>
      simp only [hb] at h
      cases h
      exact .started packet now batch events batches r.1 r.2 rfl (by simpa using hd) ht hb rfl
  | event =>
    simp only [step] at h
    split at h
    · rename_i e events hd
      split at h
      · cases h
      · rename_i stack hh
        cases h
        exact .handled e events stack rfl hd hh rfl
    · cases h
  | finish =>
    simp only [step] at h
    split at h
    · rename_i hd
      cases h
      exact .finished rfl hd rfl
    · cases h
  | generate =>
    simp only [step] at h
    split at h
    · rename_i hc
      cases h
      exact .generated rfl hc.1 rfl
    · cases h
  | drop_batch i =>
    simp only [step] at h
    split at h
    · cases h
      exact .batch_dropped i rfl rfl
    · cases h
  | drop_generator =>
    cases h
    exact .generator_dropped rfl rfl
  | accept_tcp =>
    simp only [step] at h
    split at h
    · cases h
    · rename_i info rest hq
      cases h
      exact .accepted_tcp info rest rfl hq rfl
  | accept_udp =>
    simp only [step] at h
    split at h
    · cases h
    · rename_i info rest hq
      cases h
      exact .accepted_udp info rest rfl hq rfl
  | drop_tcp_acceptor =>
    cases h
    exact .tcp_acceptor_dropped rfl rfl
  | drop_udp_acceptor =>
    cases h
    exact .udp_acceptor_dropped rfl rfl
  | call c =>
    simp only [step] at h
    split at h
    · rename_i hh
      cases hc : s.stack.operation_event.connected with
      | true =>
        simp only [hc, if_true] at h
        cases h
        exact .called c rfl (mem_streams_of_holds hh) hc rfl
      | false =>
        simp only [hc, Bool.false_eq_true, if_false] at h
        cases h
        exact .refused c rfl hc rfl
    · cases h
  | return_ rx =>
    simp only [step] at h
    split at h
    · cases h
      exact .returned _ (.inl ⟨rx, rfl⟩) List.filter_sublist rfl
    · cases h
  | drop_future rx =>
    simp only [step] at h
    split at h
    · cases h
      exact .returned _ (.inr ⟨rx, rfl⟩) List.filter_sublist rfl
    · cases h
  | drop_tcp_stream stream =>
    simp only [step] at h
    split at h
    · rename_i hh
      cases h
      exact .tcp_stream_dropped stream rfl hh.1 hh.2 rfl
    · cases h
  | drop_udp_socket socket =>
    simp only [step] at h
    split at h
    · rename_i hh
      cases h
      exact .udp_socket_dropped socket rfl hh.1 hh.2 rfl
    · cases h

/-- What a step does to the sockets: it begins a call of `drive_once`, handles an event, or leaves
them alone. -/
inductive StackStep (s : System S) (a : Action) (s' : System S) : Prop
  | began (packet : Option Packet) (now : ℕ) (batch : Option ℕ) (res : Except DriveError Unit)
      (action : a = .start packet now batch)
      (ok : s.stack.begin_drive packet now = .ok (s'.stack, res))
  | handled (e : OperationEvent) (action : a = .event) (next : s.next_event = some e)
      (ok : s.stack.handle e = .ok s'.stack)
  | outside (socket_set : s'.stack.socket_set = s.stack.socket_set)
      (socket_handles : s'.stack.socket_handles = s.stack.socket_handles)
      (accepted_udp_sockets : s'.stack.accepted_udp_sockets = s.stack.accepted_udp_sockets)
      (rx_queue : s'.stack.virtual_iface.rx_queue = s.stack.virtual_iface.rx_queue)
      (interface : s'.stack.interface = s.stack.interface)

/-- What a step does to the stack. -/
theorem stack_step {s s' : System S} {a : Action} (h : s.step a = some s') :
    StackStep s a s' := by
  cases steps_of_step h with
  | started packet now batch events batches stack res action rest took ok eq =>
    subst eq
    exact .began packet now batch res action ok
  | handled e events stack action driving ok eq =>
    subst eq
    exact .handled e action (by rw [next_event, driving]; rfl) ok
  | finished action driving eq => subst eq; exact .outside rfl rfl rfl rfl rfl
  | generated action connected eq => subst eq; exact .outside rfl rfl rfl rfl rfl
  | batch_dropped i action eq => subst eq; exact .outside rfl rfl rfl rfl rfl
  | generator_dropped action eq => subst eq; exact .outside rfl rfl rfl rfl rfl
  | accepted_tcp info rest action queue eq => subst eq; exact .outside rfl rfl rfl rfl rfl
  | accepted_udp info rest action queue eq => subst eq; exact .outside rfl rfl rfl rfl rfl
  | tcp_acceptor_dropped action eq => subst eq; exact .outside rfl rfl rfl rfl rfl
  | udp_acceptor_dropped action eq => subst eq; exact .outside rfl rfl rfl rfl rfl
  | called c action held connected eq => subst eq; exact .outside rfl rfl rfl rfl rfl
  | refused c action connected eq => subst eq; exact .outside rfl rfl rfl rfl rfl
  | returned futures action sub eq => subst eq; exact .outside rfl rfl rfl rfl rfl
  | tcp_stream_dropped stream action held idle eq => subst eq; exact .outside rfl rfl rfl rfl rfl
  | udp_socket_dropped socket action held idle eq => subst eq; exact .outside rfl rfl rfl rfl rfl

/-- What a step does to the running call of `drive_once`: it begins it, handles its next event, or
goes on beside it. A call that returns has nothing left to do. -/
inductive CallStep (s : System S) (a : Action) (s' : System S) : Prop
  | started (packet : Option Packet) (now : ℕ) (batch : Option ℕ) (events : List OperationEvent)
      (batches : List (List OperationEvent)) (stack : TcpStack S) (res : Except DriveError Unit)
      (action : a = .start packet now batch) (rest : s.driving = none)
      (took : s.take_batch batch = some (events, batches))
      (ok : s.stack.begin_drive packet now = .ok (stack, res))
      (eq : s' = { s with stack, batches, driving := begun events res })
  | handled (e : OperationEvent) (events : List OperationEvent) (stack : TcpStack S)
      (action : a = .event) (driving : s.driving = some (e :: events))
      (ok : s.stack.handle e = .ok stack)
      (eq : s' = { s with stack, driving := some events })
  | beside (driving : s'.driving = s.driving ∨ s'.driving = none)
      (socket_set : s'.stack.socket_set = s.stack.socket_set)
      (answers : s'.stack.answers = s.stack.answers)

/-- What a step does to the calls. -/
theorem call_step {s s' : System S} {a : Action} (h : s.step a = some s') : CallStep s a s' := by
  cases steps_of_step h with
  | started packet now batch events batches stack res action rest took ok eq =>
    exact .started packet now batch events batches stack res action rest took ok eq
  | handled e events stack action driving ok eq =>
    exact .handled e events stack action driving ok eq
  | finished action driving eq => subst eq; exact .beside (.inr rfl) rfl rfl
  | generated action connected eq => subst eq; exact .beside (.inl rfl) rfl rfl
  | batch_dropped i action eq => subst eq; exact .beside (.inl rfl) rfl rfl
  | generator_dropped action eq => subst eq; exact .beside (.inl rfl) rfl rfl
  | accepted_tcp info rest action queue eq => subst eq; exact .beside (.inl rfl) rfl rfl
  | accepted_udp info rest action queue eq => subst eq; exact .beside (.inl rfl) rfl rfl
  | tcp_acceptor_dropped action eq => subst eq; exact .beside (.inl rfl) rfl rfl
  | udp_acceptor_dropped action eq => subst eq; exact .beside (.inl rfl) rfl rfl
  | called c action held connected eq => subst eq; exact .beside (.inl rfl) rfl rfl
  | refused c action connected eq => subst eq; exact .beside (.inl rfl) rfl rfl
  | returned futures action sub eq => subst eq; exact .beside (.inl rfl) rfl rfl
  | tcp_stream_dropped stream action held idle eq => subst eq; exact .beside (.inl rfl) rfl rfl
  | udp_socket_dropped socket action held idle eq => subst eq; exact .beside (.inl rfl) rfl rfl

/-- The next event is the first of those of the running call. -/
theorem driving_of_next {s : System S} {e : OperationEvent} (next : s.next_event = some e) :
    ∃ events, s.driving = some (e :: events) := by
  obtain ⟨events, driving, head⟩ := Option.bind_eq_some_iff.mp next
  obtain ⟨rest, rfl⟩ := List.head?_eq_some_iff.mp head
  exact ⟨rest, driving⟩

/-- The step that handles an event handles the next one. -/
theorem handled_of_step {s s' : System S} {e : OperationEvent} (h : s.step .event = some s')
    (next : s.next_event = some e) :
    ∃ events stack, s.driving = some (e :: events) ∧ s.stack.handle e = .ok stack ∧
      s' = { s with stack, driving := some events } := by
  simp only [step] at h
  split at h
  · rename_i e' events hd
    obtain rfl : e' = e := by simpa [next_event, hd] using next
    split at h
    · cases h
    · rename_i stack hh
      cases h
      exact ⟨events, stack, hd, hh, rfl⟩
  · cases h

/-! ## `drive_once` as a run -/

/-- Handling a list of events is a run of steps. -/
theorem run_of_handle_in_order {s : System S} {t : TcpStack S} {events : List OperationEvent}
    (hd : s.driving = some events) (ok : s.stack.handle_in_order events = .ok t) :
    Reachable step s { s with stack := t, driving := some [] } := by
  induction events generalizing s with
  | nil =>
    cases ok
    rw [← hd]
    exact .refl
  | cons e events ih =>
    obtain ⟨u, hu, ok⟩ := except_bind_eq_ok.mp ok
    set r : System S := { s with stack := u, driving := some events }
    refine .head trivial (a := .event) (t := r) ?_ (ih (s := r) rfl ok)
    simp only [step, hd, hu]
    rfl

/-- A call of `drive_once` that returns is a run of steps, with a batch that the caller holds. -/
theorem run_of_drive_once {s : System S} {t : TcpStack S} {packet : Option Packet} {now : ℕ}
    {batch : Option ℕ} {events : List OperationEvent} {batches : List (List OperationEvent)}
    {res : Except DriveError (List Packet × Option ℕ)} (rest : s.driving = none)
    (took : s.take_batch batch = some (events, batches))
    (ok : s.stack.drive_once packet now (some events) = .ok (t, res)) :
    Reachable step s { s with stack := t, batches } := by
  obtain ⟨⟨u, _ | ⟨⟩⟩, hb, ok⟩ := except_bind_eq_ok.mp ok
  · cases ok
    refine .tail .refl trivial (a := .start packet now batch) ?_
    simp only [step, rest, took, hb]
    rfl
  · obtain ⟨v, hv, ok⟩ := except_bind_eq_ok.mp ok
    cases ok
    rw [TcpStack.handle_events_eq] at hv
    set r : System S := { s with stack := u, batches, driving := some (passes events) }
    refine .head trivial (a := .start packet now batch) (t := r) ?_ (.tail
      (run_of_handle_in_order (s := r) rfl hv) trivial (a := .finish) ?_)
    · simp only [step, rest, took, hb]
      rfl
    · simp only [step, ← rest]
      rfl

end System

end L3Extract
