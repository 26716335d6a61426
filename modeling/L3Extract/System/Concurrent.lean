import L3Extract.Stack.Tokens
import L3Extract.System.Account

/-!
# The stack and its users, operation by operation

`Concurrent` is `System` with its threads. A handler does not run as one step: the thread that
drives the stack gets its operations (`Op`), and does them one at a time, while users call, return,
and drop their futures, and while the generator or a batch is dropped by another thread. Dropping
something that holds events is a thread too, with what the fields of these events do when they are
dropped.

The references to buffers are counted as `Arc` does, and the senders of result channels are. A call
makes the buffer with its two references and the result channel with its sender, and puts the
request into the event channel; when that fails it drops its own reference and casts the one that
came back. A call that waits may return once there is an answer, or no sender is left; it then casts
its reference. `casts` has the counts that the casts found: `Arc::into_inner` gives the buffer when
the count is 1, and otherwise the `expect` in `cast_dyn_io_buf` panics.
-/

namespace L3Extract

open OperationEvent Transition Threads

variable {S : Smoltcp}

/-- The stack with its surroundings and the threads that are at work. -/
structure Concurrent (S : Smoltcp) where
  sys : System S
  /-- The stack was dropped. -/
  dropped : Bool
  /-- What each thread has still to do. The first thread is the one that drives the stack. -/
  threads : List (List (Op S))
  /-- The buffers of the calls that wait: each call has a reference to its own. -/
  callers : List BufferId
  /-- `Arc::strong_count` -/
  strong_count : BufferId → ℕ
  /-- The number of senders of each result channel. -/
  senders : ResultTx → ℕ
  /-- The reference counts that `cast_dyn_io_buf` and `cast_dyn_io_buf_mut` found. -/
  casts : List ℕ

/-- What can happen next. -/
inductive Turn
  /-- The thread of the given number does its next operation. -/
  | run (i : ℕ)
  /-- The stack is dropped. -/
  | drop_stack
  /-- `EventGenerator::generate` fails as no sender is left. -/
  | generate_failed
  /-- An action of one of the parties, whose operations then go to a thread. -/
  | act (a : Action)

/-- What a call does when the event channel is disconnected: it drops its own reference, and casts
the one in the event that came back. -/
def Call.refused_ops (id : ℕ) : Call → List (Op S)
  | .shutdown _ => [.close id]
  | _ => [.release id, .cast id, .close id]

namespace Concurrent

/-- A new stack, its generator, and its acceptors. -/
def new (tcp_socket_buf_size : ℕ) (interface : S.Interface) : Concurrent S where
  sys := .new tcp_socket_buf_size interface
  dropped := false
  threads := [[]]
  callers := []
  strong_count _ := 0
  senders _ := 0
  casts := []

/-- The thread that drives the stack has nothing left to do. -/
def idle (s : Concurrent S) : Bool := s.threads[0]?.any List.isEmpty

/-- Everything that can send events was dropped. -/
def no_senders (s : Concurrent S) : Bool :=
  s.dropped && !s.sys.stack.tcp_stream.connected && !s.sys.stack.udp_stream.connected &&
    s.sys.tcp_streams.isEmpty && s.sys.udp_sockets.isEmpty

/-- A reference to a buffer is dropped. -/
def drop_ref (s : Concurrent S) (b : BufferId) : Concurrent S :=
  { s with strong_count := Function.update s.strong_count b (s.strong_count b - 1) }

/-- What an operation does to the counts. -/
def count (s : Concurrent S) : Op S → Concurrent S
  | .release b => s.drop_ref b
  | .close tx => { s with senders := Function.update s.senders tx (s.senders tx - 1) }
  | .cast b => { s.drop_ref b with casts := s.casts ++ [s.strong_count b] }
  | _ => s

/-- The thread of the given number does its next operation. -/
def run (s : Concurrent S) (i : ℕ) : Option (Concurrent S) :=
  match s.threads[i]? with
  | some (op :: ops) =>
    let stack := s.sys.stack
    some { s.count op with
      sys := { s.sys with stack := stack.apply op }
      threads := s.threads.set i (stack.next op ++ ops) }
  | _ => none

/-- The thread that drives the stack gets operations to do. -/
def load (s : Concurrent S) (ops : List (Op S)) : Concurrent S :=
  { s with threads := s.threads.set 0 ops }

/-- Another thread gets operations to do. -/
def spawn (s : Concurrent S) (ops : List (Op S)) : Concurrent S :=
  { s with threads := s.threads ++ [ops] }

/-- `drive_once` is called. -/
def start (s : Concurrent S) (packet : Option Packet) (now : ℕ) (batch : Option ℕ) :
    Option (Concurrent S) :=
  if s.dropped || s.sys.driving.isSome || !s.idle then none
  else match s.sys.take_batch batch with
    | none => none
    | some (events, batches) =>
      match s.sys.stack.arrive packet with
      | .error _ => none
      | .ok (stack, .error _) =>
        some ({ s with sys := { s.sys with stack, batches } }.load (events.flatMap drop_ops))
      | .ok (stack, .ok ()) =>
        if stack.poll_panics now then none
        else
          some ({ s with
            sys := { s.sys with stack, batches, driving := some (passes events) } }.load
              (stack.poll_ops now))

/-- The running call of `drive_once` comes to its next event. -/
def event (s : Concurrent S) : Option (Concurrent S) :=
  match s.sys.driving with
  | some (e :: events) =>
    if s.idle then
      match s.sys.stack.handle_ops e with
      | .error _ => none
      | .ok ops => some ({ s with sys := { s.sys with driving := some events } }.load ops)
    else none
  | _ => none

/-- A user calls a method: the buffer has two references, and the result channel one sender. -/
def call (s : Concurrent S) (c : Call) : Concurrent S :=
  let id := s.sys.issued.length
  let buffers := (c.event id).buffer.toList
  let s := { s with
    strong_count := if buffers = [] then s.strong_count else Function.update s.strong_count id 2
    senders := Function.update s.senders id 1 }
  if s.sys.stack.operation_event.connected then
    { s with sys := s.sys.issue c, callers := s.callers ++ buffers }
  else
    { s with sys := { s.sys with issued := s.sys.issued ++ [c.handle] } }.spawn (c.refused_ops id)

/-- The call with the given result channel can see its outcome. -/
def learns (s : Concurrent S) (rx : ResultTx) : Bool :=
  rx ∈ s.sys.stack.answers.map Prod.fst || s.senders rx = 0

/-- The future of a call is gone. -/
def forget (s : Concurrent S) (rx : ResultTx) : Concurrent S :=
  { s with
    sys := { s.sys with futures := s.sys.futures.filter fun f => f.rx ≠ rx }
    callers := s.callers.erase rx }

/-- What happens when it is the turn of `a`. -/
def act (s : Concurrent S) (a : Action) : Option (Concurrent S) :=
  match a with
  | .start packet now batch => s.start packet now batch
  | .event => s.event
  | .finish => if s.idle then (s.sys.step .finish).map fun sys => { s with sys } else none
  | .drop_batch i => (s.sys.step (.drop_batch i)).map fun sys =>
    { s with sys }.spawn ((s.sys.batches.getD i []).flatMap drop_ops)
  | .drop_generator => (s.sys.step .drop_generator).map fun sys =>
    { s with sys }.spawn (s.sys.stack.operation_event.queue.flatMap drop_ops)
  | .call c => if s.sys.holds c then some (s.call c) else none
  | .return_ rx =>
    if rx ∈ s.sys.futures.map Future.rx ∧ s.learns rx then
      some ((s.forget rx).spawn (if rx ∈ s.callers then [.cast rx] else []))
    else none
  | .drop_future rx =>
    if rx ∈ s.sys.futures.map Future.rx then
      some (if rx ∈ s.callers then (s.forget rx).drop_ref rx else s.forget rx)
    else none
  | a => (s.sys.step a).map fun sys => { s with sys }

/-- The state after a turn, if it is possible and does not panic. -/
def step (s : Concurrent S) : Turn → Option (Concurrent S)
  | .run i => s.run i
  | .drop_stack =>
    if s.dropped || s.sys.driving.isSome || !s.idle then none
    else
      let stack := s.sys.stack
      some ({ s with
        sys := { s.sys with stack := { stack with socket_set := .empty } }
        dropped := true }.load stack.drop_stack_ops)
  | .generate_failed =>
    if s.no_senders then
      let stack := s.sys.stack
      some ({ s with sys := { s.sys with
        stack := { stack with operation_event := stack.operation_event.drain } } }.spawn
          (stack.operation_event.queue.flatMap drop_ops))
    else none
  | .act a => s.act a

end Concurrent

end L3Extract
