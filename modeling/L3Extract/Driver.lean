import L3Extract.Lib.Flow
import L3Extract.System.Retention
import L3Extract.Smoltcp.Reference

/-!
# The driver

`run_stack` of `examples/echo.rs`, which all examples use, is the caller that the stack is written
for. Four tasks on threads of their own share the work: the read task takes packets from a tun
device, the events task takes batches from the `EventGenerator`, the drive task hands both to
`drive_once`, and the write task gives what that returns to the device. Between them are unbounded
channels. `Driver` is a stack and its users with these tasks, and `step` takes one of their steps,
in any order. When the drive task ends, the stack is dropped with it, and the other tasks come to
know it by their channels; what users do with a stack that is gone is not part of the model.

`driver_refines` shows that the driver is a caller as the results on `System` want it: it keeps the
`EventGenerator` and every batch, and hands each over once and in order, as it does with the packets
both ways.
-/

namespace L3Extract

open OperationEvent Transition Flow

variable {S : Smoltcp}

/-- `MTU` of the examples. -/
def driver_mtu : ℕ := 1500

/-- What the drive task does next. -/
inductive DriveTask
  /-- It waits at its `Selector`, and no longer than `sleep`. -/
  | selecting (sleep : Option ℕ)
  /-- It received a packet, and looks for a batch. -/
  | got_packet (packet : Packet)
  /-- It received a batch, and looks for a packet. -/
  | got_events (events : List OperationEvent)
  /-- It calls `drive_once`. -/
  | calling (packet : Option Packet) (events : Option (List OperationEvent))
  /-- `drive_once`, which was called at `now`, goes through its events. -/
  | driving (now : ℕ)
  /-- It sends the packets that `drive_once` returned. -/
  | sending (packets : List Packet) (sleep : Option ℕ)
  /-- It returned an error, or panicked. -/
  | stopped
  deriving DecidableEq

namespace DriveTask

/-- The packet that the task has in its hands. -/
def packet : DriveTask → Option Packet
  | got_packet packet => some packet
  | calling packet _ => packet
  | _ => none

/-- The batch that the task has in its hands. -/
def events : DriveTask → Option (List OperationEvent)
  | got_events events => some events
  | calling _ events => events
  | _ => none

/-- The packets that the task has still to send. -/
def write_packets : DriveTask → List Packet
  | sending packets _ => packets
  | _ => []

/-- `drive_once` is running. -/
def drives : DriveTask → Bool
  | driving _ => true
  | _ => false

end DriveTask

/-- A stack and its users, and the tasks of `run_stack` with their channels. -/
structure Driver (S : Smoltcp) where
  /-- When the drive task has ended, the stack is gone but for the event channel, which the events
  task has the receiver of. -/
  sys : System S
  /-- The buffer of the read task, as long as it runs. -/
  buffer : Option Bytes
  /-- What is in the channel from the read task to the drive task. -/
  read_packet : List Packet
  /-- The batch that the events task has yet to send. -/
  generated : Option (List OperationEvent)
  /-- What is in the channel from the events task to the drive task. -/
  events : List (List OperationEvent)
  drive : DriveTask
  /-- The channel to the write task, which is connected as long as that runs. -/
  write_packet : Channel Packet
  /-- The packets that came from the device. -/
  received : List Bytes
  /-- The packets that were written to the device. -/
  written : List Packet

/-- A step of one of the tasks, or of a user. -/
inductive DriverAction
  /-- `read` returns in the read task: the device has the given packet, or none any more. -/
  | read (data : Bytes)
  /-- `read` returns an error. -/
  | read_failed
  /-- `generate` returns in the events task. -/
  | generate
  /-- `events_tx.send(events)` -/
  | send_events
  /-- The `Selector` finds something in the channel of packets, or that it is disconnected. -/
  | recv_packet
  /-- The `Selector` finds something in the channel of batches. -/
  | recv_events
  /-- `wait_timeout` runs out. -/
  | timeout
  /-- `try_recv` at the other channel -/
  | try_recv
  /-- `drive_once` is called. -/
  | drive_once (now : ℕ)
  /-- `drive_once` handles its next event. -/
  | event
  /-- `drive_once` returns. -/
  | finish
  /-- `write_packet_tx.send(packet)`, or the end of its loop -/
  | send
  /-- The write task receives a packet and writes it, or finds the channel disconnected. -/
  | write
  /-- The write task receives a packet, and `write` returns an error. -/
  | write_failed
  | user (a : Action)
  deriving DecidableEq

/-- The action is one of the users of acceptors, streams, and sockets. -/
def Action.by_user : Action → Bool
  | .accept_tcp | .accept_udp | .drop_tcp_acceptor | .drop_udp_acceptor => true
  | .call _ | .return_ _ | .drop_future _ => true
  | .drop_tcp_stream _ | .drop_udp_socket _ => true
  | _ => false

namespace Driver

/-- `run_stack` for a new stack. -/
def new (tcp_socket_buf_size : ℕ) (interface : S.Interface) : Driver S where
  sys := .new tcp_socket_buf_size interface
  buffer := some []
  read_packet := []
  generated := none
  events := []
  drive := .selecting none
  write_packet := .unbounded
  received := []
  written := []

/-- The read task after `read` put `data` into its buffer, as much as fits. -/
def after_read (d : Driver S) (buffer data : Bytes) : Driver S :=
  let buffer :=
    if buffer.length < driver_mtu then
      buffer ++ List.replicate (driver_mtu - buffer.length) 0
    else buffer
  let n := min data.length buffer.length
  -- "tun read EOF"
  if n = 0 then { d with buffer := none }
  -- `send_async` fails without the drive task.
  else if d.drive = .stopped then { d with buffer := none, received := d.received ++ [data] }
  else
    let buffer := data.take n ++ buffer.drop n
    -- `buffer.split_to(n)`
    { d with
      buffer := some (buffer.drop n)
      read_packet := d.read_packet ++ [buffer.take n]
      received := d.received ++ [data] }

/-- The drive task ends. The stack is dropped, and so are the task's ends of the channels, with what
is in them. -/
def stop (d : Driver S) : Driver S := { d with drive := .stopped, read_packet := [], events := [] }

/-- The events task ends, and the `EventGenerator` is dropped. -/
def stop_events (d : Driver S) : Driver S := { d with
  sys := { d.sys with
    stack := { d.sys.stack with operation_event := d.sys.stack.operation_event.disconnect } }
  generated := none }

/-- Somebody besides the stack has a sender of the event channel: a stream, a socket, or an
acceptor. -/
def sender_left (d : Driver S) : Bool :=
  !d.sys.tcp_streams.isEmpty || !d.sys.udp_sockets.isEmpty || d.sys.stack.tcp_stream.connected ||
    d.sys.stack.udp_stream.connected

/-- The state after a step, if it is possible. -/
def step (d : Driver S) : DriverAction → Option (Driver S)
  | .read data => d.buffer.map fun buffer => d.after_read buffer data
  | .read_failed => d.buffer.map fun _ => { d with buffer := none }
  | .generate =>
    match d.generated, d.sys.step .generate with
    | none, some sys =>
      -- `collect_nonblock` returns `Disconnected` when no sender is left.
      if d.drive = .stopped ∧ d.sender_left = false then some d.stop_events
      else some { d with sys, generated := some d.sys.stack.operation_event.queue }
    | _, _ => none
  | .send_events =>
    d.generated.map fun events =>
      if d.drive = .stopped then d.stop_events
      else { d with generated := none, events := d.events ++ [events] }
  | .recv_packet =>
    match d.drive, d.read_packet with
    | .selecting _, packet :: packets =>
      some { d with read_packet := packets, drive := .got_packet packet }
    -- "read packet failed"
    | .selecting _, [] => if d.buffer.isSome then none else some d.stop
    | _, _ => none
  | .recv_events =>
    match d.drive, d.events with
    | .selecting _, events :: batches =>
      some { d with events := batches, drive := .got_events events }
    | _, _ => none
  | .timeout =>
    match d.drive with
    | .selecting (some _) => some { d with drive := .calling none none }
    | _ => none
  | .try_recv =>
    match d.drive with
    | .got_packet packet =>
      some { d with events := d.events.tail, drive := .calling (some packet) d.events.head? }
    | .got_events events =>
      some { d with
        read_packet := d.read_packet.tail
        drive := .calling d.read_packet.head? (some events) }
    | _ => none
  | .drive_once now =>
    match d.drive with
    | .calling packet events =>
      match d.sys.step (.start packet now (events.map fun _ => 0)) with
      | some sys =>
        -- An error is returned before the events.
        if sys.driving.isSome then some { d with sys, drive := .driving now }
        else some { d.stop with sys }
      -- A panic
      | none => some d.stop
    | _ => none
  | .event =>
    match d.drive, d.sys.next_event with
    | .driving _, some _ =>
      match d.sys.step .event with
      | some sys => some { d with sys }
      | none => some d.stop
    | _, _ => none
  | .finish =>
    match d.drive with
    | .driving now => (d.sys.step .finish).map fun sys =>
      let t := d.sys.stack
      { d with
        sys
        drive := .sending t.virtual_iface.tx_queue (S.poll_delay t.interface now t.sockets) }
    | _ => none
  | .send =>
    match d.drive with
    | .sending (packet :: packets) sleep =>
      if d.write_packet.connected then
        some { d with
          write_packet := d.write_packet.send packet
          drive := .sending packets sleep }
      else some d.stop
    | .sending [] sleep => some { d with drive := .selecting sleep }
    | _ => none
  | .write =>
    match d.write_packet.queue with
    | packet :: _ => some { d with
      write_packet := d.write_packet.recv
      written := d.written ++ [packet] }
    -- "TcpStack stopped"
    | [] =>
      if d.drive = .stopped ∧ d.write_packet.connected then
        some { d with write_packet := d.write_packet.disconnect }
      else none
  | .write_failed =>
    match d.write_packet.queue with
    | _ :: _ => some { d with write_packet := d.write_packet.disconnect }
    | [] => none
  | .user a =>
    if d.drive ≠ .stopped ∧ a.by_user then (d.sys.step a).map fun sys => { d with sys } else none

/-! ## What a step does -/

/-- What a step that does not end the drive task does. -/
inductive Steps (d : Driver S) (a : DriverAction) (d' : Driver S) : Prop
  | read (buffer data : Bytes) (action : a = .read data) (there : d.buffer = some buffer)
      (eq : d' = d.after_read buffer data)
  | read_failed (action : a = .read_failed) (eq : d' = { d with buffer := none })
  | generated (sys : System S) (action : a = .generate) (idle : d.generated = none)
      (steps : d.sys.step .generate = some sys)
      (eq : d' = { d with sys, generated := some d.sys.stack.operation_event.queue })
  | sent_events (events : List OperationEvent) (action : a = .send_events)
      (batch : d.generated = some events)
      (eq : d' = { d with generated := none, events := d.events ++ [events] })
  | got_packet (sleep : Option ℕ) (packet : Packet) (packets : List Packet)
      (action : a = .recv_packet) (task : d.drive = .selecting sleep)
      (queue : d.read_packet = packet :: packets)
      (eq : d' = { d with read_packet := packets, drive := .got_packet packet })
  | got_events (sleep : Option ℕ) (events : List OperationEvent)
      (batches : List (List OperationEvent)) (action : a = .recv_events)
      (task : d.drive = .selecting sleep) (queue : d.events = events :: batches)
      (eq : d' = { d with events := batches, drive := .got_events events })
  | timed_out (sleep : ℕ) (action : a = .timeout) (task : d.drive = .selecting (some sleep))
      (eq : d' = { d with drive := .calling none none })
  | tried_events (packet : Packet) (action : a = .try_recv) (task : d.drive = .got_packet packet)
      (eq : d' = { d with
        events := d.events.tail
        drive := .calling (some packet) d.events.head? })
  | tried_packet (events : List OperationEvent) (action : a = .try_recv)
      (task : d.drive = .got_events events) (eq : d' = { d with
        read_packet := d.read_packet.tail
        drive := .calling d.read_packet.head? (some events) })
  | began (now : ℕ) (packet : Option Packet) (events : Option (List OperationEvent))
      (sys : System S) (action : a = .drive_once now) (task : d.drive = .calling packet events)
      (steps : d.sys.step (.start packet now (events.map fun _ => 0)) = some sys)
      (drives : sys.driving.isSome = true)
      (eq : d' = { d with sys, drive := .driving now })
  | handled (now : ℕ) (sys : System S) (action : a = .event) (task : d.drive = .driving now)
      (steps : d.sys.step .event = some sys) (eq : d' = { d with sys })
  | finished (now : ℕ) (sys : System S) (action : a = .finish) (task : d.drive = .driving now)
      (steps : d.sys.step .finish = some sys) (eq : d' = { d with
        sys
        drive := .sending d.sys.stack.virtual_iface.tx_queue
          (S.poll_delay d.sys.stack.interface now d.sys.stack.sockets) })
  | sent (sleep : Option ℕ) (packet : Packet) (packets : List Packet) (action : a = .send)
      (task : d.drive = .sending (packet :: packets) sleep)
      (connected : d.write_packet.connected = true) (eq : d' = { d with
        write_packet := d.write_packet.send packet
        drive := .sending packets sleep })
  | sent_all (sleep : Option ℕ) (action : a = .send) (task : d.drive = .sending [] sleep)
      (eq : d' = { d with drive := .selecting sleep })
  | wrote (packet : Packet) (packets : List Packet) (action : a = .write)
      (queue : d.write_packet.queue = packet :: packets) (eq : d' = { d with
        write_packet := d.write_packet.recv
        written := d.written ++ [packet] })
  | write_failed (packet : Packet) (packets : List Packet) (action : a = .write_failed)
      (queue : d.write_packet.queue = packet :: packets)
      (eq : d' = { d with write_packet := d.write_packet.disconnect })
  | used (b : Action) (sys : System S) (action : a = .user b) (user : b.by_user = true)
      (steps : d.sys.step b = some sys) (eq : d' = { d with sys })

/-- What a step does when the drive task has ended. -/
inductive Ending (d : Driver S) (a : DriverAction) (d' : Driver S) : Prop
  | read (received : List Bytes) (action : (∃ data, a = .read data) ∨ a = .read_failed)
      (eq : d' = { d with buffer := none, received })
  | generated (sys : System S) (action : a = .generate) (idle : d.generated = none)
      (steps : d.sys.step .generate = some sys)
      (eq : d' = { d with sys, generated := some d.sys.stack.operation_event.queue })
  | generate_failed (sys : System S) (action : a = .generate)
      (steps : d.sys.step .generate = some sys) (eq : d' = d.stop_events)
  | send_failed (events : List OperationEvent) (action : a = .send_events)
      (batch : d.generated = some events) (eq : d' = d.stop_events)
  | wrote (packet : Packet) (packets : List Packet) (action : a = .write)
      (queue : d.write_packet.queue = packet :: packets) (eq : d' = { d with
        write_packet := d.write_packet.recv
        written := d.written ++ [packet] })
  | write_failed (packet : Packet) (packets : List Packet) (action : a = .write_failed)
      (queue : d.write_packet.queue = packet :: packets)
      (eq : d' = { d with write_packet := d.write_packet.disconnect })
  | write_ended (action : a = .write) (queue : d.write_packet.queue = [])
      (connected : d.write_packet.connected = true)
      (eq : d' = { d with write_packet := d.write_packet.disconnect })

/-- The drive task does not go on when it has ended. -/
theorem ending_of_step {d d' : Driver S} {a : DriverAction} (stopped : d.drive = .stopped)
    (h : d.step a = some d') : Ending d a d' := by
  unfold step at h
  cases a with
  | read data =>
    obtain ⟨buffer, there, eq⟩ := Option.map_eq_some_iff.mp h
    unfold after_read at eq
    dsimp only at eq
    rw [if_pos stopped] at eq
    split_ifs at eq
    all_goals exact .read _ (.inl ⟨data, rfl⟩) eq.symm
  | read_failed =>
    obtain ⟨buffer, there, eq⟩ := Option.map_eq_some_iff.mp h
    exact .read _ (.inr rfl) eq.symm
  | generate =>
    dsimp only at h
    split at h
    · rename_i sys idle steps
      split_ifs at h
      · cases h
        exact .generate_failed sys rfl steps rfl
      · cases h
        exact .generated sys rfl idle steps rfl
    · cases h
  | send_events =>
    obtain ⟨events, batch, eq⟩ := Option.map_eq_some_iff.mp h
    rw [if_pos stopped] at eq
    exact .send_failed events rfl batch eq.symm
  | write =>
    dsimp only at h
    split at h
    · rename_i packet packets queue
      cases h
      exact .wrote packet packets rfl queue rfl
    · rename_i queue
      split_ifs at h with ends
      cases h
      exact .write_ended rfl queue ends.2 rfl
  | write_failed =>
    dsimp only at h
    split at h
    · rename_i packet packets queue
      cases h
      exact .write_failed packet packets rfl queue rfl
    · cases h
  | user b => simp [stopped] at h
  | _ => simp [stopped] at h

/-- As long as the drive task runs, a step ends it, or does what `Steps` lists. -/
theorem steps_of_step {d d' : Driver S} {a : DriverAction} (running : d.drive ≠ .stopped)
    (h : d.step a = some d') : d'.drive = .stopped ∨ Steps d a d' := by
  unfold step at h
  cases a with
  | read data =>
    obtain ⟨buffer, there, eq⟩ := Option.map_eq_some_iff.mp h
    exact .inr (.read buffer data rfl there eq.symm)
  | read_failed =>
    obtain ⟨buffer, there, eq⟩ := Option.map_eq_some_iff.mp h
    exact .inr (.read_failed rfl eq.symm)
  | generate =>
    dsimp only at h
    split at h
    · rename_i sys idle steps
      rw [if_neg fun ends => running ends.1] at h
      cases h
      exact .inr (.generated sys rfl idle steps rfl)
    · cases h
  | send_events =>
    obtain ⟨events, batch, eq⟩ := Option.map_eq_some_iff.mp h
    rw [if_neg running] at eq
    exact .inr (.sent_events events rfl batch eq.symm)
  | recv_packet =>
    dsimp only at h
    split at h
    · rename_i sleep packet packets task queue
      cases h
      exact .inr (.got_packet sleep packet packets rfl task queue rfl)
    · split at h
      · cases h
      · cases h
        exact .inl rfl
    · cases h
  | recv_events =>
    dsimp only at h
    split at h
    · rename_i sleep events batches task queue
      cases h
      exact .inr (.got_events sleep events batches rfl task queue rfl)
    · cases h
  | timeout =>
    dsimp only at h
    split at h
    · rename_i sleep task
      cases h
      exact .inr (.timed_out sleep rfl task rfl)
    · cases h
  | try_recv =>
    dsimp only at h
    split at h
    · rename_i packet task
      cases h
      exact .inr (.tried_events packet rfl task rfl)
    · rename_i events task
      cases h
      exact .inr (.tried_packet events rfl task rfl)
    · cases h
  | drive_once now =>
    dsimp only at h
    split at h
    · rename_i packet events task
      split at h
      · rename_i sys steps
        split_ifs at h with drives
        · cases h
          exact .inr (.began now packet events sys rfl task steps drives rfl)
        · cases h
          exact .inl rfl
      · cases h
        exact .inl rfl
    · cases h
  | event =>
    dsimp only at h
    split at h
    · rename_i now e task next
      split at h
      · rename_i sys steps
        cases h
        exact .inr (.handled now sys rfl task steps rfl)
      · cases h
        exact .inl rfl
    · cases h
  | finish =>
    dsimp only at h
    split at h
    · rename_i now task
      obtain ⟨sys, steps, eq⟩ := Option.map_eq_some_iff.mp h
      exact .inr (.finished now sys rfl task steps eq.symm)
    · cases h
  | send =>
    dsimp only at h
    split at h
    · rename_i packet packets sleep task
      split at h
      · rename_i connected
        cases h
        exact .inr (.sent sleep packet packets rfl task connected rfl)
      · cases h
        exact .inl rfl
    · rename_i sleep task
      cases h
      exact .inr (.sent_all sleep rfl task rfl)
    · cases h
  | write =>
    dsimp only at h
    split at h
    · rename_i packet packets queue
      cases h
      exact .inr (.wrote packet packets rfl queue rfl)
    · rw [if_neg fun ends => running ends.1] at h
      cases h
  | write_failed =>
    dsimp only at h
    split at h
    · rename_i packet packets queue
      cases h
      exact .inr (.write_failed packet packets rfl queue rfl)
    · cases h
  | user b =>
    dsimp only at h
    split at h
    · rename_i user
      obtain ⟨sys, steps, eq⟩ := Option.map_eq_some_iff.mp h
      exact .inr (.used b sys rfl user.2 steps eq.symm)
    · cases h

/-- No step starts the drive task again. -/
theorem stopped_of_step {d d' : Driver S} {a : DriverAction} (stopped : d.drive = .stopped)
    (h : d.step a = some d') : d'.drive = .stopped := by
  cases ending_of_step stopped h with
  | read received action eq => rw [eq]; exact stopped
  | generated sys action idle steps eq => rw [eq]; exact stopped
  | generate_failed sys action steps eq => rw [eq]; exact stopped
  | send_failed events action batch eq => rw [eq]; exact stopped
  | wrote packet packets action queue eq => rw [eq]; exact stopped
  | write_failed packet packets action queue eq => rw [eq]; exact stopped
  | write_ended action queue connected eq => rw [eq]; exact stopped

/-! ## The stack and its users under the driver -/

end Driver

/-- What passed into a stack and out of it in a run, in order. -/
structure Passed where
  /-- The packets that `drive_once` was called with. -/
  packets : List Packet
  /-- The batches that `generate` returned. -/
  generated : List (List OperationEvent)
  /-- The batches that `drive_once` was called with. -/
  events : List (List OperationEvent)
  /-- The packets that `drive_once` returned. -/
  write_packets : List Packet

/-- Nothing has passed yet. -/
def Passed.nothing : Passed := ⟨[], [], [], []⟩

/-- What passes in an action. -/
def Passed.note (p : Passed) (s : System S) (a : Action) (_ : System S) : Passed :=
  match a with
  | .start packet _ batch => { p with
    packets := p.packets ++ packet.toList
    events := p.events ++ (batch.bind fun i => s.batches[i]?).toList }
  | .generate => { p with generated := p.generated ++ [s.stack.operation_event.queue] }
  | .finish => { p with write_packets := p.write_packets ++ s.stack.virtual_iface.tx_queue }
  | _ => p

/-- What a user does is not in the record of the driver. -/
theorem Passed.note_of_user (p : Passed) (s s' : System S) {a : Action} (user : a.by_user = true) :
    p.note s a s' = p := by
  cases a <;> simp_all [Action.by_user, note]

namespace System

/-- The caller retains all events, and hands over the oldest batch that it has. -/
def InOrder (s : System S) (a : Action) : Prop :=
  s.Retains a ∧ ∀ packet now i, a = .start packet now (some i) → i = 0

/-- What the users do does not touch what the caller has. -/
theorem caller_of_user {s s' : System S} {a : Action} (h : s.step a = some s')
    (user : a.by_user = true) : s'.batches = s.batches ∧ s'.driving = s.driving ∧
      s'.stack.virtual_iface = s.stack.virtual_iface := by
  cases steps_of_step h with
  | started packet now batch events batches stack res action rest took ok eq =>
    rw [action] at user
    cases user
  | handled e events stack action driving ok eq => rw [action] at user; cases user
  | finished action driving eq => rw [action] at user; cases user
  | generated action connected eq => rw [action] at user; cases user
  | batch_dropped i action eq => rw [action] at user; cases user
  | generator_dropped action eq => rw [action] at user; cases user
  | accepted_tcp info rest action queue eq => subst eq; exact ⟨rfl, rfl, rfl⟩
  | accepted_udp info rest action queue eq => subst eq; exact ⟨rfl, rfl, rfl⟩
  | tcp_acceptor_dropped action eq => subst eq; exact ⟨rfl, rfl, rfl⟩
  | udp_acceptor_dropped action eq => subst eq; exact ⟨rfl, rfl, rfl⟩
  | called c action held connected eq => subst eq; exact ⟨rfl, rfl, rfl⟩
  | refused c action connected eq => subst eq; exact ⟨rfl, rfl, rfl⟩
  | returned futures action sub eq => subst eq; exact ⟨rfl, rfl, rfl⟩
  | tcp_stream_dropped stream action held idle eq => subst eq; exact ⟨rfl, rfl, rfl⟩
  | udp_socket_dropped socket action held idle eq => subst eq; exact ⟨rfl, rfl, rfl⟩

/-- What a user does keeps batches in order. -/
theorem inOrder_of_user (s : System S) {a : Action} (user : a.by_user = true) : s.InOrder a := by
  cases a <;> simp_all [Action.by_user, InOrder, Retains]

/-- A call of `drive_once` that comes to its events accepts its packet, and takes its batch. -/
theorem started_of_step {s s' : System S} {packet : Option Packet} {now : ℕ} {batch : Option ℕ}
    (h : s.step (.start packet now batch) = some s') (drives : s'.driving.isSome = true) :
    s.stack.accepts packet now = true ∧
      ∃ events, s.take_batch batch = some (events, s'.batches) ∧
        s.stack.begin_drive packet now = .ok (s'.stack, .ok ()) ∧
        s'.driving = some (passes events) := by
  cases steps_of_step h with
  | started packet' now' batch' events batches stack res action rest took ok eq =>
    cases action
    subst eq
    cases res with
    | error err => cases drives
    | ok done => exact ⟨by rw [TcpStack.accepts, ok], events, took, ok, rfl⟩
  | returned futures action => rcases action with ⟨rx, action⟩ | ⟨rx, action⟩ <;> cases action
  | _ => contradiction

end System

namespace Driver

/-- The oldest batch is the one that the drive task has. -/
theorem take_batch_of_batches {s : System S} {events : Option (List OperationEvent)}
    {batches : List (List OperationEvent)} (eq : s.batches = events.toList ++ batches) :
    s.take_batch (events.map fun _ => 0) = some (events.getD [], batches) ∧
      ((events.map fun _ => 0).bind fun i => s.batches[i]?) = events := by
  cases events with
  | none => exact ⟨by simp [System.take_batch, eq], rfl⟩
  | some events => exact ⟨by simp [System.take_batch, eq], by simp [eq]⟩

/-- How a state of the driver goes with what passed through the stack. -/
structure Conveys (d : Driver S) (p : Passed) : Prop where
  /-- The batches are with the tasks, the oldest one in the hands of the drive task. -/
  batches : d.sys.batches = d.drive.events.toList ++ d.events ++ d.generated.toList
  driving : d.sys.driving.isSome = d.drive.drives
  /-- What the stack sends is taken out of it before the call returns. -/
  tx_queue : d.sys.driving = none → d.sys.stack.virtual_iface.tx_queue = []
  buffer : ∀ buffer ∈ d.buffer, buffer.length ≤ driver_mtu
  packets : Conserved (d.received.map (List.take driver_mtu)) p.packets
    (d.drive.packet.toList ++ d.read_packet)
  events : Conserved p.generated p.events d.sys.batches
  write_packets : d.write_packet.connected = true →
    Conserved p.write_packets d.written (d.write_packet.queue ++ d.drive.write_packets)

/-- The read task takes over the first bytes that the device gives, or ends. -/
theorem after_read_cases {d : Driver S} (running : d.drive ≠ .stopped) {buffer : Bytes}
    (fits : buffer.length ≤ driver_mtu) (data : Bytes) :
    d.after_read buffer data = { d with buffer := none } ∨
      ∃ rest : Bytes, rest.length ≤ driver_mtu ∧ d.after_read buffer data = { d with
        buffer := some rest
        read_packet := d.read_packet ++ [data.take driver_mtu]
        received := d.received ++ [data] } := by
  set filled := if buffer.length < driver_mtu then
    buffer ++ List.replicate (driver_mtu - buffer.length) 0 else buffer with filled_eq
  have length : filled.length = driver_mtu := by
    rw [filled_eq]
    split_ifs with short
    · rw [List.length_append, List.length_replicate]
      omega
    · omega
  unfold after_read
  dsimp only
  rw [← filled_eq, length, if_neg running]
  split_ifs with eof
  · exact .inl rfl
  · have taken : data.take (min data.length driver_mtu) = data.take driver_mtu := by
      rw [List.take_eq_take_iff]
      omega
    have short : (filled.drop (min data.length driver_mtu)).length ≤ driver_mtu := by
      rw [List.length_drop]
      omega
    refine .inr ⟨_, short, ?_⟩
    rw [List.take_left' (by simp), List.drop_left' (by simp), taken]

/-- A packet that is read is on its way. -/
theorem Conveys.read {d : Driver S} {p : Passed} (conveys : Conveys d p)
    (running : d.drive ≠ .stopped) {buffer : Bytes} (there : d.buffer = some buffer)
    (data : Bytes) : Conveys (d.after_read buffer data) p := by
  rcases after_read_cases running (conveys.buffer buffer there) data with eq | ⟨rest, fits, eq⟩
  · rw [eq]
    exact { conveys with buffer := by simp }
  · rw [eq]
    refine { conveys with buffer := ?_, packets := ?_ }
    · simpa using fits
    · have packets := conveys.packets.put [data.take driver_mtu]
      simpa using packets

/-- The stack and its users come to the next state of the driver by a run. -/
def Follows (d : Driver S) (p : Passed) (d' : Driver S) : Prop :=
  ∃ q, Run (recording System.step Passed.note) (fun p a => p.1.InOrder a) (d.sys, p) q ∧
    q.1 = d'.sys ∧ Conveys d' q.2

/-- The stack takes no part in the step. -/
theorem Follows.same {d d' : Driver S} {p : Passed} (sys : d'.sys = d.sys)
    (conveys : Conveys d' p) : Follows d p d' := ⟨(d.sys, p), .refl, sys.symm, conveys⟩

/-- The step is one of the stack and its users. -/
theorem Follows.one {d d' : Driver S} {p : Passed} {a : Action}
    (steps : d.sys.step a = some d'.sys) (order : d.sys.InOrder a)
    (conveys : Conveys d' (p.note d.sys a d'.sys)) : Follows d p d' :=
  ⟨(d'.sys, _), .tail .refl order (recording_eq_some.mpr ⟨steps, rfl⟩), rfl, conveys⟩

/-- What a step of the driver does to the stack is a run of at most one step. -/
theorem Conveys.step {d d' : Driver S} {p : Passed} {a : DriverAction} (conveys : Conveys d p)
    (h : d.step a = some d') (running' : d'.drive ≠ .stopped) : Follows d p d' := by
  have running : d.drive ≠ .stopped := fun stopped => running' (stopped_of_step stopped h)
  have batches := conveys.batches
  have driving := conveys.driving
  have packets := conveys.packets
  have events := conveys.events
  have write_packets := conveys.write_packets
  cases (steps_of_step running h).resolve_left running' with
  | read buffer data action there eq =>
    rw [eq]
    refine .same ?_ (conveys.read running there data)
    rcases after_read_cases running (conveys.buffer buffer there) data with eq | ⟨rest, -, eq⟩ <;>
      rw [eq]
  | read_failed action eq =>
    subst eq
    exact .same rfl { conveys with buffer := by simp }
  | generated sys action idle steps eq =>
    subst eq
    refine .one (a := .generate) steps ⟨trivial, by simp⟩ ?_
    cases System.steps_of_step steps with
    | generated action connected eq =>
      subst eq
      refine { conveys with batches := ?_, events := events.put _ }
      rw [batches, idle]
      simp
    | returned futures action => rcases action with ⟨rx, action⟩ | ⟨rx, action⟩ <;> cases action
    | _ => contradiction
  | sent_events events action batch eq =>
    subst eq
    refine .same rfl { conveys with batches := ?_ }
    rw [batches, batch]
    simp
  | got_packet sleep packet rest action task queue eq =>
    subst eq
    rw [task] at batches driving write_packets
    rw [task, queue] at packets
    exact .same rfl { conveys with batches, driving, write_packets, packets }
  | got_events sleep batch rest action task queue eq =>
    subst eq
    rw [task] at driving packets write_packets
    rw [task, queue] at batches
    exact .same rfl { conveys with batches, driving, write_packets, packets }
  | timed_out sleep action task eq =>
    subst eq
    rw [task] at batches driving packets write_packets
    exact .same rfl { conveys with batches, driving, write_packets, packets }
  | tried_events packet action task eq =>
    subst eq
    rw [task] at batches driving packets write_packets
    refine .same rfl { conveys with batches := ?_, driving, write_packets, packets }
    rw [batches]
    cases d.events <;> rfl
  | tried_packet batch action task eq =>
    subst eq
    rw [task] at batches driving packets write_packets
    refine .same rfl { conveys with batches, driving, write_packets, packets := ?_ }
    cases queue : d.read_packet <;> rwa [queue] at packets
  | began now packet batch sys action task steps drives eq =>
    subst eq
    rw [task, List.append_assoc] at batches
    rw [task] at packets write_packets
    obtain ⟨accepts, given, took, -, -⟩ := System.started_of_step steps drives
    have batches : d.sys.batches = batch.toList ++ (d.events ++ d.generated.toList) := batches
    obtain ⟨takes, there⟩ := take_batch_of_batches batches
    obtain ⟨-, rest⟩ := Prod.mk.inj (Option.some.inj (took.symm.trans takes))
    refine .one (a := .start packet now (batch.map fun _ => 0)) steps ⟨?_, ?_⟩ ?_
    · cases batch with
      | none => exact trivial
      | some events => exact accepts
    · intro packet' now' i action
      cases batch with
      | none => cases action
      | some events =>
        cases action
        rfl
    · refine { conveys with
        batches := rest
        driving := drives
        tx_queue := ?_
        packets := packets.get
        events := ?_
        write_packets }
      · intro idle
        rw [idle] at drives
        cases drives
      · show Conserved p.generated (p.events ++ _) sys.batches
        rw [there, rest]
        rw [batches] at events
        exact events.get
  | handled now sys action task steps eq =>
    subst eq
    refine .one (a := .event) steps ⟨trivial, by simp⟩ ?_
    cases System.steps_of_step steps with
    | handled e events stack action driving ok eq =>
      subst eq
      refine { conveys with driving := by rw [task]; rfl, tx_queue := ?_ }
      intro idle
      cases idle
    | returned futures action => rcases action with ⟨rx, action⟩ | ⟨rx, action⟩ <;> cases action
    | _ => contradiction
  | finished now sys action task steps eq =>
    subst eq
    rw [task] at batches packets write_packets
    refine .one (a := .finish) steps ⟨trivial, by simp⟩ ?_
    cases System.steps_of_step steps with
    | finished action driving eq =>
      subst eq
      refine { conveys with
        batches
        driving := rfl
        tx_queue := fun _ => rfl
        packets
        write_packets := fun connected => ?_ }
      have more := (write_packets connected).put d.sys.stack.virtual_iface.tx_queue
      simpa [DriveTask.write_packets, Passed.note] using more
    | returned futures action => rcases action with ⟨rx, action⟩ | ⟨rx, action⟩ <;> cases action
    | _ => contradiction
  | sent sleep packet rest action task connected eq =>
    subst eq
    rw [task] at batches driving packets write_packets
    refine .same rfl { conveys with batches, driving, packets, write_packets := fun _ => ?_ }
    have sends := write_packets connected
    simpa [Channel.send, connected, DriveTask.write_packets] using sends
  | sent_all sleep action task eq =>
    subst eq
    rw [task] at batches driving packets write_packets
    exact .same rfl { conveys with batches, driving, packets, write_packets }
  | wrote packet rest action queue eq =>
    subst eq
    refine .same rfl { conveys with write_packets := fun connected => ?_ }
    have writes := write_packets connected
    rw [queue, List.cons_append, ← List.singleton_append] at writes
    have next := writes.get
    simpa [Channel.recv, queue] using next
  | write_failed packet rest action queue eq =>
    subst eq
    exact .same rfl { conveys with write_packets := fun connected => by cases connected }
  | used b sys action user steps eq =>
    subst eq
    refine .one (a := b) steps (System.inOrder_of_user _ user) ?_
    rw [Passed.note_of_user _ _ _ user]
    obtain ⟨same_batches, same_driving, same_iface⟩ := System.caller_of_user steps user
    exact { conveys with
      batches := by rw [same_batches]; exact batches
      driving := by rw [same_driving]; exact driving
      tx_queue := by rw [same_driving, same_iface]; exact conveys.tx_queue
      events := by rw [same_batches]; exact events }

/-- Nothing is on its way at first. -/
theorem conveys_new (size : ℕ) (interface : S.Interface) :
    Conveys (new size interface) .nothing where
  batches := rfl
  driving := rfl
  tx_queue _ := rfl
  buffer := by simp [new]
  packets := rfl
  events := rfl
  write_packets _ := rfl

/-- In every state that the driver reaches with its drive task, the stack and its users came there
by a run that conveys what the tasks have. -/
theorem conveys_of_run {size : ℕ} {interface : S.Interface} {guard : Driver S → DriverAction → Prop}
    {d : Driver S} (run : Run step guard (new size interface) d) (running : d.drive ≠ .stopped) :
    Follows (new size interface) .nothing d := by
  have matched : ∀ (d : Driver S) (a : DriverAction) (d' : Driver S) (q : System S × Passed),
      guard d a → d.step a = some d' → (d.drive = .stopped ∨ q.1 = d.sys ∧ Conveys d q.2) →
      ∃ r, Run (recording System.step Passed.note) (fun p a => p.1.InOrder a) q r ∧
        (d'.drive = .stopped ∨ r.1 = d'.sys ∧ Conveys d' r.2) := by
    rintro d a d' ⟨s, p⟩ - h related
    by_cases stops : d'.drive = .stopped
    · exact ⟨_, .refl, .inl stops⟩
    · obtain ⟨rfl, conveys⟩ := related.resolve_left fun stopped => stops (stopped_of_step stopped h)
      obtain ⟨q, follows, related⟩ := conveys.step h stops
      exact ⟨q, follows, .inr related⟩
  have start : (new size interface).drive = .stopped ∨ (new size interface).sys =
      (new size interface).sys ∧ Conveys (new size interface) Passed.nothing :=
    .inr ⟨rfl, conveys_new size interface⟩
  obtain ⟨q, follows, related⟩ :=
    Run.simulates matched run (s := ((new size interface).sys, .nothing)) start
  exact ⟨q, follows, related.resolve_left running⟩

/-- As long as the drive task of the driver runs, in whatever order the tasks and the users take
their steps, the stack and its users have come to their state by a run in which the caller retains
all events and hands over each batch in its turn. The packets from the device, as far as they fit
into the buffer, went to `drive_once` once and in order, up to those that are still on their way; so
did the batches. What `drive_once` returned was written to the device once and in order, up to what
is still on its way, as long as the write task runs. -/
theorem driver_refines {size : ℕ} {interface : S.Interface} {d : Driver S}
    (run : Reachable step (new size interface) d) (running : d.drive ≠ .stopped) :
    ∃ p, Run (recording System.step Passed.note) (fun p a => p.1.InOrder a)
        (System.new size interface, .nothing) (d.sys, p) ∧
      Conserved (d.received.map (List.take driver_mtu)) p.packets
        (d.drive.packet.toList ++ d.read_packet) ∧
      Conserved p.generated p.events
        (d.drive.events.toList ++ d.events ++ d.generated.toList) ∧
      (d.write_packet.connected = true → Conserved p.write_packets d.written
        (d.write_packet.queue ++ d.drive.write_packets)) := by
  obtain ⟨⟨s, p⟩, follows, rfl, conveys⟩ := conveys_of_run run running
  refine ⟨p, follows, conveys.packets, ?_, conveys.write_packets⟩
  rw [← conveys.batches]
  exact conveys.events

open Reference in
/-- A datagram opens a socket, whose user sends a byte. The next datagram makes the stack send it,
and one more waits for the drive task. -/
def udp_echo : List DriverAction := [
  .read (udp_packet 1 2 [7]), .recv_packet, .try_recv, .drive_once 0, .finish, .generate, .send,
  .send_events, .recv_events, .try_recv, .drive_once 0, .event, .finish, .send, .user .accept_udp,
  .user (.call (.send ⟨⟨0, 0⟩, server_addr 2⟩ ⟨[8], 1⟩ (client_addr 1))), .generate, .send_events,
  .read (udp_packet 1 2 [9]), .recv_events, .try_recv, .drive_once 0, .event, .finish, .send,
  .read (udp_packet 1 2 [10]), .recv_packet, .try_recv, .drive_once 0, .finish, .send, .write,
  .send,
  .read (udp_packet 1 2 [11])]

open Reference in
/-- The byte was written, three packets went into the stack, and the fourth is on its way. -/
theorem driver_refines_echo : ∃ (d : Driver reference) (p : Passed),
    Run (recording System.step Passed.note) (fun p a => p.1.InOrder a)
      (System.new 64 (), .nothing) (d.sys, p) ∧
    d.written = [[8]] ∧ d.read_packet = [udp_packet 1 2 [11]] ∧
    p.packets = [udp_packet 1 2 [7], udp_packet 1 2 [9], udp_packet 1 2 [10]] ∧
    p.events = p.generated ∧ p.write_packets = [[8]] := by
  obtain ⟨d, hd, ht⟩ := exists_of_exec_any step (new 64 () : Driver reference) udp_echo
    (fun d => d.drive = .selecting none ∧ d.written = [[8]] ∧
      d.read_packet = [udp_packet 1 2 [11]] ∧ d.received.map (List.take driver_mtu) =
        [udp_packet 1 2 [7], udp_packet 1 2 [9], udp_packet 1 2 [10], udp_packet 1 2 [11]] ∧
      d.write_packet.connected = true ∧ d.write_packet.queue = [] ∧ d.events = [] ∧
      d.generated = none)
    (by decide +kernel)
  obtain ⟨task, written, waits, received, connected, queue, sent, idle⟩ := of_decide_eq_true ht
  obtain ⟨p, follows, packets, events, write_packets⟩ := driver_refines (Run.of_exec hd)
    (by rw [task]; exact DriveTask.noConfusion)
  refine ⟨d, p, follows, written, waits, ?_, ?_, ?_⟩
  · rw [task, received, waits] at packets
    have same : [udp_packet 1 2 [7], udp_packet 1 2 [9], udp_packet 1 2 [10]] ++
        [udp_packet 1 2 [11]] = p.packets ++ [udp_packet 1 2 [11]] := packets
    exact (List.append_cancel_right same).symm
  · rw [task, sent, idle] at events
    exact events.drained.symm
  · rw [task, written, queue] at write_packets
    exact (write_packets connected).drained

end Driver

end L3Extract
