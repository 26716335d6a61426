import L3Extract.Driver
import L3Extract.Stack.Unrest
import L3Extract.System.Waiting
import Mathlib.Data.Prod.Lex

/-!
# The driver comes to rest

When the device gives no more packets, no timeout runs out, and the users ask for nothing, the tasks
of the driver still have work: packets and batches are on their way, events that are handled send
others, and there are packets to be written. The tasks run on threads of their own, so that the work
goes on in any order.

`Driver.measure` falls in every step of a task. Before all counts what packets are left, since a
packet may make any amount of work; then the events, by what the stack counts for them (`unrest`),
and how far the tasks are with them; and last the packets that the stack sent. `driver_rests` says
that the tasks come to rest, and what the users find when they did.
-/

namespace L3Extract

open OperationEvent Transition TcpStack Flow

variable {S : Smoltcp}

namespace System

/-! ## What a step of the stack leaves to do -/

/-- What there is to do for the events: one that is handled may leave two thirds of itself. -/
def work (s : System S) : ℕ := 9 * s.stack.unrest + 19 * s.collected.length

/-- `generate` returns only when there is an event. -/
theorem queue_of_generate {s s' : System S} (h : s.step .generate = some s') :
    s.stack.operation_event.queue ≠ [] := by
  simp only [step] at h
  split_ifs at h with ready
  exact ready.2

/-- `generate` takes work off: events are less in a batch than in the channel. -/
theorem work_generate {s s' : System S} (h : s.step .generate = some s') :
    s'.work + 8 ≤ s.work := by
  simp only [step] at h
  split_ifs at h with ready
  cases h
  have queue := List.length_pos_iff.mpr ready.2
  have taken := unrest_generated s.stack
  have collected : ∀ stack : TcpStack S,
      ({ s with stack, batches := s.batches ++ [s.stack.operation_event.queue] } :
        System S).collected.length = s.stack.operation_event.queue.length + s.collected.length := by
    intro stack
    simp only [System.collected, List.flatten_append, List.flatten_singleton, List.length_append]
    omega
  unfold work
  rw [collected]
  show 9 * s.stack.generated.unrest + _ + _ ≤ _
  omega

/-- A call without a packet begins with no more work than there was. -/
theorem work_start (rests : S.Rests) (flushes : S.Flushes) {s s' : System S}
    {now : ℕ} {batch : Option ℕ} (drained : s.stack.virtual_iface.rx_queue = [])
    (h : s.step (.start none now batch) = some s') : s'.work ≤ s.work := by
  cases steps_of_step h with
  | started packet now batch events batches stack res action rest took ok eq =>
    cases action
    subst eq
    obtain ⟨-, rfl, rfl⟩ := try_poll_eq_ok.mp ok
    have polled := unrest_poll rests flushes drained now
    have collected := congrArg Multiset.card (coe_collected_of_start rest took)
    rw [Multiset.coe_card, Multiset.coe_card] at collected
    show 9 * (s.stack.poll now).unrest + 19 * (batches.flatten ++ passes events).length ≤ _
    rw [collected]
    unfold work
    omega
  | returned futures action => rcases action with ⟨rx, action⟩ | ⟨rx, action⟩ <;> cases action
  | _ => contradiction

/-- An event that is handled is work done. -/
theorem work_event (spec : S.Spec) {s s' : System S} (h : s.step .event = some s') :
    s'.work + 1 ≤ s.work := by
  cases steps_of_step h with
  | handled e events stack action driving ok eq =>
    subst eq
    have handled := unrest_handle spec ok
    have collected := congrArg Multiset.card (coe_collected_of_driving driving)
    rw [Multiset.card_add, Multiset.card_singleton, Multiset.coe_card, Multiset.coe_card]
      at collected
    show 9 * stack.unrest + 19 * (s.batches.flatten ++ events).length + 1 ≤ _
    unfold work
    omega
  | returned futures action => rcases action with ⟨rx, action⟩ | ⟨rx, action⟩ <;> cases action
  | _ => contradiction

/-- The end of a call leaves the work as it is. -/
theorem work_finish {s s' : System S} (h : s.step .finish = some s') : s'.work = s.work := by
  cases steps_of_step h with
  | finished action driving eq =>
    subst eq
    unfold work collected
    rw [driving]
    rfl
  | returned futures action => rcases action with ⟨rx, action⟩ | ⟨rx, action⟩ <;> cases action
  | _ => contradiction

/-- The events in the channel are dropped with its receiver. -/
theorem work_disconnect (s : System S) :
    ({ s with stack := { s.stack with
      operation_event := s.stack.operation_event.disconnect } } : System S).work +
      27 * s.stack.operation_event.queue.length ≤ s.work := by
  have pending : s.stack.pending.card =
      s.stack.operation_event.queue.length + s.stack.parked.card := card_pending _
  have parked : ({ s.stack with
      operation_event := s.stack.operation_event.disconnect } : TcpStack S).pending.card =
      s.stack.parked.card := by
    rw [card_pending, Channel.disconnect, List.length_nil, Nat.zero_add]
    rfl
  unfold work TcpStack.unrest
  rw [parked, pending]
  show 9 * (2 * s.stack.parked.card + 0 + s.stack.rank) + 19 * s.collected.length + _ ≤ _
  omega

end System

/-- A step of a task that needs neither the device nor the clock. -/
def DriverAction.internal : DriverAction → Bool
  | .read _ | .read_failed | .timeout | .user _ => false
  | _ => true

/-- How far the drive task is from its `Selector`. -/
def DriveTask.stage : DriveTask → ℕ
  | stopped => 0
  | selecting _ => 1
  | sending _ _ => 2
  | driving _ => 3
  | calling _ _ => 4
  | got_packet _ => 5
  | got_events _ => 5

namespace Driver

/-! ## The measure -/

/-- The packets that are yet to be handed to `drive_once`, as long as it is called. -/
def packets_left (d : Driver S) : ℕ :=
  if d.drive = .stopped then 0 else 1 + d.drive.packet.toList.length + d.read_packet.length

/-- What there is to do for the events, and where the tasks are with it. -/
def work_left (d : Driver S) : ℕ :=
  d.sys.work + 7 * d.generated.toList.length + 6 * d.events.length + 6 * d.read_packet.length +
    d.drive.stage

/-- What there is to do for the packets that the stack sent, until the write task ends. -/
def writes_left (d : Driver S) : ℕ :=
  2 * d.drive.write_packets.length + d.write_packet.queue.length + d.write_packet.connected.toNat

/-- What there is to do at all. -/
def measure (d : Driver S) : ℕ ×ₗ ℕ ×ₗ ℕ :=
  toLex (d.packets_left, toLex (d.work_left, d.writes_left))

/-- With a packet less the measure falls, whatever else there is. -/
theorem measure_lt_of_packets {d d' : Driver S} (lt : d'.packets_left < d.packets_left) :
    d'.measure < d.measure := Prod.Lex.toLex_lt_toLex.mpr (.inl lt)

/-- With less work and no more packets the measure falls. -/
theorem measure_lt_of_work {d d' : Driver S} (packets : d'.packets_left ≤ d.packets_left)
    (lt : d'.work_left < d.work_left) : d'.measure < d.measure := by
  rcases packets.lt_or_eq with lt' | eq
  · exact measure_lt_of_packets lt'
  · exact Prod.Lex.toLex_lt_toLex.mpr (.inr ⟨eq, Prod.Lex.toLex_lt_toLex.mpr (.inl lt)⟩)

/-- With a packet less to write and nothing else changed the measure falls. -/
theorem measure_lt_of_writes {d d' : Driver S} (packets : d'.packets_left = d.packets_left)
    (work : d'.work_left = d.work_left) (lt : d'.writes_left < d.writes_left) :
    d'.measure < d.measure :=
  Prod.Lex.toLex_lt_toLex.mpr (.inr ⟨packets, Prod.Lex.toLex_lt_toLex.mpr (.inr ⟨work, lt⟩)⟩)

/-- The packets that are left, as long as the drive task runs. -/
theorem packets_left_of_running {d : Driver S} (running : d.drive ≠ .stopped) :
    d.packets_left = 1 + d.drive.packet.toList.length + d.read_packet.length := if_neg running

/-- What the events task leaves when it ends is less work. -/
theorem work_stop_events (d : Driver S) : d.stop_events.work_left +
    7 * d.generated.toList.length + 27 * d.sys.stack.operation_event.queue.length ≤
      d.work_left := by
  have work : d.stop_events.sys.work + 27 * d.sys.stack.operation_event.queue.length ≤
      d.sys.work := System.work_disconnect d.sys
  unfold work_left
  show d.stop_events.sys.work + 7 * 0 + 6 * d.events.length + 6 * d.read_packet.length +
    d.drive.stage + _ + _ ≤ _
  omega

/-- Every step that the tasks take after the drive task has ended leaves less to do. -/
theorem measure_falls_ending {d d' : Driver S} {a : DriverAction} (stopped : d.drive = .stopped)
    (internal : a.internal = true) (ending : Ending d a d') : d'.measure < d.measure := by
  have none_left : ∀ {d' : Driver S}, d'.drive = .stopped → d'.packets_left ≤ d.packets_left :=
    fun stops => by rw [packets_left, if_pos stops]; exact Nat.zero_le _
  cases ending with
  | read received action eq => rcases action with ⟨data, rfl⟩ | rfl <;> cases internal
  | generated sys action idle steps eq =>
    subst eq
    have work := System.work_generate steps
    refine measure_lt_of_work (none_left stopped) ?_
    simp only [work_left, idle, Option.toList_some, Option.toList_none, List.length_cons,
      List.length_nil]
    omega
  | generate_failed sys action steps eq =>
    subst eq
    have work := d.work_stop_events
    have filled := List.length_pos_iff.mpr (System.queue_of_generate steps)
    exact measure_lt_of_work (none_left stopped) (by omega)
  | send_failed events action batch eq =>
    subst eq
    have work := d.work_stop_events
    rw [batch, Option.toList_some, List.length_singleton] at work
    exact measure_lt_of_work (none_left stopped) (by omega)
  | wrote packet rest action queue eq =>
    subst eq
    refine measure_lt_of_writes rfl rfl ?_
    simp only [writes_left, Channel.recv, queue, List.tail_cons, List.length_cons]
    omega
  | write_failed packet rest action queue eq =>
    subst eq
    refine measure_lt_of_writes rfl rfl ?_
    simp only [writes_left, Channel.disconnect, queue, List.length_cons, List.length_nil,
      Bool.toNat_false]
    omega
  | write_ended action queue connected eq =>
    subst eq
    refine measure_lt_of_writes rfl rfl ?_
    simp only [writes_left, Channel.disconnect, queue, connected, List.length_nil, Bool.toNat_false,
      Bool.toNat_true]
    omega

/-- Every step of a task leaves less to do. -/
theorem measure_falls (spec : S.Spec) (flushes : S.Flushes) (rests : S.Rests)
    {d d' : Driver S} {a : DriverAction}
    (drained : d.drive ≠ .stopped → d.sys.stack.virtual_iface.rx_queue = [])
    (internal : a.internal = true) (h : d.step a = some d') : d'.measure < d.measure := by
  by_cases running : d.drive = .stopped
  · exact measure_falls_ending running internal (ending_of_step running h)
  have drained := drained running
  rcases steps_of_step running h with stops | steps
  · refine measure_lt_of_packets ?_
    rw [packets_left_of_running running, packets_left, if_pos stops]
    omega
  have packets := packets_left_of_running running
  cases steps with
  | read buffer data action there eq => rw [action] at internal; cases internal
  | read_failed action eq => rw [action] at internal; cases internal
  | generated sys action idle steps eq =>
    subst eq
    have work := System.work_generate steps
    refine measure_lt_of_work le_rfl ?_
    simp only [work_left, idle, Option.toList_some, Option.toList_none, List.length_cons,
      List.length_nil]
    omega
  | sent_events events action batch eq =>
    subst eq
    refine measure_lt_of_work le_rfl ?_
    simp only [work_left, batch, Option.toList_some, Option.toList_none, List.length_append,
      List.length_cons, List.length_nil]
    omega
  | got_packet sleep packet rest action task queue eq =>
    subst eq
    refine measure_lt_of_work ?_ ?_
    · rw [packets_left_of_running DriveTask.noConfusion, packets, task, queue]
      simp [DriveTask.packet]
      omega
    · simp only [work_left, task, queue, DriveTask.stage, List.length_cons]
      omega
  | got_events sleep batch rest action task queue eq =>
    subst eq
    refine measure_lt_of_work ?_ ?_
    · rw [packets_left_of_running DriveTask.noConfusion, packets, task]
      simp [DriveTask.packet]
    · simp only [work_left, task, queue, DriveTask.stage, List.length_cons]
      omega
  | timed_out sleep action task eq => rw [action] at internal; cases internal
  | tried_events packet action task eq =>
    subst eq
    refine measure_lt_of_work ?_ ?_
    · rw [packets_left_of_running DriveTask.noConfusion, packets, task]
      simp [DriveTask.packet]
    · simp only [work_left, task, DriveTask.stage, List.length_tail]
      omega
  | tried_packet batch action task eq =>
    subst eq
    refine measure_lt_of_work ?_ ?_
    · rw [packets_left_of_running DriveTask.noConfusion, packets, task]
      cases d.read_packet <;> simp [DriveTask.packet]
      omega
    · simp only [work_left, task, DriveTask.stage, List.length_tail]
      omega
  | began now packet batch sys action task steps drives eq =>
    subst eq
    cases packet with
    | some packet =>
      refine measure_lt_of_packets ?_
      rw [packets_left_of_running DriveTask.noConfusion, packets, task]
      simp [DriveTask.packet]
    | none =>
      have work := System.work_start rests flushes drained steps
      refine measure_lt_of_work ?_ ?_
      · rw [packets_left_of_running DriveTask.noConfusion, packets, task]
        simp [DriveTask.packet]
      · simp only [work_left, task, DriveTask.stage]
        omega
  | handled now sys action task steps eq =>
    subst eq
    have work := System.work_event spec steps
    refine measure_lt_of_work le_rfl ?_
    simp only [work_left]
    omega
  | finished now sys action task steps eq =>
    subst eq
    have work := System.work_finish steps
    refine measure_lt_of_work ?_ ?_
    · rw [packets_left_of_running DriveTask.noConfusion, packets, task]
      simp [DriveTask.packet]
    · simp only [work_left, task, DriveTask.stage]
      omega
  | sent sleep packet rest action task connected eq =>
    subst eq
    refine measure_lt_of_writes ?_ ?_ ?_
    · rw [packets_left_of_running DriveTask.noConfusion, packets, task]
      simp [DriveTask.packet]
    · simp only [work_left, task, DriveTask.stage]
    · simp only [writes_left, task, DriveTask.write_packets, Channel.send, connected, if_true,
        List.length_append, List.length_cons, List.length_nil]
      omega
  | sent_all sleep action task eq =>
    subst eq
    refine measure_lt_of_work ?_ ?_
    · rw [packets_left_of_running DriveTask.noConfusion, packets, task]
      simp [DriveTask.packet]
    · simp only [work_left, task, DriveTask.stage]
      omega
  | wrote packet rest action queue eq =>
    subst eq
    refine measure_lt_of_writes rfl rfl ?_
    simp only [writes_left, Channel.recv, queue, List.tail_cons, List.length_cons]
    omega
  | write_failed packet rest action queue eq =>
    subst eq
    refine measure_lt_of_writes rfl rfl ?_
    simp only [writes_left, Channel.disconnect, queue, List.length_cons, List.length_nil,
      Bool.toNat_false]
    omega
  | used b sys action user steps eq => rw [action] at internal; cases internal

/-! ## Rest -/

/-- The tasks have nothing left to do, and every call can return, or waits at its socket for
something that has not come. -/
structure Rested (d : Driver S) : Prop where
  selecting : ∃ sleep, d.drive = .selecting sleep
  reads : d.buffer.isSome = true
  read_packet : d.read_packet = []
  generated : d.generated = none
  events : d.events = []
  write_packet : d.write_packet.queue = []
  /-- No event waits to be generated or handled, and the stack has nothing to send. -/
  queue : d.sys.stack.operation_event.queue = []
  batches : d.sys.batches = []
  driving : d.sys.driving = none
  tx_queue : d.sys.stack.virtual_iface.tx_queue = []
  calls : ∀ f ∈ d.sys.futures, (∃ s, d.sys.step (.return_ f.rx) = some s) ∨
    ∃ i side e socket, d.sys.stack.waker i side = some e ∧ e.result_tx = some f.rx ∧
      d.sys.stack.socket_at i = some socket ∧ Awaits S e side socket

/-- The drive task has ended, the write task has written what was left for it and ended too, and the
events task has ended or finds no event. -/
structure Ended (d : Driver S) : Prop where
  drive : d.drive = .stopped
  write_packet : d.write_packet.queue = []
  write_task : d.write_packet.connected = false
  generated : d.generated = none
  queue : d.sys.stack.operation_event.connected = true → d.sys.stack.operation_event.queue = []

section Stuck

variable {d : Driver S} (stuck : ∀ a : DriverAction, a.internal = true → d.step a = none)

include stuck

/-- The write task has nothing to write. -/
theorem write_queue_of_stuck : d.write_packet.queue = [] := by
  have write_failed := stuck .write_failed rfl
  unfold step at write_failed
  cases packets : d.write_packet.queue with
  | nil => rfl
  | cons packet rest => rw [packets] at write_failed; cases write_failed

/-- The events task has no batch, and finds no event. -/
theorem events_of_stuck : d.generated = none ∧
    (d.sys.stack.operation_event.connected = true → d.sys.stack.operation_event.queue = []) := by
  have send_events := stuck .send_events rfl
  have generate := stuck .generate rfl
  unfold step at send_events generate
  have generated : d.generated = none := by simpa using send_events
  refine ⟨generated, fun connected => ?_⟩
  by_contra filled
  rw [generated] at generate
  simp only [System.step, connected, filled, ne_eq, not_false_eq_true, and_self, if_true]
    at generate
  split at generate <;> cases generate

/-- When the drive task has ended, so has the write task. -/
theorem ended_of_stuck (stopped : d.drive = .stopped) : Ended d := by
  have queue := write_queue_of_stuck stuck
  obtain ⟨generated, events⟩ := events_of_stuck stuck
  refine ⟨stopped, queue, ?_, generated, events⟩
  have write := stuck .write rfl
  unfold step at write
  rw [queue] at write
  simpa [stopped] using write

end Stuck

/-- When the drive task has ended and the others have nothing left to do, no task can go on. -/
theorem Ended.stuck {d : Driver S} (ended : Ended d) {a : DriverAction}
    (internal : a.internal = true) : d.step a = none := by
  have stopped := ended.drive
  unfold step
  cases a with
  | generate =>
    have none : d.sys.step .generate = none := by
      simp only [System.step]
      exact if_neg fun ready => ready.2 (ended.queue ready.1)
    simp [ended.generated, none]
  | send_events => simp [ended.generated]
  | write => simp [ended.write_packet, ended.write_task]
  | write_failed => simp [ended.write_packet]
  | read data => cases internal
  | read_failed => cases internal
  | timeout => cases internal
  | user b => cases internal
  | _ => simp [stopped]

/-- A task that can do nothing by itself waits for a packet or a batch. -/
theorem selecting_of_stuck {d : Driver S} {p : Passed} (conveys : Conveys d p)
    (running : d.drive ≠ .stopped) (stuck : ∀ a, a.internal = true → d.step a = none) :
    (∃ sleep, d.drive = .selecting sleep) ∧ d.read_packet = [] ∧ d.buffer.isSome = true ∧
      d.events = [] := by
  have recv_packet := stuck .recv_packet rfl
  have recv_events := stuck .recv_events rfl
  have try_recv := stuck .try_recv rfl
  have drive_once := stuck (.drive_once 0) rfl
  have event := stuck .event rfl
  have finish := stuck .finish rfl
  have send := stuck .send rfl
  have driving := conveys.driving
  unfold step at recv_packet recv_events try_recv drive_once event finish send
  dsimp only at recv_packet recv_events try_recv drive_once event finish send
  cases task : d.drive with
  | selecting sleep =>
    rw [task] at recv_packet recv_events
    refine ⟨⟨sleep, rfl⟩, ?_⟩
    cases packets : d.read_packet with
    | cons packet rest => rw [packets] at recv_packet; cases recv_packet
    | nil =>
      cases events : d.events with
      | cons batch rest => rw [events] at recv_events; cases recv_events
      | nil =>
        refine ⟨rfl, ?_, rfl⟩
        rw [packets] at recv_packet
        cases there : d.buffer with
        | none => rw [there] at recv_packet; cases recv_packet
        | some buffer => rfl
  | got_packet packet => rw [task] at try_recv; cases try_recv
  | got_events batch => rw [task] at try_recv; cases try_recv
  | calling packet batch =>
    rw [task] at drive_once
    dsimp only at drive_once
    split at drive_once
    · split at drive_once <;> cases drive_once
    · cases drive_once
  | driving now =>
    rw [task] at event finish driving
    obtain ⟨events, driving⟩ := Option.isSome_iff_exists.mp driving
    cases events with
    | nil => simp [System.step, driving] at finish
    | cons e events =>
      have next : d.sys.next_event = some e := by rw [System.next_event, driving]; rfl
      rw [next] at event
      dsimp only at event
      split at event <;> cases event
  | sending packets sleep =>
    rw [task] at send
    cases packets with
    | nil => cases send
    | cons packet packets =>
      dsimp only at send
      split at send <;> cases send
  | stopped => exact absurd task running

/-- When no task can go on, and the drive task has not ended, the tasks have nothing left to do. -/
theorem rested_of_stuck (spec : S.Spec) (notifies : S.Notifies) {size : ℕ} {interface : S.Interface}
    {d : Driver S} (run : Reachable step (new size interface) d) (running : d.drive ≠ .stopped)
    (stuck : ∀ a, a.internal = true → d.step a = none) : Rested d := by
  obtain ⟨⟨s, p⟩, follows, rfl, conveys⟩ := conveys_of_run run running
  obtain ⟨selecting, read_packet, reads, events⟩ := selecting_of_stuck conveys running stuck
  obtain ⟨sleep, task⟩ := selecting
  have reached : Run System.step System.InOrder (System.new size interface) d.sys :=
    follows.erase_record
  have driving : d.sys.driving = none := by
    have none := conveys.driving
    rw [task] at none
    simpa [DriveTask.drives] using none
  obtain ⟨generated, queue⟩ := events_of_stuck stuck
  have queue := queue (System.connected_of_run (fun _ _ order => order.1) reached)
  have batches : d.sys.batches = [] := by
    rw [conveys.batches, task, events, generated]
    rfl
  refine {
    selecting := ⟨sleep, task⟩
    reads, read_packet, generated, events, queue, batches, driving
    write_packet := write_queue_of_stuck stuck
    tx_queue := conveys.tx_queue driving
    calls := fun f calls => ?_ }
  rcases System.call_waits spec notifies reached calls with returns | ⟨e, mem, -⟩ | parked
  · exact .inl returns
  · simp [System.collected, queue, batches, driving] at mem
  · exact .inr parked

/-- With empty channels and nothing in its hands, no task can go on. -/
theorem stuck_of_empty {d : Driver S} {sleep : Option ℕ} (task : d.drive = .selecting sleep)
    (reads : d.buffer.isSome = true) (read_packet : d.read_packet = [])
    (generated : d.generated = none) (events : d.events = [])
    (write_packet : d.write_packet.queue = []) (queue : d.sys.stack.operation_event.queue = [])
    {a : DriverAction} (internal : a.internal = true) : d.step a = none := by
  unfold step
  cases a with
  | generate => simp [generated, System.step, queue]
  | send_events => simp [generated]
  | recv_packet => simp [task, read_packet, reads]
  | recv_events => simp [task, events]
  | write => simp [write_packet, task]
  | write_failed => simp [write_packet]
  | read data => cases internal
  | read_failed => cases internal
  | timeout => cases internal
  | user b => cases internal
  | _ => simp [task]

/-- From every state that the driver reaches, as long as the device gives no packet, no timeout runs
out, and the users do nothing, the tasks come to rest in whatever order they go on: they do not go
on for ever. They are stuck when nothing is left to be done, and every call of a user that has not
returned can return, or waits for its peer; or when the drive task has ended, and the others have
done what it left them; and in no other state. -/
theorem driver_rests (spec : S.Spec) (flushes : S.Flushes) (rests : S.Rests)
    (notifies : S.Notifies) {size : ℕ} {interface : S.Interface} {d : Driver S}
    (run : Reachable step (new size interface) d) :
    (∀ f : ℕ → Driver S, f 0 = d →
      ¬ ∀ n, ∃ a : DriverAction, a.internal = true ∧ step (f n) a = some (f (n + 1))) ∧
    ∀ t, Run step (fun _ a => a.internal = true) d t →
      ((∀ a : DriverAction, a.internal = true → t.step a = none) ↔ Ended t ∨ Rested t) := by
  constructor
  · rintro f rfl
    have falls : ∀ (d : Driver S) (a : DriverAction) (d' : Driver S),
        Reachable step (new size interface) d → a.internal = true → d.step a = some d' →
          Reachable step (new size interface) d' ∧ d'.measure < d.measure := by
      intro d a d' reached internal h
      refine ⟨reached.tail trivial h,
        measure_falls spec flushes rests (fun running => ?_) internal h⟩
      obtain ⟨⟨sys, p⟩, follows, rfl, -⟩ := conveys_of_run reached running
      exact System.drained_of_run follows.of_recording
    exact not_endless falls run
  · intro t later
    constructor
    · intro stuck
      by_cases running : t.drive = .stopped
      · exact .inl (ended_of_stuck stuck running)
      · have reached := run.trans (later.mono fun _ _ _ => trivial)
        exact .inr (rested_of_stuck spec notifies reached running stuck)
    · rintro (ended | rested) a internal
      · exact ended.stuck internal
      · obtain ⟨sleep, task⟩ := rested.selecting
        exact stuck_of_empty task rested.reads rested.read_packet rested.generated rested.events
          rested.write_packet rested.queue internal

open Reference in
/-- A datagram opens a socket, and its user calls `recv` twice. -/
def two_recvs : List DriverAction := [
  .read (udp_packet 1 2 [7]), .recv_packet, .try_recv, .drive_once 0, .finish, .generate, .send,
  .send_events, .recv_events, .try_recv, .drive_once 0, .event, .finish, .send, .user .accept_udp,
  .user (.call (.recv ⟨⟨0, 0⟩, server_addr 2⟩ ⟨[0], 0⟩)),
  .user (.call (.recv ⟨⟨0, 0⟩, server_addr 2⟩ ⟨[0], 0⟩))]

/-- The tasks come to rest when the first Recv has got the datagram and the second one is parked. -/
theorem driver_rests_recv : ∃ d t : Driver reference,
    Reachable step (new 64 ()) d ∧ d.sys.stack.operation_event.queue.length = 2 ∧
    Run step (fun _ a => a.internal = true) d t ∧
    t.sys.futures = [⟨.udp ⟨0, 0⟩, 0⟩, ⟨.udp ⟨0, 0⟩, 1⟩] ∧
    t.sys.stack.answers.length = 1 ∧ Rested t := by
  obtain ⟨d, hd, ht⟩ := exists_of_exec_any step (new 64 () : Driver reference) two_recvs
    (fun d => d.sys.stack.operation_event.queue.length = 2 ∧
      (execIf step (fun _ a => a.internal) d [.generate, .send_events, .recv_events, .try_recv,
        .drive_once 0, .event, .event, .finish, .send]).any fun t =>
          t.sys.futures = [⟨.udp ⟨0, 0⟩, 0⟩, ⟨.udp ⟨0, 0⟩, 1⟩] ∧ t.sys.stack.answers.length = 1 ∧
          t.drive = .selecting none ∧ t.buffer.isSome ∧ t.read_packet = [] ∧ t.generated = none ∧
          t.events = [] ∧ t.write_packet.queue = [] ∧ t.sys.stack.operation_event.queue = [])
    (by decide +kernel)
  obtain ⟨queued, ht⟩ := of_decide_eq_true ht
  obtain ⟨t, later, ht⟩ := (Option.any_eq_true _ _).mp ht
  obtain ⟨futures, answers, task, reads, read_packet, generated, events, write_packet, queue⟩ :=
    of_decide_eq_true ht
  have run : Run step (fun _ a => a.internal = true) d t := Run.of_execIf (fun _ _ h => h) later
  have rests := driver_rests reference_spec reference_flushes reference_rests reference_notifies
    (Run.of_exec hd)
  have stuck := (rests.2 t run).mp fun a internal =>
    stuck_of_empty task reads read_packet generated events write_packet queue internal
  refine ⟨d, t, Run.of_exec hd, queued, run, futures, answers, stuck.resolve_left fun ended => ?_⟩
  rw [ended.drive] at task
  cases task

end Driver

end L3Extract
