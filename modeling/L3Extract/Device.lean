import L3Extract.Lib.Flow
import L3Extract.Lib.Transition
import L3Extract.Stack.Arrival

/-!
# The virtual interface

`VirtualInterface` is the device that smoltcp's `Interface::poll` reads packets from and writes
packets to. The poll takes tokens from it, with `receive` and with `transmit`, and consumes them, or
drops them. A token borrows its queue, so that as long as there is one nobody can call the device.

`RxToken::consume` unwraps the first packet of the queue. `device_conveys` shows that there is one,
whatever is done to the device, and that the packets go through both queues in order and once. It
also says what a poll leaves of the queues when it ends by finding no packet, which is what
`TcpStack.poll` puts there.
-/

namespace L3Extract

open Transition Flow

/-- The device, with the tokens that borrow it. -/
structure Device where
  iface : VirtualInterface
  /-- There is a `VirtualRxToken`. -/
  rx_token : Bool
  /-- There is a `VirtualTxToken`. -/
  tx_token : Bool

/-- A call of the stack, or of a poll. -/
inductive DeviceAction
  | push_receive_packet (packet : Packet)
  | pop_all_send_packets
  /-- `Device::receive` and `Device::transmit` -/
  | receive
  | transmit
  /-- `RxToken::consume` -/
  | rx_consume
  /-- `TxToken::consume`, with a function that writes to a buffer of length `len` -/
  | tx_consume (len : ℕ) (f : Vector UInt8 len → Vector UInt8 len)
  /-- The tokens are dropped as they are. -/
  | drop_rx_token
  | drop_tx_token

/-- The call is one of a poll. -/
def DeviceAction.in_poll : DeviceAction → Bool
  | push_receive_packet _ => false
  | pop_all_send_packets => false
  | _ => true

namespace Device

/-- `VirtualInterface::new`. -/
def new : Device := ⟨⟨[], []⟩, false, false⟩

/-- No token borrows the device. -/
def free (d : Device) : Bool := !d.rx_token && !d.tx_token

/-- The device after a call, if the call is possible and does not panic. -/
def step (d : Device) : DeviceAction → Option Device
  | .push_receive_packet packet =>
    if d.free then
      some { d with iface := { d.iface with rx_queue := d.iface.rx_queue ++ [packet] } }
    else none
  | .pop_all_send_packets =>
    if d.free then some { d with iface := { d.iface with tx_queue := [] } } else none
  | .receive =>
    if d.free then
      some (if d.iface.rx_queue = [] then d else { d with rx_token := true, tx_token := true })
    else none
  | .transmit => if d.free then some { d with tx_token := true } else none
  | .rx_consume =>
    if d.rx_token then
      match d.iface.rx_queue with
      | _ :: packets =>
        some { d with iface := { d.iface with rx_queue := packets }, rx_token := false }
      -- `self.queue.pop_front().unwrap()`
      | [] => none
    else none
  | .tx_consume len f =>
    if d.tx_token then
      -- `BytesMut::zeroed(len)`
      let buf := (f (.replicate len 0)).toList
      some { d with
        iface := { d.iface with tx_queue := d.iface.tx_queue ++ [buf] }
        tx_token := false }
    else none
  | .drop_rx_token => if d.rx_token then some { d with rx_token := false } else none
  | .drop_tx_token => if d.tx_token then some { d with tx_token := false } else none

/-- The packets that went into the two queues and came out of them, in order. -/
structure Moved where
  received : List Packet
  consumed : List Packet
  sent : List Packet
  popped : List Packet

/-- Nothing has been moved yet. -/
def Moved.nothing : Moved := ⟨[], [], [], []⟩

/-- What a call moves. -/
def Moved.note (m : Moved) (d : Device) (a : DeviceAction) (d' : Device) : Moved :=
  match a with
  | .push_receive_packet packet => { m with received := m.received ++ [packet] }
  | .rx_consume => { m with consumed := m.consumed ++ d.iface.rx_queue.head?.toList }
  | .tx_consume _ _ =>
    { m with sent := m.sent ++ gained d.iface.tx_queue d'.iface.tx_queue }
  | .pop_all_send_packets => { m with popped := m.popped ++ d.iface.tx_queue }
  | _ => m

/-- What holds between the calls. -/
structure Conveys (d : Device) (m : Moved) : Prop where
  /-- A token to receive with has a packet to receive. -/
  rx_token : d.rx_token = true → d.iface.rx_queue ≠ []
  rx_queue : Conserved m.received m.consumed d.iface.rx_queue
  tx_queue : Conserved m.sent m.popped d.iface.tx_queue

/-- A step of the device keeps all packets in order. -/
theorem Conveys.step {d d' : Device} {m : Moved} {a : DeviceAction} (conveys : Conveys d m)
    (h : d.step a = some d') : Conveys d' (m.note d a d') := by
  obtain ⟨rx_token, rx_queue, tx_queue⟩ := conveys
  cases a with
  | push_receive_packet packet =>
    simp only [Device.step] at h
    split_ifs at h with free
    cases h
    exact ⟨fun _ => by simp, rx_queue.put [packet], tx_queue⟩
  | pop_all_send_packets =>
    simp only [Device.step] at h
    split_ifs at h with free
    cases h
    have tx_queue : Conserved m.sent m.popped (d.iface.tx_queue ++ []) := by
      rwa [List.append_nil]
    exact ⟨rx_token, rx_queue, tx_queue.get⟩
  | receive =>
    simp only [Device.step] at h
    split_ifs at h with free empty
    · cases h
      exact ⟨rx_token, rx_queue, tx_queue⟩
    · cases h
      exact ⟨fun _ => empty, rx_queue, tx_queue⟩
  | transmit =>
    simp only [Device.step] at h
    split_ifs at h with free
    cases h
    exact ⟨rx_token, rx_queue, tx_queue⟩
  | rx_consume =>
    simp only [Device.step] at h
    split_ifs at h with there
    cases packets : d.iface.rx_queue with
    | nil => exact absurd packets (rx_token there)
    | cons packet rest =>
      rw [packets] at h rx_queue
      cases h
      refine ⟨by simp, ?_, tx_queue⟩
      simp only [Moved.note, packets, List.head?_cons, Option.toList_some]
      exact rx_queue.get
  | tx_consume len f =>
    simp only [Device.step] at h
    split_ifs at h with there
    cases h
    refine ⟨rx_token, rx_queue, ?_⟩
    simp only [Moved.note, gained_append]
    exact tx_queue.put _
  | drop_rx_token =>
    simp only [Device.step] at h
    split_ifs at h with there
    cases h
    exact ⟨by simp, rx_queue, tx_queue⟩
  | drop_tx_token =>
    simp only [Device.step] at h
    split_ifs at h with there
    cases h
    exact ⟨rx_token, rx_queue, tx_queue⟩

/-! ## A poll -/

/-- What a poll has done so far: packets left the front of the one queue, and came to the end of the
other. -/
structure Polled (d : Device) (m : Moved) (d' : Device) (m' : Moved) : Prop where
  rx_queue : ∃ old, d.iface.rx_queue = old ++ d'.iface.rx_queue ∧ m'.consumed = m.consumed ++ old
  tx_queue : ∃ new, d'.iface.tx_queue = d.iface.tx_queue ++ new ∧ m'.sent = m.sent ++ new

/-- A poll that has done nothing. -/
theorem Polled.refl (d : Device) (m : Moved) : Polled d m d m :=
  ⟨⟨[], by simp⟩, ⟨[], by simp⟩⟩

/-- A call of a poll goes on with it. -/
theorem Polled.step {d₀ d d' : Device} {m₀ m : Moved} {a : DeviceAction}
    (polled : Polled d₀ m₀ d m) (in_poll : a.in_poll = true) (h : d.step a = some d') :
    Polled d₀ m₀ d' (m.note d a d') := by
  obtain ⟨⟨old, queue, consumed⟩, ⟨new, queued, sent⟩⟩ := polled
  cases a with
  | push_receive_packet packet => cases in_poll
  | pop_all_send_packets => cases in_poll
  | receive =>
    simp only [Device.step] at h
    split_ifs at h with free empty <;> cases h <;>
      exact ⟨⟨old, queue, consumed⟩, ⟨new, queued, sent⟩⟩
  | transmit =>
    simp only [Device.step] at h
    split_ifs at h with free
    cases h
    exact ⟨⟨old, queue, consumed⟩, ⟨new, queued, sent⟩⟩
  | rx_consume =>
    simp only [Device.step] at h
    split_ifs at h with there
    cases packets : d.iface.rx_queue with
    | nil => rw [packets] at h; cases h
    | cons packet rest =>
      rw [packets] at h queue
      cases h
      refine ⟨⟨old ++ [packet], by simp [queue], ?_⟩, ⟨new, queued, sent⟩⟩
      simp [Moved.note, packets, consumed]
  | tx_consume len f =>
    simp only [Device.step] at h
    split_ifs at h with there
    cases h
    refine ⟨⟨old, queue, consumed⟩, ⟨new ++ [(f (.replicate len 0)).toList], by simp [queued], ?_⟩⟩
    simp only [Moved.note, gained_append, sent, List.append_assoc]
  | drop_rx_token =>
    simp only [Device.step] at h
    split_ifs at h with there
    cases h
    exact ⟨⟨old, queue, consumed⟩, ⟨new, queued, sent⟩⟩
  | drop_tx_token =>
    simp only [Device.step] at h
    split_ifs at h with there
    cases h
    exact ⟨⟨old, queue, consumed⟩, ⟨new, queued, sent⟩⟩

/-- What a poll has done so far, in every run of its tokens. -/
theorem polled_of_run {d d' : Device} {m m' : Moved}
    (run : Run (recording step Moved.note) (fun _ a => a.in_poll = true) (d, m) (d', m')) :
    Polled d m d' m' := by
  refine run.invariant (I := fun p => Polled d m p.1 p.2) (.refl d m) ?_
  rintro p a q - in_poll h polled
  obtain ⟨steps, note⟩ := recording_eq_some.mp h
  rw [note]
  exact polled.step in_poll steps

/-- Whatever the stack and the polls do to the device, `RxToken::consume` finds a packet. The
packets that were pushed are consumed in order and once, and so are those taken out that were sent.
A poll that ends by finding no packet has consumed all that there were, in order, and has put what
it sent behind what was there to be sent, which is how `poll` leaves the virtual interface of a
stack. -/
theorem device_conveys {d : Device} {m : Moved}
    (run : Run (recording step Moved.note) (fun _ _ => True) (new, .nothing) (d, m)) :
    (d.rx_token = true → ∃ d', d.step .rx_consume = some d') ∧
    Conserved m.received m.consumed d.iface.rx_queue ∧
    Conserved m.sent m.popped d.iface.tx_queue ∧
    ∀ d' m', Run (recording step Moved.note) (fun _ a => a.in_poll = true) (d, m) (d', m') →
      d'.iface.rx_queue = [] → m'.consumed = m.consumed ++ d.iface.rx_queue ∧
        ∃ sent, m'.sent = m.sent ++ sent ∧
          ∀ (S : Smoltcp) (t : TcpStack S) (now : ℕ), t.virtual_iface = d.iface →
            (t.poll_result now).sent = sent → (t.poll now).virtual_iface = d'.iface := by
  have conveys : Conveys d m := by
    have start : Conveys new .nothing := ⟨by simp [new], rfl, rfl⟩
    refine run.invariant (I := fun p => Conveys p.1 p.2) start ?_
    rintro p a q - - h conveys
    obtain ⟨steps, note⟩ := recording_eq_some.mp h
    rw [note]
    exact conveys.step steps
  refine ⟨fun there => ?_, conveys.rx_queue, conveys.tx_queue, fun d' m' poll empty => ?_⟩
  · obtain ⟨packet, rest, packets⟩ := List.exists_cons_of_ne_nil (conveys.rx_token there)
    exact ⟨_, by simp only [step, there, if_true, packets]; rfl⟩
  · obtain ⟨⟨old, queue, consumed⟩, ⟨new, queued, sent⟩⟩ := polled_of_run poll
    rw [empty, List.append_nil] at queue
    refine ⟨by rw [consumed, queue], new, sent, fun S t now iface result => ?_⟩
    rw [(TcpStack.wakes_poll t now).virtual_iface]
    show VirtualInterface.mk [] (t.virtual_iface.tx_queue ++ (t.poll_result now).sent) = d'.iface
    rw [iface, result, ← queued, ← empty]

/-- A packet is answered in the poll that receives it, before the queue is found to be empty. -/
def answered : List DeviceAction := [
  .push_receive_packet [1], .push_receive_packet [2], .receive, .rx_consume,
  .tx_consume 2 fun buf => buf.set 1 7]

/-- A packet is consumed and answered, and the next one is still there. -/
theorem device_conveys_answered : ∃ d m,
    Run (recording step Moved.note) (fun _ _ => True) (new, .nothing) (d, m) ∧
    m.consumed = [[1]] ∧ m.sent = [[0, 7]] ∧ Conserved m.received m.consumed [[2]] ∧
    (d.rx_token = true → ∃ d', d.step .rx_consume = some d') := by
  obtain ⟨⟨d, m⟩, hd, ht⟩ := exists_of_exec_any (recording step Moved.note) (new, .nothing) answered
    (fun p => p.2.consumed = [[1]] ∧ p.2.sent = [[0, 7]] ∧ p.1.iface.rx_queue = [[2]])
    (by decide +kernel)
  obtain ⟨consumed, sent, queue⟩ := of_decide_eq_true ht
  obtain ⟨finds, conserved, -⟩ := device_conveys (Run.of_exec hd)
  exact ⟨d, m, Run.of_exec hd, consumed, sent, queue ▸ conserved, finds⟩

end Device

end L3Extract
