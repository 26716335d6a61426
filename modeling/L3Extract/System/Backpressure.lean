import L3Extract.System.Answers
import L3Extract.System.Requests
import L3Extract.System.Versions

/-!
# A Send that has to wait

The handler of a Send parks it while `can_send` says that the socket takes no datagram. `can_send`
looks at one ring of the two: a payload that finds no room in the other one is answered with
smoltcp's error (`full_ring_fails`), although the next poll empties both. A Send that is parked
stays in its waker only as long as no other one is parked there.

`send_waits` says that a Send waits as it should if the payload ring is not the first to be full
when it is handled, and if none is parked over it. While its socket is there it is pending or was
answered with success; when it is parked, it goes back into the channel with the next poll, and fits
then.
-/

namespace L3Extract

open OperationEvent Transition TcpStack

variable {S : Smoltcp} {ring : PayloadRing S.Udp}

namespace TcpStack

/-! ## Where errors come from -/

/-- Before it comes to its events, `drive_once` gives out no errors but those of wakers. -/
theorem Begins.breaks {t t' : TcpStack S} {packet : Option Packet} {now : ℕ}
    {res : Except DriveError Unit} (begins : Begins t packet now t' res) : Breaks t t' := by
  have poll : ∀ u : TcpStack S, Breaks u ((u.push packet).poll now) := fun u =>
    (wakes_poll (u.push packet) now).breaks
  cases begins with
  | failed => exact .same rfl
  | unready arrived opens adds => exact .same adds.answers
  | polled quiet => exact poll t
  | @opened _ _ _ _ u arrived opens adds =>
    intro tx err answered
    rcases poll u tx err answered with before | broken
    · exact .inl (adds.answers ▸ before)
    · exact .inr (adds.connected ▸ broken)

/-- An error that handling an event gives out is that of a waker, or of the event's own request: the
handler refuses it, or smoltcp does. -/
theorem Outcome.error {t t' : TcpStack S} {e : OperationEvent} (outcome : Outcome t e t')
    {tx : ResultTx} {err : IoError} (answered : (tx, .error err) ∈ t'.answers) :
    ((tx, .error err) ∈ t.answers ∨
      t.operation_event.connected = false ∧ ∃ text, err = .message .broken_pipe text) ∨
    e.result_tx = some tx ∧ (t.Refuses e (.error err) ∨ ∃ s s' memory,
      t.socket_at e.index = some s ∧ t.Serves e s s' memory (.error err)) := by
  cases outcome with
  | answered tx' a result_tx refuses eq =>
    subst eq
    rcases List.mem_append.mp answered with old | own
    · exact .inl (.inl old)
    · cases List.mem_singleton.mp own
      exact .inr ⟨result_tx, .inl refuses⟩
  | served tx' a s s' memory result_tx found socket serves eq =>
    subst eq
    rcases List.mem_append.mp answered with old | own
    · exact .inl (.inl old)
    · cases List.mem_singleton.mp own
      exact .inr ⟨result_tx, .inr ⟨s, s', memory, socket, serves⟩⟩
  | parked side parks eq =>
    subst eq
    exact .inl (.inl answered)
  | shutdown handle tx' c event found socket eq =>
    subst eq
    have wakes := wakes_close_tcp (t.register handle.index .send e) handle.index c
    exact .inl (wakes.breaks tx err answered)
  | closing handle c event found socket active eq =>
    subst eq
    exact .inl ((wakes_close_tcp t handle.index c).breaks tx err answered)
  | removed h s s' accepted u event found socket closes wakes others woken eq =>
    subst eq
    exact .inl (wakes.breaks tx err answered)
  | delivered_tcp handle c remote local_ event socket may_recv remote_eq local_eq eq =>
    subst eq
    exact .inl (.inl answered)
  | delivered_udp handle u ip event socket bound eq =>
    subst eq
    exact .inl (.inl answered)
  | ignored h event gone eq =>
    subst eq
    exact .inl (.inl answered)

/-! ## Parked Sends -/

/-- Where a Send is parked, the socket has something to send. -/
def SendsWait (t : TcpStack S) : Prop :=
  ∀ i handle src buffer tx, t.waker i .send = some (.send handle src buffer tx) →
    ∃ u, t.udp_at i = some u ∧ S.udp.tx_buffer u ≠ []

/-- The Sends that are parked are in the channel after the poll, if it has its receiver, and their
sockets have sent everything. -/
theorem SendsWait.polled (rings : S.Rings ring) (flushes : S.Flushes)
    {t t' : TcpStack S} {packet : Option Packet} {now : ℕ} (wait : t.SendsWait)
    (begins : Begins t packet now t' (.ok ())) {i : ℕ} {handle : SocketHandle} {src : SocketAddr}
    {buffer : BufferId} {tx : ResultTx}
    (parked : t.waker i .send = some (.send handle src buffer tx)) :
    t'.waker i .send = none ∧
      (t.operation_event.connected = true →
        .send handle src buffer tx ∈ t'.operation_event.queue) ∧
      ∃ u u', t.udp_at i = some u ∧ t'.udp_at i = some u' ∧ S.UdpPolled i u u' ∧
        S.udp.tx_buffer u' = [] := by
  obtain ⟨u, slot, queued⟩ := wait i handle src buffer tx parked
  obtain ⟨v, prepares, rfl⟩ := begins.prepares
  have there := prepares.socket_at (udp_at_eq_some.mp slot)
  have inside : Slots.get (v.push packet).sockets i = some (.udp u) := by
    rw [get_sockets]
    exact there
  have woken : (i, Side.send) ∈ ((v.push packet).poll_result now).woken :=
    rings.poll_woken _ _ _ _ i u inside queued
  have none : ((v.push packet).poll now).waker i .send = none := waker_foldl woken _
  refine ⟨none, fun conn => ?_, u, ((v.push packet).poll_result now).udp i u, slot, ?_,
    .intro _ _ _ _ inside, flushes.poll_tx_buffer _ _ _ _ i u inside⟩
  · have before : ((v.push packet).advance now).waker i .send =
        some (.send handle src buffer tx) := by
      rw [waker_advance]
      exact (prepares.waker (udp_at_eq_some.mp slot) .send).trans parked
    rcases (wakes_poll (v.push packet) now).moved i .send _
      before rfl (prepares.connected.trans conn) with
      kept | moved
    · rw [none] at kept
      cases kept
    · exact moved
  · rw [udp_at_eq_some, socket_at_poll, show (v.push packet).socket_at i = _ from there]
    rfl

/-- A Send that is still parked when a call has begun is at a socket with something to send. -/
theorem SendsWait.begins (rings : S.Rings ring) (flushes : S.Flushes) {t t' : TcpStack S}
    {packet : Option Packet} {now : ℕ} {res : Except DriveError Unit} (wait : t.SendsWait)
    (begins : Begins t packet now t' res) : t'.SendsWait := by
  intro i handle src buffer tx hw
  have polled : Begins t packet now t' (.ok ()) →
      ∃ u, t'.udp_at i = some u ∧ S.udp.tx_buffer u ≠ [] := by
    intro begins
    -- The wakers of parked Sends have run.
    obtain ⟨v, prepares, eq⟩ := begins.prepares
    have before : v.waker i .send = some (.send handle src buffer tx) := by
      rw [eq] at hw
      have kept := (wakes_poll (v.push packet) now).waker_of_some hw
      rwa [waker_advance] at kept
    rcases prepares.ready before with parked | ⟨h, ready⟩
    · rw [(wait.polled rings flushes begins parked).1] at hw
      cases hw
    · cases ready
  cases begins with
  | failed => exact wait i handle src buffer tx hw
  | @unready p h s accepted _ arrived opens adds disconnected protocol =>
    by_cases hi : i = h.handle.index
    · subst hi
      cases adds.waker_send _ hw
    · rw [adds.waker i .send hi] at hw
      obtain ⟨u, slot, queued⟩ := wait i handle src buffer tx hw
      refine ⟨u, udp_at_eq_some.mpr ?_, queued⟩
      rw [adds.socket_at, if_neg hi]
      exact udp_at_eq_some.mp slot
  | polled quiet => exact polled (.polled quiet)
  | opened arrived opens adds => exact polled (.opened arrived opens adds)

/-- A UDP socket that is still there has what it had to send, and what the event added. -/
theorem Outcome.udp_sends (spec : S.Spec) {t t' : TcpStack S} {e : OperationEvent}
    (outcome : Outcome t e t') {i : ℕ} {u : S.Udp} {s' : S.Socket} (slot : t.udp_at i = some u)
    (there : t'.socket_at i = some s') :
    ∃ u' new, t'.udp_at i = some u' ∧ S.udp.tx_buffer u' = S.udp.tx_buffer u ++ new := by
  have was := kind_of_udp (udp_at_eq_some.mp slot)
  have kind : t'.kind_at i = some .udp := by
    rcases outcome.tables with same | ⟨h, -, removes⟩
    · rw [same.kind, was]
    · have is := removes.kind i
      split_ifs at is
      · rw [TcpStack.kind_at, there] at is
        cases is
      · rw [is, was]
  obtain ⟨u', slot'⟩ := udp_of_kind kind
  have slot' := udp_at_eq_some.mpr slot'
  obtain ⟨v, new, before, eq, -⟩ := outcome.udp_queues spec slot'
  cases slot.symm.trans before
  exact ⟨u', new, slot', eq⟩

/-- A Send is parked only if there is something to send. -/
theorem SendsWait.outcome (spec : S.Spec) (rings : S.Rings ring) {t t' : TcpStack S}
    {e : OperationEvent} (wait : t.SendsWait) (outcome : Outcome t e t') : t'.SendsWait := by
  intro i handle src buffer tx hw
  obtain ⟨s', there⟩ : ∃ s', t'.socket_at i = some s' := by
    cases hv : t'.socket_set.val i with
    | none => simp [waker, hv] at hw
    | some item => exact ⟨item.socket, by simp [TcpStack.socket_at, hv]⟩
  -- What was to be sent before is to be sent after.
  have kept : ∀ {u}, t.udp_at i = some u → S.udp.tx_buffer u ≠ [] →
      ∃ u', t'.udp_at i = some u' ∧ S.udp.tx_buffer u' ≠ [] := by
    intro u slot queued
    obtain ⟨u', new, slot', eq⟩ := outcome.udp_sends spec slot there
    exact ⟨u', slot', by simp [eq, queued]⟩
  rcases outcome.waker hw with old | rfl
  · obtain ⟨u, slot, queued⟩ := wait i handle src buffer tx old
    exact kept slot queued
  by_cases hi : i = handle.index
  swap
  · rw [waker, outcome.val_of_ne hi] at hw
    obtain ⟨u, slot, queued⟩ := wait i handle src buffer tx hw
    exact kept slot queued
  subst hi
  cases outcome with
  | answered tx' a result_tx refuses eq =>
    rw [eq] at hw
    obtain ⟨u, slot, queued⟩ := wait _ handle src buffer tx hw
    exact kept slot queued
  | served tx' a s s₁ memory result_tx found socket serves eq =>
    rw [eq] at hw
    have old := (waker_put t handle.index handle.index s₁ .send).symm.trans hw
    obtain ⟨u, slot, queued⟩ := wait _ handle src buffer tx old
    exact kept slot queued
  | parked side parks eq =>
    cases parks with
    | send found socket full =>
      refine kept (udp_at_eq_some.mpr socket) fun empty => ?_
      rw [(rings.empty _ empty).1] at full
      cases full
  | shutdown handle' tx' c event found socket eq => cases event
  | closing handle' c event found socket active eq => cases event
  | removed h' s s₁ accepted v event found socket closes wakes others woken eq => cases event
  | delivered_tcp handle' c remote local_ event socket may_recv remote_eq local_eq eq => cases event
  | delivered_udp handle' v ip event socket bound eq => cases event
  | ignored h' event gone eq => cases event

/-! ## What a Send waits for -/

/-- The datagram can be sent, and is not larger than the payload ring of a socket. -/
def sendable (addr : SocketAddr) (data : Bytes) : Bool :=
  (IpEndpoint.from addr).addressable && decide (data.length ≤ socket_buf_size)

/-- If the socket of a Send says that it can send, then it has room for the payload. -/
def sends_fit (t : TcpStack S) (ring : PayloadRing S.Udp) : OperationEvent → Bool
  | .send handle src buffer _ => (t.udp_at handle.index).all fun u =>
    !sendable src (t.memory buffer).as_slice || !S.udp.can_send u ||
      ring.fits u (t.memory buffer).as_slice.length
  | _ => true

/-- A Send whose datagram does not fit at present is parked, and no Send is answered with an
error. -/
def Waits (ring : PayloadRing S.Udp) (t t' : TcpStack S) (u : S.Udp) (handle : SocketHandle)
    (src : SocketAddr) (buffer : BufferId) (tx : ResultTx) : Prop :=
  (ring.takes u (t.memory buffer).as_slice (.from src) = false →
    t'.waker handle.index .send = some (.send handle src buffer tx) ∧ t'.answers = t.answers) ∧
  ∀ err, t'.answers ≠ t.answers ++ [(tx, .error err)]

/-- A Send waits as it should if and only if `can_send` is right about the payload ring. -/
theorem waits_iff (enqueues : S.Enqueues ring) {t : TcpStack S} {handle : SocketHandle}
    {src : SocketAddr} {buffer : BufferId} {tx : ResultTx} {u : S.Udp}
    (slot : t.udp_at handle.index = some u) (port : (S.udp.endpoint u).port ≠ 0)
    (sendable : sendable src (t.memory buffer).as_slice = true) :
    Waits ring t (t.sent u handle src buffer tx) u handle src buffer tx ↔
      t.sends_fit ring (.send handle src buffer tx) = true := by
  have takes := enqueues.takes_iff port (t.memory buffer).as_slice (.from src)
  have addressable : (IpEndpoint.from src).addressable = true :=
    (Bool.and_eq_true_iff.mp sendable).1
  rw [sends_fit, slot, Option.all_some, sendable]
  rw [PayloadRing.takes, addressable] at takes
  rw [Waits, PayloadRing.takes, addressable]
  cases can : S.udp.can_send u with
  | false =>
    -- The Send is parked.
    have sent : t.sent u handle src buffer tx =
        t.register handle.index .send (.send handle src buffer tx) :=
          by rw [TcpStack.sent, can]; rfl
    refine iff_of_true ⟨fun _ => ⟨?_, by rw [sent]; rfl⟩, fun err eq => ?_⟩ (by simp)
    · rw [sent, waker_register,
        if_pos ⟨rfl, rfl, Option.isSome_of_eq_some (udp_at_eq_some.mp slot)⟩]
    · rw [sent] at eq
      exact absurd eq (by simp [register])
  | true =>
    have answers : (t.sent u handle src buffer tx).answers = t.answers ++
        [(tx, send_answer (t.memory buffer).as_slice
          (S.udp.send_slice u (t.memory buffer).as_slice (.from src)).2)] := by
      rw [TcpStack.sent, can]
      rfl
    cases fits : ring.fits u (t.memory buffer).as_slice.length with
    | true =>
      rw [can, fits] at takes
      refine iff_of_true ⟨by simp, fun err eq => ?_⟩ (by simp)
      rw [answers, takes.mpr rfl] at eq
      simp [send_answer] at eq
    | false =>
      -- It is answered with the error.
      rw [can, fits] at takes
      refine iff_of_false (fun waits => ?_) (by simp)
      cases res : (S.udp.send_slice u (t.memory buffer).as_slice (.from src)).2 with
      | ok done => exact absurd (takes.mp res) (by simp)
      | error err => exact waits.2 _ (by rw [answers, res]; rfl)

/-- smoltcp refuses a Send only if its datagram cannot be sent, or does not fit. -/
theorem not_sendable_of_serves (enqueues : S.Enqueues ring) {t : TcpStack S} {socket : UdpInfo}
    {buf : IoBuf} {addr : SocketAddr} {id : ℕ} {s s' : S.Socket} {memory : BufferId → IoBuf}
    {err : IoError} (port : t.EachUdp fun u => (S.udp.endpoint u).port ≠ 0)
    (own : t.memory id = buf)
    (fit : t.sends_fit ring ((Call.send socket buf addr).event id) = true)
    (there : t.socket_at socket.handle.index = some s)
    (serves : t.Serves ((Call.send socket buf addr).event id) s s' memory (.error err)) :
    sendable addr buf.as_slice = false := by
  by_contra sends
  rw [Bool.not_eq_false] at sends
  generalize result : (.error err : Answer) = answer at serves
  cases serves with
  | @send _ _ _ _ u can_send =>
    have slot : t.udp_at socket.handle.index = some u := udp_at_eq_some.mpr there
    have taken := enqueues.takes_iff (port _ u slot) (t.memory id).as_slice (.from addr)
    rw [own] at taken result
    simp only [Call.event, sends_fit] at fit
    rw [slot, own] at fit
    simp only [Option.all_some, sends, can_send, Bool.not_true, Bool.false_or] at fit
    rw [PayloadRing.takes, can_send, fit, (Bool.and_eq_true_iff.mp sends).1] at taken
    rw [taken.mpr rfl] at result
    cases result

/-- Every UDP socket has the payload ring that it was bound with. -/
theorem capacity_invariant (rings : S.Rings ring) :
    UdpInvariant fun u : S.Udp => ring.capacity u = socket_buf_size where
  bind h := rings.bind_capacity _ _ _ h
  polled := by
    rintro i u _ ⟨interface, now, packets, sockets, there⟩ capacity
    rwa [rings.poll_capacity]
  recv len capacity := by rwa [rings.recv_capacity]

end TcpStack

namespace System

/-- When the Send with the given number is handled and `can_send` holds, the payload ring has room
for its datagram. -/
def SendsFit (ring : PayloadRing S.Udp) (s : System S) (id : ResultTx) (a : Action) : Prop :=
  a = .event → ∀ e ∈ s.next_event, e.result_tx = some id → s.stack.sends_fit ring e = true

instance (s : System S) (id : ResultTx) (a : Action) : Decidable (s.SendsFit ring id a) :=
  inferInstanceAs (Decidable (_ → _))

/-- A Send that fits when it is handled is answered with an error only by a waker that does not find
the receiver of the event channel, or because its socket is gone. -/
theorem send_error_of_step (enqueues : S.Enqueues ring) {s s' : System S} {a : Action} {r : Record}
    {id : ℕ} (faithful : Faithful s r)
    (port : s.stack.EachUdp fun u => (S.udp.endpoint u).port ≠ 0) (h : s.step a = some s')
    (fit : s.SendsFit ring id a) {err : IoError} (answered : (id, .error err) ∈ s'.stack.answers)
    {socket : UdpInfo} {buf : IoBuf} {addr : SocketAddr}
    (call : (r.note s a s').calls[id]? = some (.send socket buf addr))
    (sends : sendable addr buf.as_slice = true) :
    (s.stack.operation_event.connected = false ∧ ∃ text, err = .message .broken_pipe text) ∨
    r.calls[id]? = some (.send socket buf addr) ∧ ((id, .error err) ∈ s.stack.answers ∨
      s.stack.contains (.udp socket.handle) = false ∧ err = .simple .not_found) := by
  have old : (id, .error err) ∈ s.stack.answers →
      r.calls[id]? = some (.send socket buf addr) ∧ ((id, .error err) ∈ s.stack.answers ∨
        s.stack.contains (.udp socket.handle) = false ∧ err = .simple .not_found) := by
    intro was
    obtain ⟨c, hc, -⟩ := faithful.answered id _ was
    exact ⟨hc.trans ((call_note hc s a s').symm.trans call), .inl was⟩
  cases call_step h with
  | started packet now batch events batches stack res action rest took ok eq =>
    subst action eq
    rcases (begin_drive_cases ok).breaks id err answered with was | broken
    · exact .inr (old was)
    · exact .inl broken
  | handled e events stack action driving ok eq =>
    subst action eq
    have next : s.next_event = some e := by rw [next_event, driving]; rfl
    rcases (handle_outcome ok).error answered with (was | broken) | ⟨result_tx, own_error⟩
    · exact .inr (old was)
    · exact .inl broken
    · -- The event is the Send itself.
      obtain ⟨c, was, rfl, -, own⟩ := faithful.pending (mem_pending_of_next next) result_tx
      obtain rfl : c = .send socket buf addr :=
        Option.some.inj ((call_note was s _ _).symm.trans call)
      have own : s.stack.memory id = buf := own
      have fits := fit rfl _ next result_tx
      rcases own_error with refuses | ⟨s₀, s₁, memory, there, serves⟩
      · cases refuses with
        | not_found deferred gone => exact .inr ⟨was, .inr ⟨gone, rfl⟩⟩
      · rw [not_sendable_of_serves enqueues port own fits there serves] at sends
        cases sends
  | beside driving socket_set answers => exact .inr (old (answers ▸ answered))

/-- If the request is a Send of a datagram that can be sent, then no error of smoltcp has answered
it. -/
def NoneFailed (s : System S) (r : Record) (id : ℕ) : Prop :=
  ∀ kind err, (id, .error (.socket kind err)) ∈ s.stack.answers → ∀ socket buf addr,
    r.calls[id]? = some (.send socket buf addr) → sendable addr buf.as_slice = false

/-- In every run in which the Send fits it does not fail. -/
theorem noneFailed_of_run (spec : S.Spec) (enqueues : S.Enqueues ring) {size : ℕ}
    {interface : S.Interface} {s : System S} {r : Record} {id : ℕ}
    (run : Run (recording step Record.note) (fun p => p.1.SendsFit ring id)
      (new size interface, .empty) (s, r)) : NoneFailed s r id := by
  refine run.invariant (I := fun p => NoneFailed p.1 p.2 id) ?_ fun p a q run fit h none => ?_
  · intro kind err answered
    cases answered
  obtain ⟨hs, note⟩ := recording_eq_some.mp h
  intro kind err answered socket buf addr call
  by_contra sends
  rw [note] at call
  rw [Bool.not_eq_false] at sends
  rcases send_error_of_step enqueues (faithful_of_run spec run) (port_of_run spec run.of_recording)
      hs fit answered call sends with ⟨-, text, eq⟩ | ⟨call, was | ⟨-, eq⟩⟩
  · cases eq
  · rw [none kind err was socket buf addr call] at sends
    cases sends
  · cases eq

/-- If the request is a Send of a datagram that can be sent, then no error has answered it while its
socket is there. -/
def NoneRefused (s : System S) (r : Record) (id : ℕ) : Prop :=
  ∀ err, (id, .error err) ∈ s.stack.answers → ∀ socket buf addr,
    r.calls[id]? = some (.send socket buf addr) → .udp socket.handle ∈ s.streams →
    sendable addr buf.as_slice = false

/-- In every run in which the Send fits and is kept it is not refused. -/
theorem noneRefused_of_run (spec : S.Spec) (enqueues : S.Enqueues ring) {size : ℕ}
    {interface : S.Interface} {s : System S} {r : Record} {id : ℕ}
    (run : Run (recording step Record.note)
      (fun p a => p.1.SendsFit ring id a ∧ p.1.KeepsRequest id a)
      (new size interface, .empty) (s, r)) : NoneRefused s r id := by
  refine run.invariant (I := fun p => NoneRefused p.1 p.2 id) ?_ fun p a q run fit h none => ?_
  · intro err answered
    cases answered
  obtain ⟨hs, note⟩ := recording_eq_some.mp h
  have faithful := faithful_of_run spec run
  have plain : Run step (fun s a => s.SendsFit ring id a ∧ s.KeepsRequest id a)
      (new size interface) p.1 := run.erase_record (p := (_, .empty)) (q := p)
  intro err answered socket buf addr call held
  by_contra sends
  rw [note] at call
  rw [Bool.not_eq_false] at sends
  rcases send_error_of_step enqueues faithful (port_of_run spec run.of_recording) hs fit.1 answered
      call sends with ⟨disconnected, -⟩ | ⟨call, failed⟩
  · rw [connected_of_run (fun _ _ guard => guard.2.retains) plain] at disconnected
    cases disconnected
  -- The socket was there before the step.
  have issued : .udp socket.handle ∈ p.1.issued := by
    rw [← faithful.tracked.calls]
    exact List.mem_map.mpr ⟨_, List.mem_of_getElem? call, rfl⟩
  have held :=
    mem_streams_of_effect (issued_of_run plain) issued (effect_of_steps (steps_of_step hs)) held
  rcases failed with was | ⟨gone, -⟩
  · rw [none err was socket buf addr call held] at sends
    cases sends
  · have sound := sound_of_run plain
    have refers := sound.owned.refers _ (mem_owners_of_streams held)
    exact absurd ((sound.tables _ _).mpr refers.2) (of_decide_eq_false gone)

/-- A Send on a socket that is there is pending, in one place, or it was answered, once and with
success. -/
theorem pending_or_sent (spec : S.Spec) (enqueues : S.Enqueues ring) {size : ℕ}
    {interface : S.Interface} {s : System S} {r : Record} {id : ℕ} {socket : UdpInfo} {buf : IoBuf}
    {addr : SocketAddr}
    (run : Run (recording step Record.note)
      (fun p a => p.1.SendsFit ring id a ∧ p.1.KeepsRequest id a)
      (new size interface, .empty) (s, r))
    (call : r.calls[id]? = some (.send socket buf addr))
    (sends : sendable addr buf.as_slice = true) (held : .udp socket.handle ∈ s.streams) :
    ((s.pending.filterMap result_tx).count id = 1 ∧ id ∉ s.stack.answers.map Prod.fst) ∨
      id ∉ s.pending.filterMap result_tx ∧
        s.stack.answers.filter (·.1 = id) = [(id, .ok (.len buf.as_slice.length))] := by
  have faithful := faithful_of_run spec run
  have plain : Run step (fun s a => s.SendsFit ring id a ∧ s.KeepsRequest id a)
      (new size interface) s := run.erase_record (p := (_, .empty)) (q := (s, r))
  have issued : s.issued[id]? = some (.udp socket.handle) := by
    rw [← faithful.tracked.calls, List.getElem?_map, call]
    rfl
  rcases kept_of_run (plain.mono fun _ _ guard => guard.2) issued held with pending | ⟨gone, once⟩
  · exact .inl pending
  refine .inr ⟨gone, ?_⟩
  -- The one answer is not an error.
  have one : (s.stack.answers.filter (·.1 = id)).length = 1 := by
    rw [← once, List.count_eq_countP, List.countP_map, List.countP_eq_length_filter]
    rfl
  obtain ⟨⟨tx, answer⟩, only⟩ := List.length_eq_one_iff.mp one
  have own : (tx, answer) ∈ s.stack.answers.filter (·.1 = id) := by rw [only]; simp
  obtain ⟨answered, rfl⟩ : (tx, answer) ∈ s.stack.answers ∧ tx = id := by
    simpa using List.mem_filter.mp own
  rw [only]
  obtain ⟨c, call', truthful⟩ := faithful.answered tx answer answered
  obtain rfl : c = .send socket buf addr := Option.some.inj (call'.symm.trans call)
  cases truthful with
  | declined declines untouched kept =>
    obtain ⟨err, rfl⟩ := declines.2 rfl
    rw [noneRefused_of_run spec enqueues run err answered socket buf addr call held] at sends
    cases sends
  | sent moved kept => rfl

/-- In every run a Send is parked at a socket that has something to send. -/
theorem sendsWait_of_run (spec : S.Spec) (rings : S.Rings ring) (flushes : S.Flushes) {size : ℕ}
    {interface : S.Interface} {s : System S} (run : Reachable step (new size interface) s) :
    s.stack.SendsWait := by
  refine run.invariant (I := fun s => s.stack.SendsWait) ?_ fun s a s' _ _ h wait => ?_
  · intro i handle src buffer tx hw
    simp [new, TcpStack.new, waker] at hw
  cases stack_step h with
  | began packet now batch res action ok =>
    exact wait.begins rings flushes (begin_drive_cases ok)
  | handled e action next ok => exact wait.outcome spec rings (handle_outcome ok)
  | outside socket_set socket_handles accepted_udp_sockets rx_queue =>
    intro i handle src buffer tx hw
    rw [waker, socket_set] at hw
    obtain ⟨u, slot, queued⟩ := wait i handle src buffer tx hw
    refine ⟨u, ?_, queued⟩
    rwa [TcpStack.udp_at, TcpStack.socket_at, socket_set]

/-- A Send of a datagram that can be sent, and that an empty ring has room for, is not answered with
an error of smoltcp, in any run in which `can_send` is right about the payload ring whenever the
Send is handled. If no other request is parked over it either, then the Send is pending, in one
place, or was answered once, with success, as long as its socket is there.

In every reachable state, the handler of such a Send parks it if it does not fit, and answers it
with no error, if and only if `can_send` is right. The poll that begins the next call puts each
parked Send back into the channel, and makes room for its datagram. -/
theorem send_waits (spec : S.Spec) (enqueues : S.Enqueues ring) (rings : S.Rings ring)
    (flushes : S.Flushes) (size : ℕ) (interface : S.Interface) :
    (∀ (s : System S) (r : Record) (id : ℕ) socket buf addr,
      Run (recording step Record.note) (fun p => p.1.SendsFit ring id)
        (new size interface, .empty) (s, r) →
      r.calls[id]? = some (.send socket buf addr) → sendable addr buf.as_slice = true →
      ∀ kind err, (id, .error (.socket kind err)) ∉ s.stack.answers) ∧
    (∀ (s : System S) (r : Record) (id : ℕ) socket buf addr,
      Run (recording step Record.note) (fun p a => p.1.SendsFit ring id a ∧ p.1.KeepsRequest id a)
        (new size interface, .empty) (s, r) →
      r.calls[id]? = some (.send socket buf addr) → sendable addr buf.as_slice = true →
      .udp socket.handle ∈ s.streams →
      ((s.pending.filterMap result_tx).count id = 1 ∧ id ∉ s.stack.answers.map Prod.fst) ∨
        id ∉ s.pending.filterMap result_tx ∧
          s.stack.answers.filter (·.1 = id) = [(id, .ok (.len buf.as_slice.length))]) ∧
    (∀ s : System S, Reachable step (new size interface) s → ∀ handle src buffer tx u,
      s.next_event = some (.send handle src buffer tx) → s.stack.udp_at handle.index = some u →
      sendable src (s.stack.memory buffer).as_slice = true →
      ∃ t, s.stack.handle (.send handle src buffer tx) = .ok t ∧
        (Waits ring s.stack t u handle src buffer tx ↔ s.SendsFit ring tx .event)) ∧
    ∀ s : System S, Reachable step (new size interface) s → ∀ packet now t,
      s.stack.begin_drive packet now = .ok (t, .ok ()) → ∀ i handle src buffer tx,
      s.stack.waker i .send = some (.send handle src buffer tx) →
      (s.stack.operation_event.connected = true →
        .send handle src buffer tx ∈ t.operation_event.queue) ∧
      ∃ u, t.udp_at i = some u ∧ ∀ addr data, sendable addr data = true →
        ring.takes u data (.from addr) = true := by
  refine ⟨fun s r id socket buf addr run call sends kind err answered => ?_,
    fun s r id socket buf addr run call sends held =>
      pending_or_sent spec enqueues run call sends held,
    fun s run handle src buffer tx u next slot sends => ?_,
    fun s run packet now t ok i handle src buffer tx parked => ?_⟩
  · rw [noneFailed_of_run spec enqueues run kind err answered socket buf addr call] at sends
    cases sends
  · have found : s.stack.contains (.udp handle) = true :=
      decide_eq_true (((sound_of_run run).tables _ _).mpr (kind_of_udp (udp_at_eq_some.mp slot)))
    refine ⟨_, handle_send src buffer tx found slot, ?_⟩
    rw [waits_iff enqueues slot (port_of_run spec run _ u slot) sends]
    constructor
    · intro fits _ e he _
      obtain rfl : OperationEvent.send handle src buffer tx = e :=
        Option.some.inj (next.symm.trans he)
      exact fits
    · exact fun fit => fit rfl _ next rfl
  · have wait := sendsWait_of_run spec rings flushes run
    have begins := begin_drive_cases ok
    obtain ⟨-, resent, u, u', slot, slot', polled, sent⟩ := wait.polled rings flushes begins parked
    refine ⟨resent, u', slot', fun addr data sends => ?_⟩
    -- An empty payload ring of the capacity that it was bound with has room for the datagram.
    have capacity : ring.capacity u' = socket_buf_size :=
      (each_udp_of_run (capacity_invariant rings)
        (fun _ _ _ _ _ _ _ _ _ _ capacity => by rwa [rings.send_capacity]) run).begins
        (capacity_invariant rings) begins i u' slot'
    obtain ⟨can_send, fits⟩ := rings.empty u' sent
    obtain ⟨addressable, le⟩ := Bool.and_eq_true_iff.mp sends
    rw [PayloadRing.takes, can_send, addressable,
      (fits data.length).mpr (capacity ▸ of_decide_eq_true le)]
    rfl

open Reference in
/-- The user sends a datagram of `len` bytes. -/
def send_bytes (len : ℕ) : Action :=
  .call (.send ⟨⟨0, 0⟩, server_addr 2⟩ ⟨List.replicate len 8, len⟩ (client_addr 1))

open Reference in
/-- As many datagrams are sent in one call. -/
def burst (len count : ℕ) : List Action :=
  accepted_datagram ++ List.replicate count (send_bytes len) ++
    .generate :: .start none 0 (some 0) :: List.replicate count .event

open Reference in
/-- Of 33 datagrams of 4000 bytes the last one does not fit, and its Send fails, though there are
4064 places left for destinations and an empty ring has room for it. -/
theorem full_ring_fails : sendable (client_addr 1) (List.replicate 4000 8) = true ∧
    ∃ (s : System reference) (u : Reference.Udp),
      exec step (new 64 ()) (burst 4000 33) = some s ∧ s.stack.udp_at 0 = some u ∧
      reference.udp.can_send u = true ∧
      (32, .error (.socket .other .buffer_full)) ∈ s.stack.answers := by
  obtain ⟨s, hs, ht⟩ := exists_of_exec_any step (new 64 () : System reference) (burst 4000 33)
    (fun s => (32, .error (.socket .other .buffer_full)) ∈ s.stack.answers ∧
      (s.stack.udp_at 0).any reference.udp.can_send) (by decide +kernel)
  obtain ⟨failed, ht⟩ := of_decide_eq_true ht
  obtain ⟨u, slot, can_send⟩ := (Option.any_eq_true _ _).mp ht
  exact ⟨by decide +kernel, s, u, hs, slot, can_send, failed⟩

open Reference in
/-- The Send of a small datagram is as it should be when it is handled, and after that it is
answered with success. -/
theorem send_waits_fits :
    (∃ (s : System reference) (t : TcpStack reference) (u : Reference.Udp),
      s.next_event = some (.send ⟨0, 0⟩ (client_addr 1) 0 0) ∧
      s.stack.handle (.send ⟨0, 0⟩ (client_addr 1) 0 0) = .ok t ∧
      Waits payload_ring s.stack t u ⟨0, 0⟩ (client_addr 1) 0 0) ∧
    ∃ (s : System reference) (r : Record),
      r.calls[0]? = some (.send ⟨⟨0, 0⟩, server_addr 2⟩ ⟨[8], 1⟩ (client_addr 1)) ∧
      s.stack.answers.filter (·.1 = 0) = [(0, .ok (.len 1))] := by
  have waits := send_waits reference_spec reference_enqueues reference_rings reference_flushes 64 ()
  constructor
  · obtain ⟨s, hs, ht⟩ := exists_of_exec_any step (new 64 () : System reference)
      ((burst 1 1).dropLast)
      (fun s => s.next_event = some (.send ⟨0, 0⟩ (client_addr 1) 0 0) ∧
        sendable (client_addr 1) (s.stack.memory 0).as_slice = true ∧
        s.SendsFit payload_ring 0 .event ∧ (s.stack.udp_at 0).isSome) (by decide +kernel)
    obtain ⟨next, sends, fit, slot⟩ := of_decide_eq_true ht
    obtain ⟨u, slot⟩ := Option.isSome_iff_exists.mp slot
    obtain ⟨t, ok, waits⟩ := waits.2.2.1 s (Run.of_exec hs) _ _ _ _ u next slot sends
    exact ⟨s, t, u, next, ok, waits.mpr fit⟩
  · obtain ⟨⟨s, r⟩, hs, ht⟩ := exists_of_execIf_any (recording step Record.note)
      ((new 64 (), .empty) : System reference × Record)
      (fun p a => p.1.SendsFit payload_ring 0 a ∧ p.1.KeepsRequest 0 a) (burst 1 1)
      (fun p => p.2.calls[0]? = some (.send ⟨⟨0, 0⟩, server_addr 2⟩ ⟨[8], 1⟩ (client_addr 1)) ∧
        .udp ⟨0, 0⟩ ∈ p.1.streams ∧ 0 ∈ p.1.stack.answers.map Prod.fst) (by decide +kernel)
    obtain ⟨call, held, answered⟩ := of_decide_eq_true ht
    have run : Run (recording step Record.note)
        (fun p a => p.1.SendsFit payload_ring 0 a ∧ p.1.KeepsRequest 0 a)
        ((new 64 (), .empty) : System reference × Record) (s, r) :=
      .of_execIf (fun _ _ h => of_decide_eq_true h) hs
    rcases waits.2.1 s r 0 _ _ _ run call (by decide) held with ⟨-, unanswered⟩ | ⟨-, sent⟩
    · exact absurd answered unanswered
    · exact ⟨s, r, call, sent⟩

end System

end L3Extract
