import L3Extract.System.Packets
import L3Extract.System.Received

/-!
# The end of a stream

A Read that finds no data and a socket that may not receive is answered `Ok(0)`, the end of the
stream. The handler does not ask whether the peer's FIN was received: a connection that was reset
ends in the same way (`reset_reads_as_end`), and so does one whose data smoltcp discarded after
TIME-WAIT. A stale Read may look at the socket of another stream.

`end_of_stream` says that there are no other ways. In states other than CLOSED, a socket past its
handshake that may not receive has the FIN (`Opened`), and what it received was returned.
-/

namespace L3Extract

open OperationEvent Transition TcpStack Flow

variable {S : Smoltcp}

namespace System

/-! ## Sockets of users -/

/-- A socket comes to the channel of the acceptor by a Ready that finds that it may receive. -/
theorem tcp_info_of_step {s s' : System S} {a : Action} (h : s.step a = some s') {info : TcpInfo}
    (hi : info ∈ s'.stack.tcp_stream.queue) : info ∈ s.stack.tcp_stream.queue ∨
      ∃ c, s.next_event = some (.ready (.tcp info.handle)) ∧
        s.stack.tcp_at info.handle.index = some c ∧ S.tcp.may_recv c = true := by
  cases acceptor_step h with
  | handled e next ok =>
    cases (handle_outcome ok) with
    | delivered_tcp handle c remote local_ event socket may_recv remote_eq local_eq eq =>
      subst event
      by_cases old : info ∈ s.stack.tcp_stream.queue
      · exact .inl old
      · rw [eq] at hi
        obtain rfl : info = ⟨handle, remote.socket_addr, local_.socket_addr⟩ := by
          cases hc : s.stack.tcp_stream.connected <;> simp_all [Channel.send]
        exact .inr ⟨c, next, tcp_at_eq_some.mpr socket, may_recv⟩
    | answered tx a result_tx refuses eq => rw [eq] at hi; exact .inl hi
    | served tx a c c' memory result_tx found socket serves eq => rw [eq] at hi; exact .inl hi
    | parked side parks eq => rw [eq] at hi; exact .inl hi
    | shutdown handle tx c event found socket eq =>
      rw [eq, (wakes_close_tcp _ _ _).tcp_stream] at hi
      exact .inl hi
    | closing handle c event found socket active eq =>
      rw [eq] at hi
      exact .inl ((wakes_close_tcp s.stack _ c).tcp_stream ▸ hi)
    | removed h c c' accepted u event found socket closes wakes others woken eq =>
      rw [eq] at hi
      exact .inl (wakes.tcp_stream ▸ hi)
    | delivered_udp handle u ip event socket bound eq => rw [eq] at hi; exact .inl hi
    | ignored h event gone eq => rw [eq] at hi; exact .inl hi
  | accepted_tcp info rest queue eq => subst eq; exact .inl (List.mem_of_mem_tail hi)
  | accepted_udp info rest queue eq => subst eq; exact .inl hi
  | tcp_dropped action eq => subst eq; cases hi
  | udp_dropped action eq => subst eq; exact .inl hi
  | beside tcp udp => exact .inl (tcp ▸ hi)

/-- A stream comes from the channel of an acceptor. -/
theorem info_of_stream {s s' : System S} {a : Action} (effect : Effect s a s')
    {h : TypedSocketHandle} (held : h ∈ s'.streams) : h ∈ s.streams ∨ h ∈ s.infos := by
  cases effect with
  | kept same pending infos streams delivered hi => exact .inl (streams ▸ held)
  | admitted packet now batch h' socket accepted action opens admits pending infos streams =>
    exact .inl (streams ▸ held)
  | removed h' next removes pending infos streams => exact .inl (streams ▸ held)
  | delivered h' next same pending infos streams => exact .inl (streams ▸ held)
  | accepted h' same pending infos streams delivered hi =>
    have held : h ∈ ({h'} + ↑s.streams : Multiset TypedSocketHandle) := streams ▸ held
    rcases Multiset.mem_add.mp held with new | old
    · right
      have waits : h ∈ (↑s.infos : Multiset TypedSocketHandle) := by
        rw [infos]
        exact Multiset.mem_add.mpr (.inl new)
      exact waits
    · exact .inl old
  | requested c action holds same pending infos streams => exact .inl (streams ▸ held)
  | dropped h' same pending infos streams delivered hi =>
    left
    have was : h ∈ (↑s.streams : Multiset TypedSocketHandle) := by
      rw [streams]
      exact Multiset.mem_add.mpr (.inr held)
    exact was

/-- A request is made on a stream. -/
theorem stream_of_issued {s s' : System S} {a : Action} (effect : Effect s a s')
    {h : TypedSocketHandle} (hh : h ∈ s'.issued) : h ∈ s.issued ∨ h ∈ s.streams := by
  cases effect with
  | kept same pending infos streams delivered issued => exact .inl (issued ▸ hh)
  | admitted packet now batch h' socket accepted action opens admits pending infos streams
      delivered issued => exact .inl (issued ▸ hh)
  | removed h' next removes pending infos streams delivered issued => exact .inl (issued ▸ hh)
  | delivered h' next same pending infos streams delivered issued => exact .inl (issued ▸ hh)
  | accepted h' same pending infos streams delivered issued => exact .inl (issued ▸ hh)
  | requested c action held same pending infos streams delivered issued =>
    rw [issued] at hh
    rcases List.mem_append.mp hh with old | new
    · exact .inl old
    · rw [List.mem_singleton.mp new]
      exact .inr held
  | dropped h' same pending infos streams delivered issued => exact .inl (issued ▸ hh)

/-- The TCP sockets that wait for a user, that a user holds, and that requests were made on are past
their handshake. -/
def Opened (s : System S) : Prop :=
  ∀ h, (.tcp h ∈ s.infos ∨ .tcp h ∈ s.streams ∨ .tcp h ∈ s.issued) → Completed h s

/-- A stream that is held is past its handshake after every step. -/
theorem Opened.step (spec : S.Spec) {s s' : System S} {a : Action} (opened : Opened s)
    (sound : Sound s) (drained : s.stack.Drained) (h : s.step a = some s') : Opened s' := by
  have effect := effect_of_steps (steps_of_step h)
  have keep : ∀ {hd}, Completed hd s → Completed hd s' := fun completed =>
    completed.step spec drained h
  rintro hd (waits | stream | issued)
  · obtain ⟨info, hi, rfl⟩ : ∃ info ∈ s'.stack.tcp_stream.queue, info.handle = hd := by
      simpa [infos] using waits
    rcases tcp_info_of_step h hi with old | ⟨c, next, hc, may_recv⟩
    · refine keep (opened _ (.inl ?_))
      exact List.mem_append_left _ (List.mem_map.mpr ⟨info, old, rfl⟩)
    · have live := (sound.contains_of_next next rfl).1.1
      refine keep ⟨Arena.gen_lt_next live, fun _ c' hc' => ?_⟩
      obtain rfl := Option.some.inj (hc.symm.trans hc')
      -- Before the handshake is done, a socket has received nothing.
      rw [spec.may_recv] at may_recv
      have listen := spec.listen_queue c
      have syn_received := spec.syn_received_queue c
      cases hs : S.tcp.state c <;> simp_all [TcpState.opening, TcpState.receiving]
  · rcases info_of_stream effect stream with old | info
    · exact keep (opened hd (.inr (.inl old)))
    · exact keep (opened hd (.inl info))
  · rcases stream_of_issued effect issued with old | stream
    · exact keep (opened hd (.inr (.inr old)))
    · exact keep (opened hd (.inr (.inl stream)))

/-- In every run a stream that is held is past its handshake. -/
theorem opened_of_run (spec : S.Spec) {size : ℕ} {interface : S.Interface}
    {guard : System S → Action → Prop} {s : System S}
    (run : Run step guard (new size interface) s) : Opened s := by
  refine run.invariant (I := Opened) ?_ fun s a s' run _ h opened =>
    opened.step spec (sound_of_run run) (drained_of_run run) h
  simp [Opened, infos, streams, new, TcpStack.new, Channel.unbounded]

end System

/-! ## What was there to read -/

/-- The peer's FIN was received, and `got` has all bytes that came before it. -/
def Record.EndReached (r : Record) (h : SocketHandle) (got : Bytes) : Prop :=
  ∃ before ch after, r.changes h = before ++ ch :: after ∧ Buffers.finished ch.after = true ∧
    (before ++ [ch]).flatMap (Change.arrived Buffers.received) <+: got

/-- Where the end was reached the FIN was received. -/
theorem Record.EndReached.fin_received {r : Record} {h : SocketHandle} {got : Bytes}
    (reached : r.EndReached h got) : r.FinReceived h := by
  obtain ⟨before, ch, after, changes, fin, -⟩ := reached
  exact ⟨ch, by rw [changes]; simp, fin⟩

/-- An end that was reached stays so. -/
theorem Record.EndReached.note {r : Record} {h : SocketHandle} {got : Bytes}
    (reached : r.EndReached h got) (s : System S) (a : Action) (s' : System S) :
    (r.note s a s').EndReached h got := by
  obtain ⟨before, ch, after, changes, fin, le⟩ := reached
  obtain ⟨new, hn⟩ : ∃ new, (r.note s a s').changes h = r.changes h ++ new := ⟨_, rfl⟩
  exact ⟨before, ch, after ++ new, by rw [hn, changes, List.append_assoc]; rfl, fin, le⟩

namespace System

/-- When a socket has the FIN and nothing in its buffer, all that came was taken, unless smoltcp has
discarded some of it. -/
theorem Stored.end_reached {s : System S} {r : Record} (stored : Stored s r) {h : SocketHandle}
    {c : S.Tcp} (is : s.stack.IsTcp h c) (drained : S.tcp.rx_buffer c = [])
    (fin : r.FinReceived h) (keeps : ¬ r.Discarded h) :
    r.EndReached h (r.taken Buffers.received h) := by
  rcases stored.tcp h c is with ⟨-, conserved⟩ | ⟨discarded, -⟩
  · rw [drained] at conserved
    obtain ⟨ch, hch, finished⟩ := fin
    obtain ⟨before, after, changes⟩ := List.append_of_mem hch
    refine ⟨before, ch, after, changes, finished, ?_⟩
    have first : before ++ [ch] <+: r.changes h := ⟨after, by rw [changes, List.append_assoc]; rfl⟩
    rw [← conserved.drained]
    exact first.flatMap _
  · exact absurd discarded keeps

/-- A socket past its handshake that may not receive any more, and is not closed, has the FIN, and
smoltcp has discarded nothing. -/
theorem Stored.fin_received (spec : S.Spec) {s : System S} {r : Record} (stored : Stored s r)
    (passive : s.stack.Passive) {h : SocketHandle} {c : S.Tcp} (is : s.stack.IsTcp h c)
    (opening : (S.tcp.state c).opening = false) (shut : S.tcp.may_recv c = false)
    (notclosed : S.tcp.state c ≠ .closed) : r.FinReceived h ∧ ¬ r.Discarded h := by
  have receiving : (S.tcp.state c).receiving = false := by
    cases hr : (S.tcp.state c).receiving with
    | false => rfl
    | true => simp [(spec.may_recv c).mpr (.inl hr)] at shut
  have fin : (S.tcp.state c).fin_received = true := by
    have active := passive _ c is.2
    cases hs : S.tcp.state c <;>
      simp_all [TcpState.opening, TcpState.receiving, TcpState.fin_received]
  refine ⟨stored.fin h c is (spec.state_fin c fin), fun discarded => ?_⟩
  rcases stored.tcp h c is with ⟨keeps, -⟩ | ⟨-, closed, -⟩
  · exact keeps discarded
  · exact notclosed closed

/-! ## What `Ok(0)` says -/

/-- If the event is a Read that finds data or the end of a stream, this is the stream that it was
made on, and if it finds a closed socket without data, the peer's FIN was received and smoltcp has
discarded nothing. A Read into an empty buffer finds neither. -/
def FindsEnd (s : System S) (r : Record) : OperationEvent → Prop
  | .read h buffer _ =>
    s.stack.contains (.tcp h) = true → 0 < (s.stack.memory buffer).capacity →
      ∀ c ∈ s.stack.tcp_at h.index,
        (S.tcp.recv_queue c ≠ 0 ∨ S.tcp.may_recv c = false →
          s.stack.socket_set.gen h.index = some h.incarnation) ∧
        (S.tcp.recv_queue c = 0 → S.tcp.state c = .closed → r.FinReceived h ∧ ¬ r.Discarded h)
  | _ => True

instance (s : System S) (r : Record) (e : OperationEvent) : Decidable (s.FindsEnd r e) :=
  match e with
  | .read h buffer _ => inferInstanceAs (Decidable
      (s.stack.contains (.tcp h) = true → 0 < (s.stack.memory buffer).capacity →
        ∀ c ∈ s.stack.tcp_at h.index,
          (S.tcp.recv_queue c ≠ 0 ∨ S.tcp.may_recv c = false →
            s.stack.socket_set.gen h.index = some h.incarnation) ∧
          (S.tcp.recv_queue c = 0 → S.tcp.state c = .closed →
            r.FinReceived h ∧ ¬ r.Discarded h)))
  | .ready _ => instDecidableTrue
  | .write .. => instDecidableTrue
  | .recv .. => instDecidableTrue
  | .send .. => instDecidableTrue
  | .shutdown .. => instDecidableTrue
  | .close _ => instDecidableTrue

/-- No Read takes something else for the end of its stream. -/
def KeepsEnd (p : System S × Record) (a : Action) : Prop := ∀ e ∈ p.1.handles a, p.1.FindsEnd p.2 e

instance (p : System S × Record) (a : Action) : Decidable (KeepsEnd p a) :=
  inferInstanceAs (Decidable (∀ e ∈ p.1.handles a, p.1.FindsEnd p.2 e))

/-- Under the condition a Read that is served finds its own socket. -/
theorem KeepsEnd.own_read {s : System S} {r : Record} {a : Action} (guard : KeepsEnd (s, r) a) :
    s.OwnRead a := by
  intro handle buffer tx event found room c hc queued
  have ends : s.FindsEnd r (.read handle buffer tx) := guard _ event
  rw [FindsEnd] at ends
  exact (ends found room c hc).1 (.inl queued)

/-- A read that is answered `Ok(0)`, though there is room in its buffer, has found the end of its
stream: the FIN was received, and the reads that were answered before have returned every byte that
came before it. -/
def Ended (s : System S) (r : Record) : Prop :=
  ∀ (before after : List (ResultTx × Answer)) (id : ℕ) stream buf,
    s.stack.answers = before ++ (id, .ok (.len 0)) :: after →
    r.calls[id]? = some (.read stream buf) → 0 < buf.capacity →
    r.EndReached stream.handle (before.flatMap (s.gives r stream.handle))

/-- An element of two lists, one behind the other, is in one of them. -/
theorem split_of_append {α : Type} {old new before after : List α} {x : α}
    (h : old ++ new = before ++ x :: after) :
    (∃ mid, old = before ++ x :: mid) ∨ ∃ mid, before = old ++ mid ∧ new = mid ++ x :: after := by
  rcases List.append_eq_append_iff.mp h with ⟨mid, hb, hn⟩ | ⟨mid, ho, hx⟩
  · exact .inr ⟨mid, hb, hn⟩
  · cases mid with
    | nil => exact .inr ⟨[], by simpa using ho.symm, by simpa using hx.symm⟩
    | cons y mid =>
      obtain ⟨rfl, -⟩ := List.cons.inj hx
      exact .inl ⟨mid, ho⟩

/-- A Read that finds the end of its stream, when no data is left. -/
theorem end_reached_of_read (spec : S.Spec) {s : System S} {r : Record} (stored : Stored s r)
    (returned : Returned s r) (opened : Opened s) (issued : Issued s) (passive : s.stack.Passive)
    {handle : SocketHandle} {buffer : BufferId} {tx : ResultTx} {c : S.Tcp}
    (pending : .read handle buffer tx ∈ s.pending)
    (ends : s.FindsEnd r (.read handle buffer tx)) (found : s.stack.contains (.tcp handle) = true)
    (room : 0 < (s.stack.memory buffer).capacity)
    (socket : s.stack.socket_at handle.index = some (.tcp c)) (drained : S.tcp.recv_queue c = 0)
    (shut : S.tcp.may_recv c = false) : r.EndReached handle (s.returned r handle) := by
  have hc : s.stack.tcp_at handle.index = some c := tcp_at_eq_some.mpr socket
  rw [FindsEnd] at ends
  obtain ⟨own, closed⟩ := ends found room c hc
  have is : s.stack.IsTcp handle c := ⟨own (.inr shut), hc⟩
  have hissued : .tcp handle ∈ s.issued :=
    List.mem_of_getElem? (issued.handle _ pending tx rfl)
  have opening := (opened handle (.inr (.inr hissued))).opening is.1 c hc
  have fin : r.FinReceived handle ∧ ¬ r.Discarded handle := by
    by_cases state : S.tcp.state c = .closed
    · exact closed drained state
    · exact stored.fin_received spec passive is opening shut state
  rw [spec.recv_queue] at drained
  rw [returned handle]
  exact stored.end_reached is (List.length_eq_zero_iff.mp drained) fin.1 fin.2

/-- A Read that finds data returns some of it, when there is room in its buffer. -/
theorem read_answer_ne_end (spec : S.Spec) {c : S.Tcp} {len : ℕ}
    (queued : S.tcp.recv_queue c ≠ 0) (room : 0 < len) :
    read_answer (S.tcp.recv_slice c len).2 ≠ .ok (.len 0) := by
  rw [spec.recv_queue] at queued
  have receives := spec.recv_slice_buffers c len
  cases hres : (S.tcp.recv_slice c len).2 with
  | ok data =>
    intro h
    have hdata : data.length = 0 := by simpa [read_answer] using h
    rw [(receives.ok data hres).1, List.length_take] at hdata
    omega
  | error err =>
    rw [(receives.error err hres).1] at queued
    exact absurd rfl queued

/-- A step tells a reader of the end only when it is reached. -/
theorem Ended.step (spec : S.Spec) {s s' : System S} {a : Action} {r : Record} (ended : Ended s r)
    (faithful : Faithful s r) (stored : Stored s r) (returned : Returned s r) (opened : Opened s)
    (issued : Issued s) (passive : s.stack.Passive) (guard : KeepsEnd (s, r) a)
    (h : s.step a = some s') : Ended s' (r.note s a s') := by
  intro before after id stream buf split call room
  -- A read that was answered before the step.
  have old : (∃ mid, s.stack.answers = before ++ (id, .ok (.len 0)) :: mid) →
      (r.note s a s').EndReached stream.handle
        (before.flatMap (s'.gives (r.note s a s') stream.handle)) := by
    rintro ⟨mid, answers⟩
    have mem : ∀ {ans}, ans ∈ before ++ [(id, .ok (.len 0))] → ans ∈ s.stack.answers := by
      intro ans ha
      rw [answers, List.append_cons]
      exact List.mem_append_left _ ha
    obtain ⟨c, hc, -⟩ := faithful.answered id (.ok (.len 0)) (mem (by simp))
    obtain rfl : c = .read stream buf := Option.some.inj ((call_note hc s a s').symm.trans call)
    have same : before.flatMap (s'.gives (r.note s a s') stream.handle) =
        before.flatMap (s.gives r stream.handle) := List.flatMap_congr fun ans ha =>
      faithful.gives_step spec h (mem (List.mem_append_left _ ha)) _
    rw [same]
    exact (ended before mid id stream buf answers hc room).note s a s'
  -- Requests that are declined are not answered `Ok(0)`.
  have silent : ∀ {pool}, Silent s.stack pool s'.stack → (∀ e ∈ pool, e ∈ s.pending) →
      ∃ mid, s.stack.answers = before ++ (id, .ok (.len 0)) :: mid := by
    intro pool silent hpool
    obtain ⟨new, answers, declines⟩ := silent.answers
    rw [answers] at split
    rcases split_of_append split with old | ⟨mid, -, hnew⟩
    · exact old
    · obtain ⟨e, he, hdec⟩ := declines (id, .ok (.len 0)) (by rw [hnew]; simp)
      obtain ⟨c, hc, rfl⟩ := faithful.tracked.event e (hpool e he) id hdec.1
      obtain rfl : c = .read stream buf := Option.some.inj ((call_note hc s a s').symm.trans call)
      exact absurd hdec (not_declines_ok rfl)
  cases traffic_of_step spec h with
  | silent quiet cause issues issued => exact old (silent quiet mem_pending_of_stack)
  | called c cause issues connected eq =>
    subst eq
    exact old ⟨after, split⟩
  | handled e action next dealt cause issues hissued =>
    have pending := mem_pending_of_next next
    cases dealt with
    | silent quiet buffers =>
      exact old (silent quiet (mem_pending_of_handled next))
    | eof handle buffer tx c event found socket drained shut eq =>
      subst event
      have answers : s'.stack.answers = s.stack.answers ++ [(tx, .ok (.len 0))] := by rw [eq]; rfl
      rw [answers] at split
      rcases split_of_append split with before' | ⟨mid, rfl, hnew⟩
      · exact old before'
      · -- The Read that is handled is answered.
        obtain ⟨rfl, hx⟩ : mid = [] ∧ (tx, .ok (.len 0)) = (id, (.ok (.len 0) : Answer)) := by
          cases mid <;> simp_all
        obtain rfl : tx = id := (Prod.mk.inj hx).1
        obtain ⟨c', hc', event, -, own⟩ := faithful.pending pending rfl
        obtain rfl : c' = .read stream buf :=
          Option.some.inj ((call_note hc' s a s').symm.trans call)
        obtain ⟨rfl, rfl, -⟩ := OperationEvent.read.inj event
        have own : s.stack.memory buffer = buf := own
        have reached := end_reached_of_read spec stored returned opened issued passive pending
          (guard _ (by rw [action]; exact next)) found (by rwa [own]) socket drained shut
        have same : s.stack.answers.flatMap (s'.gives (r.note s a s') stream.handle) =
            s.returned r stream.handle :=
          List.flatMap_congr fun ans ha => faithful.gives_step spec h ha _
        rw [List.append_nil, same]
        exact reached.note s a s'
    | served tx ans s₀ s₁ memory result_tx found socket serves eq =>
      have answers : s'.stack.answers = s.stack.answers ++ [(tx, ans)] := by rw [eq]; rfl
      rw [answers] at split
      rcases split_of_append split with before' | ⟨mid, rfl, hnew⟩
      · exact old before'
      · -- A Read that is served returns data.
        obtain ⟨rfl, hx⟩ : mid = [] ∧ (tx, ans) = (id, (.ok (.len 0) : Answer)) := by
          cases mid <;> simp_all
        obtain ⟨rfl, rfl⟩ := Prod.mk.inj hx
        obtain ⟨c', hc', rfl, -, own⟩ := faithful.pending pending result_tx
        obtain rfl : c' = .read stream buf :=
          Option.some.inj ((call_note hc' s a s').symm.trans call)
        have own : s.stack.memory tx = buf := own
        generalize hans : (.ok (.len 0) : Answer) = ans at serves
        cases serves with
        | read queued => exact absurd hans.symm (read_answer_ne_end spec queued (by rwa [own]))

/-- In every run under the condition a reader is told of the end only when it is reached. -/
theorem ended_of_run (spec : S.Spec) {size : ℕ} {interface : S.Interface} {s : System S}
    {r : Record}
    (run : Run (recording step Record.note) KeepsEnd (new size interface, .empty) (s, r)) :
    Returned s r ∧ Ended s r := by
  refine run.invariant (I := fun p => Returned p.1 p.2 ∧ Ended p.1 p.2) ⟨fun h => rfl, ?_⟩ ?_
  · intro before after id stream buf split
    exact absurd split (by simp [new, TcpStack.new])
  · rintro ⟨s, r⟩ a q run guard h ⟨returned, ended⟩
    obtain ⟨step, note⟩ := recording_eq_some.mp h
    rw [note]
    have faithful := faithful_of_run spec run
    have reached := run.of_recording
    have returned' := returned_step spec faithful step (fun _ _ _ => guard.own_read)
      (returned_iff.mp returned)
    exact ⟨returned_iff.mpr returned',
      ended.step spec faithful (stored_of_run spec run) returned (opened_of_run spec reached)
        (issued_of_run reached) (passive_of_run spec reached) guard step⟩

/-- In every run in which each Read that is handled finds its own stream, and finds it closed and
without data only after the peer's FIN, with nothing discarded, a read with room in its buffer is
answered `Ok(0)` only when the FIN was received and the reads before it have returned every byte
that came before it. -/
theorem end_of_stream (spec : S.Spec) {size : ℕ} {interface : S.Interface} {s : System S}
    {r : Record}
    (run : Run (recording step Record.note) KeepsEnd (new size interface, .empty) (s, r))
    (before after : List (ResultTx × Answer)) (id : ℕ) (stream : TcpInfo) (buf : IoBuf)
    (answers : s.stack.answers = before ++ (id, .ok (.len 0)) :: after)
    (call : r.calls[id]? = some (.read stream buf)) (room : 0 < buf.capacity) :
    r.EndReached stream.handle (before.flatMap (s.gives r stream.handle)) :=
  (ended_of_run spec run).2 before after id stream buf answers call room

open Reference in
/-- A client resets its connection before it sends anything, and then the stream is read. -/
def reset_before_read : List Action := [
  .start (some (syn 1 2)) 0 none, .finish, .start (some (ack 1 2 [])) 0 none, .finish,
  .generate, .start none 0 (some 0), .event, .finish, .accept_tcp,
  .start (some (rst 1 2)) 0 none, .finish,
  .call (.read ⟨⟨0, 0⟩, client_addr 1, server_addr 2⟩ ⟨[1, 2], 0⟩), .generate,
  .start none 0 (some 0), .event, .finish]

open Reference in
/-- The read is told that the stream has ended. -/
theorem reset_reads_as_end : ∃ (s : System reference) (r : Record),
    exec (recording step Record.note) (new 64 (), .empty) reset_before_read = some (s, r) ∧
    r.calls[0]? = some (.read ⟨⟨0, 0⟩, client_addr 1, server_addr 2⟩ ⟨[1, 2], 0⟩) ∧
    s.stack.answers = [(0, .ok (.len 0))] ∧
    (s.stack.tcp_at 0).map reference.tcp.state = some .closed ∧ ¬ r.FinReceived ⟨0, 0⟩ ∧
    ¬ r.EndReached ⟨0, 0⟩ [] := by
  obtain ⟨⟨s, r⟩, hs, ht⟩ := exists_of_exec_any (recording step Record.note)
    ((new 64 () : System reference), Record.empty) reset_before_read
    (fun p => p.2.calls[0]? =
        some (.read ⟨⟨0, 0⟩, client_addr 1, server_addr 2⟩ ⟨[1, 2], 0⟩) ∧
      p.1.stack.answers = [(0, .ok (.len 0))] ∧
      (p.1.stack.tcp_at 0).map reference.tcp.state = some .closed ∧ ¬ p.2.FinReceived ⟨0, 0⟩)
    (by decide +kernel)
  obtain ⟨call, answers, state, fin⟩ := of_decide_eq_true ht
  exact ⟨s, r, hs, call, answers, state, fin, fun reached => fin reached.fin_received⟩

open Reference in
/-- A client sends a byte and closes its connection, and the stream is read to its end. -/
def passive_close : List Action := [
  .start (some (syn 1 2)) 0 none, .finish, .start (some (ack 1 2 [7])) 0 none, .finish,
  .generate, .start none 0 (some 0), .event, .finish, .accept_tcp,
  .call (.read ⟨⟨0, 0⟩, client_addr 1, server_addr 2⟩ ⟨[1, 2], 0⟩), .generate,
  .start none 0 (some 0), .event, .finish, .return_ 0, .start (some (fin 1 2)) 0 none, .finish,
  .call (.read ⟨⟨0, 0⟩, client_addr 1, server_addr 2⟩ ⟨[1, 2], 0⟩), .generate,
  .start none 0 (some 0), .event, .finish]

open Reference in
/-- The second read finds the end, and the first has returned the byte. -/
theorem end_of_stream_passive_close : ∃ (s : System reference) (r : Record),
    Run (recording step Record.note) KeepsEnd (new 64 (), .empty) (s, r) ∧
    s.stack.answers = [(0, .ok (.len 1)), (1, .ok (.len 0))] ∧
    r.EndReached ⟨0, 0⟩ ([(0, .ok (.len 1))].flatMap (s.gives r ⟨0, 0⟩)) := by
  obtain ⟨⟨s, r⟩, hs, ht⟩ := exists_of_execIf_any (recording step Record.note)
    ((new 64 () : System reference), Record.empty) (fun p a => decide (KeepsEnd p a)) passive_close
    (fun p => p.2.calls[1]? =
        some (.read ⟨⟨0, 0⟩, client_addr 1, server_addr 2⟩ ⟨[1, 2], 0⟩) ∧
      p.1.stack.answers = [(0, .ok (.len 1)), (1, .ok (.len 0))])
    (by decide +kernel)
  obtain ⟨call, answers⟩ := of_decide_eq_true ht
  have run : Run (recording step Record.note) KeepsEnd (new 64 (), .empty) (s, r) :=
    Run.of_execIf (fun _ _ => of_decide_eq_true) hs
  exact ⟨s, r, run, answers, end_of_stream reference_spec run _ [] 1 _ _ answers call (by decide)⟩

end System

end L3Extract
