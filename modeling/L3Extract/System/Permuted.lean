import L3Extract.Stack.Order
import L3Extract.System.Packets

/-!
# Sockets do not interfere

A batch has events of many handles. `interleaving_unseen` says that it does not matter how the
events of different handles are interleaved: two orders of a batch in which every handle's events
come in the same order leave the same sockets with the same wakers, the same tables and buffers, and
for every request and every handle the same answers and messages in the same order (`Alike`). Either
both orders are handled or both panic.

Each handle is an observer of the stack (`projects`), so that this is an instance of
`Projects.foldlM_congr`. What remains is that the views through all handles make up the stack.
-/

namespace L3Extract

open OperationEvent Transition

variable {S : Smoltcp}

namespace TcpStack

/-- Two stacks have the same sockets, wakers, tables, and buffers. What was answered to each
request, and what was put into the event channel and the acceptors' channels about each handle, is
the same, in the same order. -/
structure Alike (t u : TcpStack S) : Prop where
  items : u.socket_set.val = t.socket_set.val
  gen : u.socket_set.gen = t.socket_set.gen
  socket_handles : u.socket_handles = t.socket_handles
  accepted_udp_sockets : u.accepted_udp_sockets = t.accepted_udp_sockets
  memory : u.memory = t.memory
  answers : ∀ tx, (u.answers.filter fun a => a.1 = tx) = t.answers.filter fun a => a.1 = tx
  events : ∀ k, u.operation_event.sent.filter (is_own k) = t.operation_event.sent.filter (is_own k)
  tcp_infos : ∀ k,
    (u.tcp_stream.sent.filter fun info => (TypedSocketHandle.tcp info.handle).key = k) =
      t.tcp_stream.sent.filter fun info => (TypedSocketHandle.tcp info.handle).key = k
  udp_infos : ∀ k,
    (u.udp_stream.sent.filter fun info => (TypedSocketHandle.udp info.handle).key = k) =
      t.udp_stream.sent.filter fun info => (TypedSocketHandle.udp info.handle).key = k

/-! ## The views through all handles -/

/-- The result channels that no request of another handle uses. -/
def apart_channels (t : TcpStack S) (events : List OperationEvent) (k : Protocol × ℕ) :
    Set ResultTx :=
  {tx | ∀ e ∈ (↑events : Multiset OperationEvent) + t.parked, e.result_tx = some tx →
    e.handle.key = k}

/-- The buffers that no request of another handle uses. -/
def apart_buffers (t : TcpStack S) (events : List OperationEvent) (k : Protocol × ℕ) :
    Set BufferId :=
  {b | ∀ e ∈ (↑events : Multiset OperationEvent) + t.parked, e.buffer = some b → e.handle.key = k}

section Apart

variable {t : TcpStack S} {events : List OperationEvent} (apart : ∀ k, t.Apart events k)

include apart

/-- Requests with one result channel are for one handle. -/
theorem key_of_channel {e e' : OperationEvent} {tx : ResultTx}
    (he : e ∈ (↑events : Multiset OperationEvent) + t.parked)
    (he' : e' ∈ (↑events : Multiset OperationEvent) + t.parked)
    (h : e.result_tx = some tx) (h' : e'.result_tx = some tx) : e'.handle.key = e.handle.key := by
  by_contra hne
  exact (apart _ e he e' he' rfl hne).1 (by rw [h]; rfl) (h'.trans h.symm)

/-- Requests with one buffer are for one handle. -/
theorem key_of_buffer {e e' : OperationEvent} {b : BufferId}
    (he : e ∈ (↑events : Multiset OperationEvent) + t.parked)
    (he' : e' ∈ (↑events : Multiset OperationEvent) + t.parked)
    (h : e.buffer = some b) (h' : e'.buffer = some b) : e'.handle.key = e.handle.key := by
  by_contra hne
  exact (apart _ e he e' he' rfl hne).2 (by rw [h]; rfl) (h'.trans h.symm)

/-- An event keeps to the channels and buffers of its handle. -/
theorem separate_apart (k : Protocol × ℕ) {e : OperationEvent}
    (he : e ∈ (↑events : Multiset OperationEvent) + t.parked) :
    Separate k (t.apart_channels events k) (t.apart_buffers events k) e where
  result_tx _ htx :=
    ⟨fun h => h e he htx, fun hk _ he' htx' => (key_of_channel apart he he' htx htx').trans hk⟩
  buffer _ hb :=
    ⟨fun h => h e he hb, fun hk _ he' hb' => (key_of_buffer apart he he' hb hb').trans hk⟩

/-- Every result channel belongs to the view through some handle. -/
theorem exists_apart_channels (tx : ResultTx) : ∃ k, tx ∈ t.apart_channels events k := by
  by_cases h : ∃ e ∈ (↑events : Multiset OperationEvent) + t.parked, e.result_tx = some tx
  · obtain ⟨e, he, htx⟩ := h
    exact ⟨e.handle.key, fun e' he' htx' => key_of_channel apart he he' htx htx'⟩
  · exact ⟨(.tcp, 0), fun e he htx => absurd ⟨e, he, htx⟩ h⟩

/-- Every buffer belongs to the view through some handle. -/
theorem exists_apart_buffers (b : BufferId) : ∃ k, b ∈ t.apart_buffers events k := by
  by_cases h : ∃ e ∈ (↑events : Multiset OperationEvent) + t.parked, e.buffer = some b
  · obtain ⟨e, he, hb⟩ := h
    exact ⟨e.handle.key, fun e' he' hb' => key_of_buffer apart he he' hb hb'⟩
  · exact ⟨(.tcp, 0), fun e he hb => absurd ⟨e, he, hb⟩ h⟩

end Apart

/-- A slot without a kind is free. -/
theorem val_of_kind_none {t : TcpStack S} {i : ℕ} (h : t.kind_at i = none) :
    t.socket_set.val i = none := by
  simpa [kind_at, socket_at] using h

/-- Handlers keep the generations of the slots that they do not clear. -/
theorem gen_in_order {t v : TcpStack S} {events : List OperationEvent}
    (ok : t.handle_in_order events = .ok v) (i : ℕ) :
    v.socket_set.gen i = if (v.socket_set.val i).isSome then t.socket_set.gen i else none := by
  have kept : v.socket_set.gen i = t.socket_set.gen i ∨ v.socket_set.gen i = none := by
    refine in_order_keeps (I := fun u => u.socket_set.gen i = t.socket_set.gen i ∨
      u.socket_set.gen i = none) (fun u e u' hu ok => ?_) (.inl rfl) ok
    rcases (handle_outcome ok).tables with same | ⟨h, -, removes⟩
    · rwa [same.gen]
    · rw [removes.gen]
      split_ifs
      · exact .inr rfl
      · exact hu
  rw [← Arena.gen_isSome]
  rcases kept with h | h
  · rw [h]
    cases t.socket_set.gen i <;> rfl
  · rw [h]
    rfl

/-- Stacks that look the same through every handle are alike. -/
theorem Alike.of_views {v v' : TcpStack S} {T : Protocol × ℕ → Set ResultTx}
    {B : Protocol × ℕ → Set BufferId} (channels : ∀ tx, ∃ k, tx ∈ T k)
    (buffers : ∀ b, ∃ k, b ∈ B k) (tables : v.Tables) (tables' : v'.Tables) (accepted : v.Accepted)
    (accepted' : v'.Accepted) (gen : v'.socket_set.val = v.socket_set.val →
      v'.socket_set.gen = v.socket_set.gen)
    (same : ∀ k, SameTraffic k (T k) (B k) v v') : Alike v v' := by
  have items : v'.socket_set.val = v.socket_set.val := by
    funext i
    cases hk : v.kind_at i with
    | some p => exact (same (p, i)).item ((tables p i).mpr hk)
    | none =>
      rw [val_of_kind_none hk]
      refine val_of_kind_none ?_
      cases hk' : v'.kind_at i with
      | none => rfl
      | some p =>
        -- A socket that only one stack has would have its handle in one table only.
        have := (tables p i).mp ((same (p, i)).found.mp ((tables' p i).mpr hk'))
        rw [hk] at this
        cases this
  have addrs : v'.udp_addr = v.udp_addr := by
    funext i
    rw [udp_addr, udp_addr, socket_at, socket_at, items]
  exact {
    items
    gen := gen items
    socket_handles := Finset.ext fun k => (same k).found
    accepted_udp_sockets := Finset.ext fun addr => by
      rw [accepted.indexes.mem_iff, accepted'.indexes.mem_iff, addrs]
    memory := funext fun b => by
      obtain ⟨k, hk⟩ := buffers b
      exact (same k).memory b hk
    answers := fun tx => by
      obtain ⟨k, hk⟩ := channels tx
      exact (same k).answers tx hk
    events := fun k => (same k).events
    tcp_infos := fun k => (same k).tcp_infos
    udp_infos := fun k => (same k).udp_infos }

/-- The events that are in two batches with the same events of every handle are the same. -/
theorem mem_iff_of_own {events events' : List OperationEvent}
    (order : ∀ k, events'.filter (is_own k) = events.filter (is_own k)) (e : OperationEvent) :
    e ∈ events' ↔ e ∈ events := by
  have own : is_own e.handle.key e = true := decide_eq_true rfl
  have mem : ∀ l : List OperationEvent, e ∈ l ↔ e ∈ l.filter (is_own e.handle.key) :=
    fun l => by rw [List.mem_filter, and_iff_left own]
  rw [mem, order, ← mem]

/-- How a batch interleaves the events of different handles does not matter. -/
theorem handle_events_permuted (spec : S.Spec) {t v : TcpStack S}
    {events events' : List OperationEvent}
    (tables : t.Tables) (placed : t.Placed) (accepted : t.Accepted)
    (apart : ∀ k, t.Apart events k)
    (order : ∀ k, events'.filter (is_own k) = events.filter (is_own k))
    (ok : t.handle_events events = .ok v) : ∃ v', t.handle_events events' = .ok v' ∧
      Alike v v' := by
  rw [handle_events_eq] at ok ⊢
  have settled : ∀ k, Settled k (t.apart_channels events k) (t.apart_buffers events k) t := fun k =>
    ⟨tables, placed, fun i side e he =>
      separate_apart apart k (Multiset.mem_add.mpr (.inr (mem_parked_of_waker he)))⟩
  have known : ∀ l : List OperationEvent, (∀ e ∈ l, e ∈ events) →
      ∀ k, ∀ e ∈ passes l, Separate k (t.apart_channels events k) (t.apart_buffers events k) e :=
    fun l hl k e he => separate_apart apart k
      (Multiset.mem_add.mpr (.inl (hl e ((passes_perm l).mem_iff.mp he))))
  -- Through each handle, either order looks like the handle's own events alone.
  obtain ⟨v', ok', views⟩ := Projects.foldlM_congr
    (fun k => projects (S := S) k (t.apart_channels events k) (t.apart_buffers events k))
    (fun h => ⟨h.2.1, h.1, h.2.2.symm⟩) (fun e => ⟨e.handle.key, decide_eq_true rfl⟩)
    (known events fun e he => he) (known events' fun e he => (mem_iff_of_own order e).mp he)
    (fun k => by rw [passes_own, passes_own, order k])
    (fun k => ⟨settled k, settled k, .refl t⟩) ok
  have keeps : ∀ {l : List OperationEvent} {u}, t.handle_in_order l = .ok u → u.Accepted :=
    in_order_keeps (fun u e u' hu ok => (handle_outcome ok).accepted spec hu) accepted
  refine ⟨v', ok', .of_views (exists_apart_channels apart) (exists_apart_buffers apart)
    (tables_in_order tables ok) (tables_in_order tables ok') (keeps ok) (keeps ok') ?_ fun k => ?_⟩
  · intro items
    funext i
    rw [gen_in_order ok, gen_in_order ok', items]
  · obtain ⟨w, ⟨-, -, same⟩, -, -, same'⟩ := views k
    exact same.trans same'.symm

/-! ## Events that are sent again -/

/-- What is put into the event channel was pending before. -/
theorem requeued_of {t t' : TcpStack S} {resent : List OperationEvent}
    {new : Multiset OperationEvent}
    (channel : t'.operation_event = t.operation_event.extend resent)
    (pending : t'.pending ≤ new + t.pending) : ↑resent + t'.parked ≤ new + t.parked := by
  rw [TcpStack.pending, TcpStack.pending, channel, Channel.extend, ← Multiset.coe_add] at pending
  refine le_of_add_le_add_left (a := (↑t.operation_event.queue : Multiset OperationEvent)) ?_
  calc ↑t.operation_event.queue + (↑resent + t'.parked)
      = ↑t.operation_event.queue + ↑resent + t'.parked := by abel
    _ ≤ new + (↑t.operation_event.queue + t.parked) := pending
    _ = _ := by abel

/-- Handling events puts events into the channel that were parked, or were among them. -/
theorem requeued_in_order {t v : TcpStack S} {events : List OperationEvent}
    (ok : t.handle_in_order events = .ok v) :
    ∃ resent, v.operation_event = t.operation_event.extend resent ∧
      ↑resent + v.parked ≤ ↑events + t.parked := by
  induction events generalizing t with
  | nil =>
    cases ok
    exact ⟨[], (Channel.extend_nil _).symm, by simp⟩
  | cons e events ih =>
    obtain ⟨u, hu, ok⟩ := except_bind_eq_ok.mp ok
    have outcome := handle_outcome hu
    obtain ⟨resent, channel, -⟩ := outcome.speaks.resent
    have first := requeued_of channel outcome.pending_le
    obtain ⟨resent', channel', rest⟩ := ih ok
    refine ⟨resent ++ resent', by rw [channel', channel, Channel.extend_append], ?_⟩
    rw [← Multiset.coe_add, ← Multiset.cons_coe, ← Multiset.singleton_add]
    calc ↑resent + ↑resent' + v.parked = ↑resent + (↑resent' + v.parked) := by abel
      _ ≤ ↑resent + (↑events + u.parked) := by gcongr
      _ = ↑events + (↑resent + u.parked) := by abel
      _ ≤ ↑events + ({e} + t.parked) := by gcongr
      _ = _ := by abel

/-- Before the events are handled, parked events and the Ready of a new socket are put into the
channel. -/
theorem Begins.requeued {t t' : TcpStack S} {packet : Option Packet} {now : ℕ}
    {res : Except DriveError Unit} (begins : Begins t packet now t' res) :
    ∃ resent new, t'.operation_event = t.operation_event.extend resent ∧
      (∀ e ∈ new, ∃ h, e = .ready h) ∧ ↑resent + t'.parked ≤ new + t.parked := by
  cases begins with
  | failed arrived fails => exact ⟨[], 0, (Channel.extend_nil _).symm, by simp, by simp⟩
  | unready arrived opens adds =>
    obtain ⟨resent, channel⟩ := adds.channel
    exact ⟨resent, 0, channel, by simp, requeued_of channel adds.pending.le⟩
  | polled quiet =>
    obtain ⟨resent, channel⟩ := (wakes_poll (t.push packet) now).channel
    refine ⟨resent, 0, channel, by simp, requeued_of channel ?_⟩
    rw [zero_add]
    exact pending_poll_le (t.push packet) now
  | @opened p h s accepted u arrived opens adds =>
    obtain ⟨resent, channel⟩ := adds.channel
    obtain ⟨resent', channel'⟩ := (wakes_poll (u.push packet) now).channel
    have channel'' : ((u.push packet).poll now).operation_event =
        t.operation_event.extend (resent ++ resent') := by
      rw [Channel.extend_append, ← channel]
      exact channel'
    refine ⟨_, {.ready h}, channel'', fun e he => ⟨h, Multiset.mem_singleton.mp he⟩,
      requeued_of channel'' ?_⟩
    rw [← adds.pending]
    exact pending_poll_le (u.push packet) now

end TcpStack

open TcpStack

namespace System

/-- In every reachable state and for every batch that the caller holds, a batch with the same events
in another order, in which the events of each handle come in the same order, is handled too, and
leaves the sockets, their wakers, the tables, and the buffers as the batch does. Every request gets
the same answers, and for every handle the same messages go to the event channel and to the
acceptors, in the same order. The requests that are sent again, and those that are parked in the
end, are requests of the batch and requests that were parked, each at most as often: nothing in them
is changed. -/
theorem interleaving_unseen (spec : S.Spec) {size : ℕ} {interface : S.Interface} {s : System S}
    {t v : TcpStack S} {packet : Option Packet} {now : ℕ} {batch : Option ℕ}
    {events events' : List OperationEvent} {batches : List (List OperationEvent)}
    (run : Reachable step (new size interface) s) (rest : s.driving = none)
    (took : s.take_batch batch = some (events, batches))
    (order : ∀ k, events'.filter (is_own k) = events.filter (is_own k))
    (begins : s.stack.begin_drive packet now = .ok (t, .ok ()))
    (ok : t.handle_events events = .ok v) :
    (∃ v', t.handle_events events' = .ok v' ∧ Alike v v') ∧
    ∃ resent, v.operation_event = s.stack.operation_event.extend resent ∧
      ((↑resent + v.parked).filter fun e => e.result_tx.isSome) ≤ ↑events + s.stack.parked := by
  -- The call begins with a step of the system.
  have begun : s.step (.start packet now batch) =
      some { s with stack := t, batches, driving := some (passes events) } := by
    simp only [step, rest, took, begins]
    rfl
  have run' := run.tail trivial begun
  have collected : ∀ e ∈ events,
      e ∈ pending { s with stack := t, batches, driving := some (passes events) } := by
    intro e he
    refine Multiset.mem_add.mpr (.inr (Multiset.mem_coe.mpr (List.mem_append.mpr (.inr ?_))))
    exact (passes_perm events).mem_iff.mpr he
  refine ⟨handle_events_permuted spec (sound_of_run run').tables (placed_of_run run')
    (accepted_of_run spec run') (apart_of_run run' collected) order ok, ?_⟩
  obtain ⟨resent, ready, channel, new, first⟩ := (begin_drive_cases begins).requeued
  rw [handle_events_eq] at ok
  obtain ⟨resent', channel', second⟩ := requeued_in_order ok
  have passed : (↑(passes events) : Multiset OperationEvent) = ↑events :=
    Multiset.coe_eq_coe.mpr (passes_perm events)
  refine ⟨resent ++ resent', by rw [channel', channel, Channel.extend_append], ?_⟩
  have bound : ↑(resent ++ resent') + v.parked ≤ ready + (↑events + s.stack.parked) :=
    calc ↑(resent ++ resent') + v.parked = ↑resent + (↑resent' + v.parked) := by
          rw [← Multiset.coe_add]
          abel
      _ ≤ ↑resent + (↑events + t.parked) := by
          rw [← passed]
          gcongr
      _ = ↑events + (↑resent + t.parked) := by abel
      _ ≤ ↑events + (ready + s.stack.parked) := by gcongr
      _ = _ := by abel
  -- A Ready is no request.
  have none : (ready.filter fun e => e.result_tx.isSome) = 0 := by
    refine Multiset.filter_eq_nil.mpr fun e he => ?_
    obtain ⟨h, rfl⟩ := new e he
    simp [result_tx]
  calc (↑(resent ++ resent') + v.parked).filter (fun e => e.result_tx.isSome)
      ≤ (ready + (↑events + s.stack.parked)).filter fun e => e.result_tx.isSome :=
        Multiset.filter_le_filter _ bound
    _ = (↑events + s.stack.parked).filter fun e => e.result_tx.isSome := by
        rw [Multiset.filter_add, none, zero_add]
    _ ≤ _ := Multiset.filter_le _ _

open Reference in
/-- Two UDP sockets that are both read from. -/
def two_recvs : List Action := [
  .start (some (udp_packet 1 2 [7])) 0 none, .finish, .start (some (udp_packet 1 3 [8])) 0 none,
  .finish, .generate, .start none 0 (some 0), .event, .event, .finish, .accept_udp, .accept_udp,
  .call (.recv ⟨⟨0, 0⟩, server_addr 2⟩ ⟨[0, 0], 0⟩),
  .call (.recv ⟨⟨1, 1⟩, server_addr 3⟩ ⟨[0, 0], 0⟩), .generate]

open Reference in
/-- The two requests are answered in the order of the batch, and otherwise alike. -/
theorem interleaving_unseen_two_recvs : ∃ (s : System reference) (v v' : TcpStack reference),
    exec step (new 64 ()) two_recvs = some s ∧
    (s.stack.poll 0).handle_events [.recv ⟨0, 0⟩ 0 0, .recv ⟨1, 1⟩ 1 1] = .ok v ∧
    (s.stack.poll 0).handle_events [.recv ⟨1, 1⟩ 1 1, .recv ⟨0, 0⟩ 0 0] = .ok v' ∧
    v.answers.map Prod.fst = [0, 1] ∧ Alike v v' := by
  obtain ⟨s, hs, ht⟩ := exists_of_exec_any step (new 64 () : System reference) two_recvs
    (fun s => s.driving = none ∧
      s.take_batch (some 0) = some ([.recv ⟨0, 0⟩ 0 0, .recv ⟨1, 1⟩ 1 1], []) ∧
      s.stack.poll_panics 0 = false ∧
      ((s.stack.poll 0).handle_events [.recv ⟨0, 0⟩ 0 0, .recv ⟨1, 1⟩ 1 1]).toOption.any fun v =>
        v.answers.map Prod.fst = [0, 1])
    (by decide +kernel)
  obtain ⟨rest, took, safe, hv⟩ := of_decide_eq_true ht
  obtain ⟨v, hv, answers⟩ := exists_of_toOption_any hv
  have order : ∀ k, [.recv ⟨1, 1⟩ 1 1, .recv ⟨0, 0⟩ 0 0].filter (is_own k) =
      [.recv ⟨0, 0⟩ 0 0, .recv ⟨1, 1⟩ 1 1].filter (is_own k) := fun k => by
    by_cases h : ((.udp, 0) : Protocol × ℕ) = k
    · subst h
      decide
    · have other : is_own k (.recv ⟨0, 0⟩ 0 0) = false := decide_eq_false h
      simp [List.filter_cons, other]
  have begins : s.stack.begin_drive none 0 = .ok (s.stack.poll 0, .ok ()) :=
    try_poll_eq_ok.mpr ⟨safe, rfl, rfl⟩
  obtain ⟨⟨v', hv', alike⟩, -⟩ :=
    interleaving_unseen reference_spec (Run.of_exec hs) rest took order begins hv
  exact ⟨s, v, v', hs, hv, hv', of_decide_eq_true answers, alike⟩

end System

end L3Extract
