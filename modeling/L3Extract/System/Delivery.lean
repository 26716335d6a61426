import L3Extract.System.Received

/-!
# Who gets what was received

A Read or a Recv takes data out of its socket's buffer and then sends it on its result channel,
whether or not somebody still waits there: nothing tells the stack that a future was dropped, and a
failed send is ignored. So the bytes that such a request takes are gone for the next one
(`taken_for_nobody`).

The callers that wait get everything. A request whose future is still there when it is handled finds
its own socket, as the future's stream is not dropped before (`Held`), and takes from it what its
caller gets. So what is taken for nobody was taken by requests that were abandoned by then, and the
record knows them. `received_for_somebody` puts together where everything that was received went.

When no future of a `read` or `recv` is dropped (`KeepsReads`), the reads of each stream have
returned all that was taken from its socket (`Delivering`).
-/

namespace L3Extract

open OperationEvent Transition TcpStack Flow

variable {S : Smoltcp}

/-- The event takes what a socket has received: it is a Read or a Recv. -/
def OperationEvent.receives : OperationEvent → Bool
  | read .. => true
  | recv .. => true
  | _ => false

/-- The call is one of `read` or `recv`. -/
def Call.receives : Call → Bool
  | read .. => true
  | recv .. => true
  | _ => false

/-- The event of a call receives if the call does. -/
theorem Call.event_receives (c : Call) (id : ℕ) : (c.event id).receives = c.receives := by
  cases c <;> rfl

namespace System

/-! ## The callers -/

/-- A call that has not returned is for a stream or socket that the user holds: it borrows it. -/
def Held (s : System S) : Prop := ∀ f ∈ s.futures, f.handle ∈ s.streams

/-- A step keeps the stream of a future that waits. -/
theorem Held.step {s s' : System S} {a : Action} (held : Held s) (h : s.step a = some s') :
    Held s' := by
  intro f hf
  cases stream_step h with
  | kept streams futures =>
    rcases futures f hf with old | new
    · exact streams (held f old)
    · exact streams new
  | dropped h idle others futures batches stack =>
    -- A stream that is dropped has no call running.
    rw [futures] at hf
    exact others f.handle (by simpa using List.all_eq_true.mp idle f hf) (held f hf)

/-- Futures go by returning or by being dropped. -/
theorem futures_of_step {s s' : System S} {a : Action} (h : s.step a = some s') :
    s.futures ⊆ s'.futures ∨ ∃ rx, s' = { s with futures := s.futures.filter fun f => f.rx ≠ rx } ∧
      (rx ∈ s.stack.answers.map Prod.fst ∨ rx ∉ s.pending.filterMap result_tx ∨
        a = .drop_future rx) := by
  have same : s'.futures = s.futures → s.futures ⊆ s'.futures := fun heq => heq ▸ List.Subset.refl _
  cases steps_of_step h with
  | returned futures action sub eq =>
    right
    rcases action with ⟨rx, rfl⟩ | ⟨rx, rfl⟩
    · simp only [System.step] at h
      split_ifs at h with returns
      exact ⟨rx, (Option.some.inj h).symm, returns.2.imp id .inl⟩
    · simp only [System.step] at h
      split_ifs at h
      exact ⟨rx, (Option.some.inj h).symm, .inr (.inr rfl)⟩
  | called c action holds connected eq =>
    subst eq
    exact .inl (List.subset_append_left _ _)
  | started packet now batch events batches stack res action rest took ok eq =>
    exact .inl (same (eq ▸ rfl))
  | handled e events stack action driving ok eq => exact .inl (same (eq ▸ rfl))
  | finished action driving eq => exact .inl (same (eq ▸ rfl))
  | generated action connected eq => exact .inl (same (eq ▸ rfl))
  | batch_dropped i action eq => exact .inl (same (eq ▸ rfl))
  | generator_dropped action eq => exact .inl (same (eq ▸ rfl))
  | accepted_tcp info rest action queue eq => exact .inl (same (eq ▸ rfl))
  | accepted_udp info rest action queue eq => exact .inl (same (eq ▸ rfl))
  | tcp_acceptor_dropped action eq => exact .inl (same (eq ▸ rfl))
  | udp_acceptor_dropped action eq => exact .inl (same (eq ▸ rfl))
  | refused c action connected eq => exact .inl (same (eq ▸ rfl))
  | tcp_stream_dropped stream action holds idle eq => exact .inl (same (eq ▸ rfl))
  | udp_socket_dropped socket action holds idle eq => exact .inl (same (eq ▸ rfl))

/-- The future of a request that is pending stays, unless it is dropped. -/
theorem future_of_step (spec : S.Spec) {s s' : System S} {a : Action} {r : Record}
    (tracked : Tracked s r) (h : s.step a = some s') {e : OperationEvent} (he : e ∈ s'.pending)
    {id : ℕ} (hid : e.result_tx = some id) (kept : a ≠ .drop_future id)
    (waits : e ∈ s.pending → ⟨e.handle, id⟩ ∈ s.futures) : ⟨e.handle, id⟩ ∈ s'.futures := by
  -- A request that was pending before.
  have old : e ∈ s.pending → ⟨e.handle, id⟩ ∈ s'.futures := by
    intro was
    rcases futures_of_step h with sub | ⟨rx, rfl, gone⟩
    · exact sub (waits was)
    · refine List.mem_filter.mpr ⟨waits was, decide_eq_true fun heq => ?_⟩
      obtain rfl : id = rx := heq
      rcases gone with answered | none | dropped
      · exact tracked.not_answered was hid answered
      · exact none ((Multiset.mem_filterMap _ _).mpr ⟨e, was, hid⟩)
      · exact kept dropped
  have effect := effect_of_steps (steps_of_step h)
  cases traffic_of_step spec h with
  | silent silent cause issues issued => exact old (request_of_pending effect issued he hid)
  | handled e action next dealt cause issues issued =>
    exact old (request_of_pending effect issued he hid)
  | called c cause issues connected eq =>
    subst eq
    have pending : (s.issue c).pending ≤ {c.event s.issued.length} + s.pending :=
      pending_le_of (pending_send_event_le _ _) le_rfl
    rcases Multiset.mem_add.mp (Multiset.mem_of_le pending he) with new | was
    · rw [Multiset.mem_singleton.mp new, c.event_result_tx] at hid
      rw [Multiset.mem_singleton.mp new, ← Option.some.inj hid, c.event_handle]
      exact List.mem_append_right _ (List.mem_singleton_self _)
    · exact old was

/-- The caller of a request that is not answered is still waiting, or has dropped its future. -/
def Waited (s : System S) (r : Record) : Prop :=
  ∀ e ∈ s.pending, ∀ id, e.result_tx = some id → ⟨e.handle, id⟩ ∈ s.futures ∨ id ∈ r.dropped

/-- The caller of a request that is pending waits on after a step, or has left. -/
theorem Waited.step (spec : S.Spec) {s s' : System S} {a : Action} {r : Record}
    (waited : Waited s r) (tracked : Tracked s r) (h : s.step a = some s') :
    Waited s' (r.note s a s') := by
  intro e he id hid
  by_cases dropped : id ∈ (r.note s a s').dropped
  · exact .inr dropped
  left
  rw [Record.note, List.mem_append, Option.mem_toList] at dropped
  obtain ⟨before, now⟩ := not_or.mp dropped
  refine future_of_step spec tracked h he hid ?_ fun was =>
    (waited e was id hid).resolve_right before
  rintro rfl
  exact now rfl

/-- A request that a step handles and that is not abandoned has its future. -/
theorem future_of_not_abandons {s : System S} {a : Action} {e : OperationEvent} {id : ResultTx}
    (handles : s.handles a = some e) (result_tx : e.result_tx = some id)
    (kept : s.abandons a ≠ some id) : ⟨e.handle, id⟩ ∈ s.futures := by
  by_contra gone
  refine kept ?_
  rw [abandons, handles, Option.bind_some, result_tx, Option.filter_some,
    if_pos (decide_eq_true gone)]

/-- A request whose future is there finds its own socket. -/
theorem Held.own {s : System S} (held : Held s) (sound : Sound s) {e : OperationEvent}
    {id : ResultTx} (waits : ⟨e.handle, id⟩ ∈ s.futures) :
    s.stack.socket_set.gen e.index = some e.handle.handle.incarnation :=
  (sound.owned.refers _ (mem_owners_of_streams (held _ waits))).1

/-! ## Whose data is taken -/

end System

/-- A change that handling a request made is among what the request did. -/
theorem Record.mem_done {r : Record} {h : SocketHandle} {ch : Change} (hch : ch ∈ r.changes h)
    {id : ResultTx} (cause : ch.cause = some id) : (ch.before, ch.after) ∈ r.done id h :=
  List.mem_filterMap.mpr ⟨ch, hch, if_pos cause⟩

/-- A request that moves data does so in one change. -/
theorem Record.Moved.of_mem {r : Record} {id : ResultTx} {b b' : Buffers} (moved : r.Moved id b b')
    {h : SocketHandle} {x y : Option Buffers} (mem : (x, y) ∈ r.done id h) :
    x = some b ∧ y = some b' ∧ r.done id h = [(x, y)] := by
  obtain ⟨h₀, hm⟩ := moved
  rw [hm h] at mem ⊢
  split_ifs at mem ⊢ with same
  · obtain ⟨rfl, rfl⟩ := Prod.mk.inj (List.mem_singleton.mp mem)
    exact ⟨rfl, rfl, rfl⟩
  · cases mem

namespace System

section Taken

variable {s : System S} {r : Record} {h : SocketHandle} {ch : Change} {id : ℕ}

/-- A request that changed a buffer was answered, and did what its answer says. -/
theorem Faithful.answered_of_change (faithful : Faithful s r) (hch : ch ∈ r.changes h)
    (cause : ch.cause = some id) : ∃ c a, r.calls[id]? = some c ∧ (id, a) ∈ s.stack.answers ∧
      Truthful r id (s.stack.memory id) c a ∧ ¬ r.Untouched id := by
  have done := Record.mem_done hch cause
  have touched : ¬ r.Untouched id := fun untouched => by
    rw [untouched h] at done
    cases done
  have issued : id < r.calls.length := by
    by_contra future
    exact touched (faithful.future id (by omega))
  have answered : id ∈ s.stack.answers.map Prod.fst := by
    by_contra unanswered
    exact touched (faithful.unanswered id _ (List.getElem?_eq_getElem issued) unanswered).1
  obtain ⟨⟨_, a⟩, ha, rfl⟩ := List.mem_map.mp answered
  obtain ⟨c, hc, truthful⟩ := faithful.answered _ a ha
  exact ⟨c, a, hc, ha, truthful, touched⟩

/-- Bytes are taken by a read, which returns them. -/
theorem Faithful.taken_received (faithful : Faithful s r) (hch : ch ∈ r.changes h)
    (full : ch.taken Buffers.received ≠ []) : ∃ (id : ℕ) (stream : TcpInfo) (buf : IoBuf),
      ch.cause = some id ∧ r.calls[id]? = some (.read stream buf) ∧
      r.done id h = [(ch.before, ch.after)] ∧
      (id, .ok (.len (ch.taken Buffers.received).length)) ∈ s.stack.answers ∧
      s.stack.memory id = buf.fill (ch.taken Buffers.received) := by
  cases cause : ch.cause with
  | none => simp [Change.taken, cause] at full
  | some id =>
    obtain ⟨c, a, hc, ha, truthful, touched⟩ := faithful.answered_of_change hch cause
    have done := Record.mem_done hch cause
    have taken : ch.taken Buffers.received =
        lost (Buffers.received ch.before) (Buffers.received ch.after) :=
      if_neg (by simp [cause])
    rw [taken] at full ⊢
    -- A change that moves data in one of the other ways takes no bytes.
    have kept : ∀ {b b'}, r.Moved id b b' →
        Buffers.received (some b') = Buffers.received (some b) → False := by
      intro b b' moved same
      obtain ⟨before, after, -⟩ := moved.of_mem done
      rw [before, after, same, lost_self] at full
      exact full rfl
    cases truthful with
    | declined declines untouched => exact absurd untouched touched
    | wrote le moved => exact (kept moved rfl).elim
    | sent moved => exact (kept moved rfl).elim
    | received le moved => exact (kept moved rfl).elim
    | truncated longer moved => exact (kept moved rfl).elim
    | @read stream buf data rx tx fin le moved filled =>
      obtain ⟨before, after, hd⟩ := moved.of_mem done
      have gone : lost (Buffers.received ch.before) (Buffers.received ch.after) = data := by
        rw [before, after]
        exact lost_append data rx
      rw [gone]
      exact ⟨id, stream, buf, rfl, hc, hd, ha, filled⟩

/-- A datagram is taken by a recv, which returns it, or finds it too long for its buffer. -/
theorem Faithful.taken_queued (faithful : Faithful s r) (hch : ch ∈ r.changes h)
    (full : ch.taken Buffers.queued ≠ []) :
    ∃ (id : ℕ) (socket : UdpInfo) (buf : IoBuf) (d : Datagram),
      ch.taken Buffers.queued = [d] ∧ ch.cause = some id ∧
      r.calls[id]? = some (.recv socket buf) ∧ r.done id h = [(ch.before, ch.after)] ∧
      ((id, .ok (.datagram d.2.length d.1.socket_addr)) ∈ s.stack.answers ∧
          s.stack.memory id = buf.fill d.2 ∨
        buf.capacity < d.2.length ∧
          (id, .error (.socket .other .truncated)) ∈ s.stack.answers) := by
  cases cause : ch.cause with
  | none => simp [Change.taken, cause] at full
  | some id =>
    obtain ⟨c, a, hc, ha, truthful, touched⟩ := faithful.answered_of_change hch cause
    have done := Record.mem_done hch cause
    have taken : ch.taken Buffers.queued =
        lost (Buffers.queued ch.before) (Buffers.queued ch.after) :=
      if_neg (by simp [cause])
    rw [taken] at full ⊢
    have kept : ∀ {b b'}, r.Moved id b b' →
        Buffers.queued (some b') = Buffers.queued (some b) → False := by
      intro b b' moved same
      obtain ⟨before, after, -⟩ := moved.of_mem done
      rw [before, after, same, lost_self] at full
      exact full rfl
    -- The first datagram goes.
    have first : ∀ {d rx tx}, r.Moved id (.udp (d :: rx) tx) (.udp rx tx) →
        lost (Buffers.queued ch.before) (Buffers.queued ch.after) = [d] ∧
          r.done id h = [(ch.before, ch.after)] := by
      intro d rx tx moved
      obtain ⟨before, after, hd⟩ := moved.of_mem done
      refine ⟨?_, hd⟩
      rw [before, after]
      exact lost_append [d] rx
    cases truthful with
    | declined declines untouched => exact absurd untouched touched
    | wrote le moved => exact (kept moved rfl).elim
    | read le moved => exact (kept moved rfl).elim
    | sent moved => exact (kept moved rfl).elim
    | @received socket buf data src rx tx le moved filled =>
      obtain ⟨gone, hd⟩ := first moved
      exact ⟨id, socket, buf, (src, data), gone, rfl, hc, hd, .inl ⟨ha, filled⟩⟩
    | @truncated socket buf d rx tx longer moved =>
      obtain ⟨gone, hd⟩ := first moved
      exact ⟨id, socket, buf, d, gone, rfl, hc, hd, .inr ⟨longer, ha⟩⟩

end Taken

/-- Reads and recvs take from the sockets that they were made on, unless they were abandoned. -/
def Attributed (r : Record) : Prop :=
  ∀ h, ∀ ch ∈ r.changes h, ∀ (id : ℕ) c, ch.cause = some id → r.calls[id]? = some c →
    c.receives = true → id ∉ r.abandoned → c.handle.handle = h

/-- What a step takes for somebody is taken from the socket of the call. -/
theorem attributed_step (spec : S.Spec) {s s' : System S} {a : Action} {r : Record}
    (faithful : Faithful s r) (attributed : Attributed r) (h : s.step a = some s')
    (own : ∀ e ∈ s.handles a, ∀ id, e.result_tx = some id → s.abandons a ≠ some id →
      s.stack.socket_set.gen e.index = some e.handle.handle.incarnation) :
    Attributed (r.note s a s') := by
  intro hd ch hch id c cause call receives kept
  rw [Record.note, List.mem_append, Option.mem_toList] at kept
  obtain ⟨before, now⟩ := not_or.mp kept
  rcases Record.mem_changes_note.mp hch with old | ⟨changed, rfl⟩
  · obtain ⟨c', -, hc', -⟩ := faithful.answered_of_change old cause
    obtain rfl : c' = c := Option.some.inj ((call_note hc' s a s').symm.trans call)
    exact attributed hd ch old id c' cause hc' receives before
  · have cause : s.cause a = some id := cause
    cases traffic_of_step spec h with
    | silent silent none issues issued => rw [none] at cause; cases cause
    | called c' none issues connected eq => rw [none] at cause; cases cause
    | handled e action next dealt handles issues issued =>
      have hid : e.result_tx = some id := handles ▸ cause
      cases dealt with
      | silent silent buffers =>
        rcases buffers hd with same | ⟨none, -⟩
        · exact absurd same changed
        · rw [none] at hid
          cases hid
      | eof handle buffer tx c' event found socket drained shut eq =>
        exact absurd (by rw [eq]; rfl) changed
      | served tx ans s₀ s₁ memory result_tx found socket serves eq =>
        obtain ⟨c', hc', rfl⟩ := faithful.tracked.event e (mem_pending_of_next next) id hid
        obtain rfl : c' = c := Option.some.inj ((call_note hc' s a s').symm.trans call)
        obtain ⟨g, hg, before, after⟩ := buffers_of_served socket s₁
        -- The change is at the socket that the request was handed to.
        have slot : hd = ⟨(c'.event id).index, g⟩ := by
          by_contra other
          refine changed ?_
          rw [eq]
          exact (after hd).trans (if_neg other)
        have live := own _ (by rw [action]; exact next) id hid now
        obtain rfl := Option.some.inj (hg.symm.trans live)
        rw [slot, c'.event_handle, OperationEvent.index, c'.event_handle]

/-- What holds of the callers in every run. -/
structure Delivered (s : System S) (r : Record) : Prop where
  held : Held s
  waited : Waited s r
  abandoned : ∀ id ∈ r.abandoned, id ∈ r.dropped
  attributed : Attributed r
  /-- The reads that were not abandoned have returned what they took. -/
  returned : ∀ counts, (∀ id ∈ r.abandoned, counts id = false) → ReturnedBy counts s r

/-- A request that is handled finds its own socket, if it is not abandoned. -/
theorem Delivered.own {s : System S} {r : Record} (delivered : Delivered s r) (sound : Sound s)
    {a : Action} {e : OperationEvent} (handles : s.handles a = some e) {id : ResultTx}
    (result_tx : e.result_tx = some id) (kept : s.abandons a ≠ some id) :
    s.stack.socket_set.gen e.index = some e.handle.handle.incarnation :=
  delivered.held.own sound (future_of_not_abandons handles result_tx kept)

/-- A step delivers what it takes, or records that nobody is there. -/
theorem Delivered.step (spec : S.Spec) {s s' : System S} {a : Action} {r : Record}
    (delivered : Delivered s r) (faithful : Faithful s r) (sound : Sound s)
    (h : s.step a = some s') : Delivered s' (r.note s a s') where
  held := delivered.held.step h
  waited := delivered.waited.step spec faithful.tracked h
  abandoned id hid := by
    rw [Record.note, List.mem_append, Option.mem_toList] at hid
    refine List.mem_append_left _ ?_
    rcases hid with old | new
    · exact delivered.abandoned id old
    · -- The future of the request that is handled is not there, so it was dropped.
      obtain ⟨e, handles, result_tx⟩ := Option.bind_eq_some_iff.mp new
      obtain ⟨result_tx, gone⟩ := Option.filter_eq_some_iff.mp result_tx
      have pending : e ∈ s.pending := by
        cases a with
        | event => exact mem_pending_of_next handles
        | _ => cases handles
      exact (delivered.waited e pending id result_tx).resolve_left (of_decide_eq_true gone)
  attributed := attributed_step spec faithful delivered.attributed h
    fun e handles id result_tx kept => delivered.own sound handles result_tx kept
  returned counts none := by
    have before : ∀ id ∈ r.abandoned, counts id = false := fun id hid =>
      none id (List.mem_append_left _ hid)
    refine returned_step spec faithful h (fun id cause counted => ?_)
      (delivered.returned counts before)
    -- A request that is counted is not abandoned.
    intro handle buffer tx handles _ _ _ _ _
    have same : tx = id := by
      cases a with
      | event =>
        have next : s.next_event = some (.read handle buffer tx) := handles
        simpa [System.cause, next, result_tx] using cause
      | _ => cases cause
    subst same
    refine delivered.own sound handles rfl fun abandons => ?_
    have hid : tx ∈ (r.note s a s').abandoned := by
      rw [Record.note, List.mem_append, Option.mem_toList]
      exact .inr abandons
    rw [none tx hid] at counted
    cases counted

/-- In every run what is taken is delivered, or nobody was there. -/
theorem delivered_of_run (spec : S.Spec) {size : ℕ} {interface : S.Interface}
    {guard : System S × Record → Action → Prop} {s : System S} {r : Record}
    (run : Run (recording step Record.note) guard (new size interface, .empty) (s, r)) :
    Delivered s r := by
  refine run.invariant (I := fun p => Delivered p.1 p.2) ⟨?_, ?_, ?_, ?_, ?_⟩ ?_
  · simp [Held, new]
  · have pending : (new size interface).pending = 0 := rfl
    simp [Waited, pending]
  · simp [Record.empty]
  · simp [Attributed, Record.empty]
  · exact fun counts _ h => rfl
  · rintro ⟨s, r⟩ a q run - h delivered
    obtain ⟨step, note⟩ := recording_eq_some.mp h
    rw [note]
    exact delivered.step spec (faithful_of_run spec run) (sound_of_run run.of_recording) step

/-! ## When no reader leaves -/

/-- No future of a `read` or a `recv` is dropped before the call returns. -/
def KeepsReads (p : System S × Record) (a : Action) : Prop :=
  ∀ rx ∈ a.drops, ∀ c ∈ p.2.calls[rx]?, c.receives = false

instance (p : System S × Record) (a : Action) : Decidable (KeepsReads p a) :=
  inferInstanceAs (Decidable (∀ rx ∈ a.drops, ∀ c ∈ p.2.calls[rx]?, c.receives = false))

/-- What holds when the callers of `read` and `recv` wait. -/
structure Delivering (s : System S) (r : Record) : Prop where
  /-- The caller of a Read or a Recv that is not answered is still waiting. -/
  waiting : ∀ e ∈ s.pending, e.receives = true → ∀ id, e.result_tx = some id →
    ⟨e.handle, id⟩ ∈ s.futures
  returned : Returned s r

/-- In every run in which no reader leaves, the callers wait and the reads return what was taken. -/
theorem delivering_of_run (spec : S.Spec) {size : ℕ} {interface : S.Interface} {s : System S}
    {r : Record}
    (run : Run (recording step Record.note) KeepsReads (new size interface, .empty) (s, r)) :
    Delivering s r := by
  refine run.invariant (I := fun p => Delivering p.1 p.2) ⟨?_, fun h => rfl⟩ ?_
  · have pending : (new size interface).pending = 0 := rfl
    simp [pending]
  rintro ⟨s, r⟩ a q run guard h delivering
  obtain ⟨step, note⟩ := recording_eq_some.mp h
  rw [note]
  have faithful := faithful_of_run spec run
  have held := (delivered_of_run spec run).held
  have own : ∀ id ∈ s.cause a, true = true → s.OwnRead a := by
    rintro - - - handle buffer tx handles _ _ _ _ _
    cases a with
    | event =>
      exact held.own (sound_of_run run.of_recording)
        (delivering.waiting _ (mem_pending_of_next handles) rfl tx rfl)
    | _ => cases handles
  refine ⟨fun e he receives id hid => ?_,
    returned_iff.mpr (returned_step spec faithful step own (returned_iff.mp delivering.returned))⟩
  refine future_of_step spec faithful.tracked step he hid ?_ fun was =>
    delivering.waiting e was receives id hid
  -- The caller of a Read does not leave, so the request would be none.
  rintro rfl
  have effect := effect_of_steps (steps_of_step step)
  cases traffic_of_step spec step with
  | silent silent cause issues issued =>
    have was := request_of_pending effect issued he hid
    obtain ⟨c, hc, rfl⟩ := faithful.tracked.event e was id hid
    rw [c.event_receives, guard id rfl c hc] at receives
    cases receives
  | handled e action => cases action
  | called c cause issues => cases issues

/-! ## Where everything goes -/

/-- The bytes that a change takes out of the socket `h` are what one read of its stream returns, at
the front of its buffer. The read is answered once, and takes nothing else. -/
def ReturnedByRead (s : System S) (r : Record) (h : SocketHandle) (ch : Change) : Prop :=
  ∃ (id : ℕ) (stream : TcpInfo) (buf : IoBuf), ch.cause = some id ∧
    r.calls[id]? = some (.read stream buf) ∧ stream.handle = h ∧
    r.done id h = [(ch.before, ch.after)] ∧ (s.stack.answers.map Prod.fst).count id = 1 ∧
    (id, .ok (.len (ch.taken Buffers.received).length)) ∈ s.stack.answers ∧
    (s.stack.memory id).bytes =
      ch.taken Buffers.received ++ buf.bytes.drop (ch.taken Buffers.received).length

/-- What a change takes out of the UDP socket `h` is one datagram, and one recv on its `UdpSocket`
returns it with its sender, or fails because the datagram is longer than the recv's buffer. The recv
is answered once, and takes nothing else. -/
def ReturnedByRecv (s : System S) (r : Record) (h : SocketHandle) (ch : Change) : Prop :=
  ∃ (id : ℕ) (socket : UdpInfo) (buf : IoBuf) (src : IpEndpoint) (data : Bytes),
    ch.taken Buffers.queued = [(src, data)] ∧ ch.cause = some id ∧
    r.calls[id]? = some (.recv socket buf) ∧ socket.handle = h ∧
    r.done id h = [(ch.before, ch.after)] ∧ (s.stack.answers.map Prod.fst).count id = 1 ∧
    ((id, .ok (.datagram data.length src.socket_addr)) ∈ s.stack.answers ∧
        (s.stack.memory id).bytes = data ++ buf.bytes.drop data.length ∨
      buf.capacity < data.length ∧ (id, .error (.socket .other .truncated)) ∈ s.stack.answers)

/-- A request that was answered was answered once. -/
theorem Tracked.count_answered {s : System S} {r : Record} (tracked : Tracked s r) {id : ℕ}
    {a : Answer} (ha : (id, a) ∈ s.stack.answers) : (s.stack.answers.map Prod.fst).count id = 1 :=
  List.count_eq_one_of_mem tracked.answered_once (List.mem_map_of_mem (f := Prod.fst) ha)

/-- What the reads of a stream have returned whose futures were not dropped. -/
def completed (s : System S) (r : Record) (h : SocketHandle) : Bytes :=
  s.returned_by r (· ∉ r.dropped) h

/-- What requests take is taken for somebody, but for what they take when their futures were dropped
before.

The caller of a request that is handled is waiting, or has dropped the future; the request is then
abandoned. The bytes that another one takes out of a TCP socket are what this one read returns, on
the socket's own stream, and a datagram that it takes out of a UDP socket is what this one recv
returns, unless the datagram does not fit into the recv's buffer. What the reads of a stream have
returned whose futures were not dropped, in the order in which they were answered, is what they took
from its socket, one after the other. So if no other request has taken anything from that socket,
they come first in what it has received, and the rest is still in the socket's buffer, unless
smoltcp has discarded it after TIME-WAIT. -/
theorem received_for_somebody (spec : S.Spec) {size : ℕ} {interface : S.Interface} {s : System S}
    {r : Record} (run : Reachable (recording step Record.note)
      (new size interface, .empty) (s, r)) :
    (∀ e, s.next_event = some e → ∀ id, e.result_tx = some id →
      ⟨e.handle, id⟩ ∈ s.futures ∨ id ∈ r.dropped) ∧
    (∀ id ∈ r.abandoned, id ∈ r.dropped) ∧
    (∀ h, ∀ ch ∈ r.changes h, ch.taken Buffers.received ≠ [] →
      (∀ id ∈ r.abandoned, ch.cause ≠ some id) → ReturnedByRead s r h ch) ∧
    (∀ h, ∀ ch ∈ r.changes h, ch.taken Buffers.queued ≠ [] →
      (∀ id ∈ r.abandoned, ch.cause ≠ some id) → ReturnedByRecv s r h ch) ∧
    (∀ h, s.completed r h = r.taken_by (· ∉ r.dropped) h) ∧
    (∀ h, .tcp h ∈ s.streams → (∀ ch ∈ r.changes h, ∀ id ∈ r.dropped, ch.cause = some id →
        ch.taken Buffers.received = []) →
      s.completed r h <+: r.arrived Buffers.received h ∧
      ∃ c, s.stack.IsTcp h c ∧ (¬ r.Discarded h →
        r.arrived Buffers.received h = s.completed r h ++ S.tcp.rx_buffer c)) ∧
    ∀ h, .udp h ∈ s.streams → ∃ u, s.stack.IsUdp h u ∧
      r.arrived Buffers.queued h = r.taken Buffers.queued h ++ S.udp.rx_buffer u := by
  have faithful := faithful_of_run spec run
  have stored := stored_of_run spec run
  have sound := sound_of_run run.of_recording
  have delivered := delivered_of_run spec run
  have completed : ∀ h, s.completed r h = r.taken_by (· ∉ r.dropped) h :=
    delivered.returned _ fun id hid => decide_eq_false fun kept => kept (delivered.abandoned id hid)
  refine ⟨fun e next => delivered.waited e (mem_pending_of_next next), delivered.abandoned,
    fun h ch hch full kept => ?_, fun h ch hch full kept => ?_, completed, fun h held alone => ?_,
    fun h held => ?_⟩
  · obtain ⟨id, stream, buf, cause, call, done, answer, filled⟩ :=
      faithful.taken_received hch full
    refine ⟨id, stream, buf, cause, call, ?_, done, faithful.tracked.count_answered answer, answer,
      by rw [filled]; rfl⟩
    exact delivered.attributed h ch hch id _ cause call rfl fun hid => kept id hid cause
  · obtain ⟨id, socket, buf, ⟨src, data⟩, taken, cause, call, done, answer⟩ :=
      faithful.taken_queued hch full
    have own := delivered.attributed h ch hch id _ cause call rfl fun hid => kept id hid cause
    refine ⟨id, socket, buf, src, data, taken, cause, call, own, done, ?_, ?_⟩
    · rcases answer with ⟨answer, -⟩ | ⟨-, answer⟩ <;>
        exact faithful.tracked.count_answered answer
    · exact answer.imp (fun ⟨answer, filled⟩ => ⟨answer, by rw [filled]; rfl⟩) fun long => long
  · have refers := sound.owned.refers _ (mem_owners_of_streams held)
    -- A stream that is held has its socket.
    obtain ⟨c, hc⟩ := tcp_of_kind refers.2
    have is : s.stack.IsTcp h c := ⟨refers.1, tcp_at_eq_some.mpr hc⟩
    rw [completed h, Record.taken_by_of_rest alone]
    rcases stored.tcp h c is with ⟨keeps, conserved⟩ | ⟨discarded, -, -, le⟩
    · exact ⟨conserved.prefix_put, c, is, fun _ => conserved⟩
    · exact ⟨le, c, is, fun keeps => absurd discarded keeps⟩
  · have refers := sound.owned.refers _ (mem_owners_of_streams held)
    obtain ⟨u, hu⟩ := udp_of_kind refers.2
    have is : s.stack.IsUdp h u := ⟨refers.1, udp_at_eq_some.mpr hu⟩
    exact ⟨u, is, stored.udp h u is⟩

open Reference in
/-- A Read whose future is dropped while it is parked. -/
def abandoned : List Action := [
  .start (some (syn 1 2)) 0 none, .finish, .start (some (ack 1 2 [])) 0 none, .finish,
  .generate, .start none 0 (some 0), .event, .finish, .accept_tcp,
  .call (.read ⟨⟨0, 0⟩, client_addr 1, server_addr 2⟩ ⟨[1, 2], 0⟩), .generate,
  .start none 0 (some 0), .event, .finish, .drop_future 0,
  .start (some (ack 1 2 [7])) 0 none, .finish, .generate, .start none 0 (some 0)]

open Reference in
/-- A Recv into a buffer of one byte, when a datagram of two is there. -/
def short_recv : List Action := [
  .start (some (udp_packet 1 2 [7, 8])) 0 none, .finish, .generate, .start none 0 (some 0), .event,
  .finish, .accept_udp, .call (.recv ⟨⟨0, 0⟩, server_addr 2⟩ ⟨[0], 0⟩), .generate,
  .start none 0 (some 0), .event, .finish]

open Reference in
/-- Nobody waits for the Read that takes the first byte, and the next read of the stream, which the
caller waits for, gets the second. The caller of the Recv waits, and gets an error for the datagram
that is taken. -/
theorem taken_for_nobody :
    (∃ p q : System reference × Record,
      exec (recording step Record.note) (new 64 (), .empty) abandoned = some p ∧
      p.1.next_event = some (.read ⟨0, 0⟩ 0 0) ∧ p.1.futures = [] ∧
      exec (recording step Record.note) p [.event, .finish,
        .call (.read ⟨⟨0, 0⟩, client_addr 1, server_addr 2⟩ ⟨[1, 2], 0⟩),
        .start (some (ack 1 2 [8])) 0 none, .finish, .generate, .start none 0 (some 0), .event,
        .finish] = some q ∧
      q.2.arrived Buffers.received ⟨0, 0⟩ = [7, 8] ∧ q.2.taken Buffers.received ⟨0, 0⟩ = [7, 8] ∧
      q.1.futures = [⟨.tcp ⟨0, 0⟩, 1⟩] ∧ (1, .ok (.len 1)) ∈ q.1.stack.answers ∧
      q.1.gives q.2 ⟨0, 0⟩ (1, .ok (.len 1)) = [8]) ∧
    ∃ q : System reference × Record,
      exec (recording step Record.note) (new 64 (), .empty) short_recv = some q ∧
      (q.2.taken Buffers.queued ⟨0, 0⟩).map Prod.snd = [[7, 8]] ∧
      q.1.futures = [⟨.udp ⟨0, 0⟩, 0⟩] ∧
      q.1.stack.answers = [(0, .error (.socket .other .truncated))] := by
  constructor
  · obtain ⟨p, hp, ht⟩ := exists_of_exec_any (recording step Record.note)
      ((new 64 () : System reference), Record.empty) abandoned
      (fun p => p.1.next_event = some (.read ⟨0, 0⟩ 0 0) ∧ p.1.futures = [] ∧
        (exec (recording step Record.note) p [.event, .finish,
          .call (.read ⟨⟨0, 0⟩, client_addr 1, server_addr 2⟩ ⟨[1, 2], 0⟩),
          .start (some (ack 1 2 [8])) 0 none, .finish, .generate, .start none 0 (some 0), .event,
          .finish]).any fun q =>
            q.2.arrived Buffers.received ⟨0, 0⟩ = [7, 8] ∧
            q.2.taken Buffers.received ⟨0, 0⟩ = [7, 8] ∧ q.1.futures = [⟨.tcp ⟨0, 0⟩, 1⟩] ∧
            (1, .ok (.len 1)) ∈ q.1.stack.answers ∧
            q.1.gives q.2 ⟨0, 0⟩ (1, .ok (.len 1)) = [8])
      (by decide +kernel)
    obtain ⟨next, futures, hq⟩ := of_decide_eq_true ht
    obtain ⟨q, hq, ht⟩ := (Option.any_eq_true _ _).mp hq
    exact ⟨p, q, hp, next, futures, hq, of_decide_eq_true ht⟩
  · obtain ⟨q, hq, ht⟩ := exists_of_exec_any (recording step Record.note)
      ((new 64 () : System reference), Record.empty) short_recv
      (fun q => (q.2.taken Buffers.queued ⟨0, 0⟩).map Prod.snd = [[7, 8]] ∧
        q.1.futures = [⟨.udp ⟨0, 0⟩, 0⟩] ∧
        q.1.stack.answers = [(0, .error (.socket .other .truncated))])
      (by decide +kernel)
    exact ⟨q, hq, of_decide_eq_true ht⟩

open Reference in
/-- A Read is parked and its future dropped. The next Read of the stream is parked over it, and a
byte arrives. -/
def read_again : List Action := [
  .start (some (syn 1 2)) 0 none, .finish, .start (some (ack 1 2 [])) 0 none, .finish,
  .generate, .start none 0 (some 0), .event, .finish, .accept_tcp,
  .call (.read ⟨⟨0, 0⟩, client_addr 1, server_addr 2⟩ ⟨[1, 2], 0⟩), .generate,
  .start none 0 (some 0), .event, .finish, .drop_future 0,
  .call (.read ⟨⟨0, 0⟩, client_addr 1, server_addr 2⟩ ⟨[1, 2], 0⟩), .generate,
  .start none 0 (some 0), .event, .finish, .start (some (ack 1 2 [7])) 0 none, .finish, .generate,
  .start none 0 (some 0), .event, .finish]

open Reference in
/-- The byte is the one that the second caller gets, and the first thing that the stream has
received. -/
theorem received_for_somebody_again : ∃ (s : System reference) (r : Record), r.dropped = [0] ∧
    (∃ ch ∈ r.changes ⟨0, 0⟩, ch.taken Buffers.received = [7] ∧ ReturnedByRead s r ⟨0, 0⟩ ch) ∧
    s.completed r ⟨0, 0⟩ <+: r.arrived Buffers.received ⟨0, 0⟩ := by
  obtain ⟨⟨s, r⟩, hs, ht⟩ := exists_of_exec_any (recording step Record.note)
    ((new 64 () : System reference), Record.empty) read_again
    (fun p => (∃ ch ∈ p.2.changes ⟨0, 0⟩, ch.taken Buffers.received = [7]) ∧
      (∀ ch ∈ p.2.changes ⟨0, 0⟩, ch.cause ≠ some 0) ∧ p.2.abandoned = [] ∧ p.2.dropped = [0] ∧
      .tcp ⟨0, 0⟩ ∈ p.1.streams)
    (by decide +kernel)
  obtain ⟨⟨ch, hch, taken⟩, untouched, kept, dropped, held⟩ := of_decide_eq_true ht
  have kept : r.abandoned = [] := kept
  have dropped : r.dropped = [0] := dropped
  obtain ⟨-, -, bytes, -, -, live, -⟩ := received_for_somebody reference_spec (Run.of_exec hs)
  refine ⟨s, r, dropped, ⟨ch, hch, taken, bytes _ ch hch (by simp [taken]) (by simp [kept])⟩,
    (live _ held fun ch hch id hid cause => ?_).1⟩
  rw [dropped, List.mem_singleton] at hid
  exact absurd (hid ▸ cause) (untouched ch hch)

end System

end L3Extract
