import L3Extract.System.Record

/-!
# Answers tell the truth

A request can be parked, sent again, and collected in a batch any number of times before it is
answered. `Faithful` is what holds of the record in every reachable state: a request that was not
answered has done nothing, and one that was answered has done what its answer says, once
(`Truthful`). `answers_truthful` spells it out for reads, writes, and sends.
-/

namespace L3Extract

open OperationEvent Transition TcpStack

variable {S : Smoltcp}

/-- Receiving nothing leaves a buffer as it is. -/
theorem IoBuf.fill_nil (buf : IoBuf) : buf.fill [] = buf := by
  cases buf
  simp [fill]

/-- What a request has done to the sockets, and its buffer, agree with its answer. -/
inductive Truthful (r : Record) (id : ResultTx) (memory : IoBuf) : Call → Answer → Prop
  /-- Nothing was done for the request. -/
  | declined {c : Call} {a : Answer} (declines : Declines (c.event id) (id, a))
      (untouched : r.Untouched id) (kept : memory = c.buf) : Truthful r id memory c a
  | wrote {stream : TcpInfo} {buf : IoBuf} {n : ℕ} {rx tx : Bytes} {fin : Bool}
      (le : n ≤ buf.as_slice.length)
      (moved : r.Moved id (.tcp rx tx fin) (.tcp rx (tx ++ buf.as_slice.take n) fin))
      (kept : memory = buf) : Truthful r id memory (.write stream buf) (.ok (.len n))
  | read {stream : TcpInfo} {buf : IoBuf} {data rx tx : Bytes} {fin : Bool}
      (le : data.length ≤ buf.capacity)
      (moved : r.Moved id (.tcp (data ++ rx) tx fin) (.tcp rx tx fin))
      (filled : memory = buf.fill data) :
      Truthful r id memory (.read stream buf) (.ok (.len data.length))
  | sent {socket : UdpInfo} {buf : IoBuf} {addr : SocketAddr} {rx tx : List Datagram}
      (moved : r.Moved id (.udp rx tx) (.udp rx (tx ++ [(.from addr, buf.as_slice)])))
      (kept : memory = buf) :
      Truthful r id memory (.send socket buf addr) (.ok (.len buf.as_slice.length))
  | received {socket : UdpInfo} {buf : IoBuf} {data : Bytes} {src : IpEndpoint}
      {rx tx : List Datagram} (le : data.length ≤ buf.capacity)
      (moved : r.Moved id (.udp ((src, data) :: rx) tx) (.udp rx tx))
      (filled : memory = buf.fill data) :
      Truthful r id memory (.recv socket buf) (.ok (.datagram data.length src.socket_addr))
  /-- The datagram does not fit into the buffer. -/
  | truncated {socket : UdpInfo} {buf : IoBuf} {d : Datagram} {rx tx : List Datagram}
      (longer : buf.capacity < d.2.length) (moved : r.Moved id (.udp (d :: rx) tx) (.udp rx tx))
      (kept : memory = buf) :
      Truthful r id memory (.recv socket buf) (.error (.socket .other .truncated))

/-- The request changed nothing after all. -/
theorem Record.Moved.untouched {r : Record} {id : ResultTx} {b b' : Buffers}
    (moved : r.Moved id b b')
    (same : b' = b) : r.Untouched id := by
  obtain ⟨h, hm⟩ := moved
  intro h'
  rw [hm h', if_neg fun hc => hc.2 same]

/-- A request that touched nothing left any buffers as they are. -/
theorem Record.Untouched.moved {r : Record} {id : ResultTx} (untouched : r.Untouched id)
    (b : Buffers) : r.Moved id b b :=
  ⟨⟨0, 0⟩, fun h' => by rw [untouched h', if_neg fun hc => hc.2 rfl]⟩

/-- What a request has done is all that counts. -/
theorem Truthful.congr {r r' : Record} {id : ResultTx} {memory : IoBuf} {c : Call} {a : Answer}
    (truthful : Truthful r id memory c a) (done : ∀ h, r'.done id h = r.done id h) :
    Truthful r' id memory c a := by
  have untouched : r.Untouched id → r'.Untouched id := fun hu h => (done h).trans (hu h)
  have moved : ∀ {b b'}, r.Moved id b b' → r'.Moved id b b' := by
    rintro b b' ⟨h, hm⟩
    exact ⟨h, fun h' => (done h').trans (hm h')⟩
  cases truthful with
  | declined declines hu kept => exact .declined declines (untouched hu) kept
  | wrote le hm kept => exact .wrote le (moved hm) kept
  | read le hm filled => exact .read le (moved hm) filled
  | sent hm kept => exact .sent (moved hm) kept
  | received le hm filled => exact .received le (moved hm) filled
  | truncated longer hm kept => exact .truncated longer (moved hm) kept

/-! ## Serving a request -/

section Served

variable {t : TcpStack S} {id : ResultTx} {r : Record} {memory : BufferId → IoBuf} {a : Answer}

/-- What smoltcp moves for a Write is what it returns. -/
theorem truthful_write (spec : S.Spec) {stream : TcpInfo} {buf : IoBuf} {c : S.Tcp}
    (moved : r.Moved id (S.buffers (.tcp c))
      (S.buffers (.tcp (S.tcp.send_slice c buf.as_slice).1))) :
    Truthful r id buf (.write stream buf)
      (write_answer (S.tcp.send_slice c buf.as_slice).2) := by
  have sends := spec.send_slice_buffers c buf.as_slice
  simp only [Smoltcp.buffers, sends.rx_buffer, sends.rx_fin_received] at moved
  cases hres : (S.tcp.send_slice c buf.as_slice).2 with
  | ok n =>
    obtain ⟨le, tx⟩ := sends.ok n hres
    rw [tx] at moved
    exact .wrote le moved rfl
  | error err =>
    rw [sends.error err hres] at moved
    exact .declined ⟨rfl, fun _ => ⟨_, rfl⟩⟩ (moved.untouched rfl) rfl

/-- What smoltcp moves for a Read is what it returns. -/
theorem truthful_read (spec : S.Spec) {stream : TcpInfo} {buf : IoBuf} {c : S.Tcp}
    (own : t.memory id = buf) (moved : r.Moved id (S.buffers (.tcp c))
      (S.buffers (.tcp (S.tcp.recv_slice c buf.capacity).1))) :
    Truthful r id (t.filled id (fun data => data) (S.tcp.recv_slice c buf.capacity).2 id)
      (.read stream buf) (read_answer (S.tcp.recv_slice c buf.capacity).2) := by
  have receives := spec.recv_slice_buffers c buf.capacity
  simp only [Smoltcp.buffers, receives.tx_buffer, receives.rx_fin_received] at moved
  cases hres : (S.tcp.recv_slice c buf.capacity).2 with
  | ok data =>
    obtain ⟨le, rx⟩ := receives.moved hres
    rw [rx] at moved
    exact .read le moved (by simp [filled, fill, own])
  | error err =>
    obtain ⟨empty, empty'⟩ := receives.error err hres
    rw [empty, empty'] at moved
    have untouched := moved.untouched rfl
    by_cases hf : err = .finished
    · -- The end of the stream is reported as no data.
      subst hf
      have kept : t.filled id (fun data => data) (.error .finished) id = buf.fill [] := by
        rw [IoBuf.fill_nil]
        exact own
      exact .read (Nat.zero_le _) (untouched.moved (.tcp [] [] false)) kept
    · refine .declined ⟨rfl, fun _ => ?_⟩ untouched own
      cases err <;> first | exact ⟨_, rfl⟩ | exact absurd rfl hf

/-- What smoltcp moves for a Send is what it returns. -/
theorem truthful_send (spec : S.Spec) {socket : UdpInfo} {buf : IoBuf} {addr : SocketAddr}
    {u : S.Udp} (moved : r.Moved id (S.buffers (.udp u))
      (S.buffers (.udp (S.udp.send_slice u buf.as_slice (.from addr)).1))) :
    Truthful r id buf (.send socket buf addr)
      (send_answer buf.as_slice (S.udp.send_slice u buf.as_slice (.from addr)).2) := by
  have sends := spec.udp_send_slice u buf.as_slice (.from addr)
  simp only [Smoltcp.buffers, sends.rx_buffer] at moved
  cases hres : (S.udp.send_slice u buf.as_slice (.from addr)).2 with
  | ok done =>
    rw [sends.ok hres] at moved
    exact .sent moved rfl
  | error err =>
    rw [sends.error err hres] at moved
    exact .declined ⟨rfl, fun _ => ⟨_, rfl⟩⟩ (moved.untouched rfl) rfl

/-- What smoltcp moves for a Recv is what it returns, but for a datagram that it truncates. -/
theorem truthful_recv (spec : S.Spec) {socket : UdpInfo} {buf : IoBuf} {u : S.Udp}
    (own : t.memory id = buf) (moved : r.Moved id (S.buffers (.udp u))
      (S.buffers (.udp (S.udp.recv_slice u buf.capacity).1))) :
    Truthful r id (t.filled id Prod.fst (S.udp.recv_slice u buf.capacity).2 id)
      (.recv socket buf) (recv_answer (S.udp.recv_slice u buf.capacity).2) := by
  have receives := spec.udp_recv_slice u buf.capacity
  simp only [Smoltcp.buffers, receives.tx_buffer] at moved
  cases hres : (S.udp.recv_slice u buf.capacity).2 with
  | ok datagram =>
    obtain ⟨data, src⟩ := datagram
    obtain ⟨le, rx⟩ := receives.ok data src hres
    rw [rx] at moved
    exact .received le moved (by simp [filled, fill, own])
  | error err =>
    by_cases hf : err = .truncated
    · subst hf
      obtain ⟨d, longer, rx⟩ := receives.truncated hres
      rw [rx] at moved
      exact .truncated longer moved own
    · rw [receives.error err hres hf] at moved
      exact .declined ⟨rfl, fun _ => ⟨_, rfl⟩⟩ (moved.untouched rfl) own

/-- A request that is served does what its answer says. -/
theorem truthful_of_serves (spec : S.Spec) {c : Call} {s s' : S.Socket}
    (serves : t.Serves (c.event id) s s' memory a) (own : t.memory id = c.buf)
    (moved : r.Moved id (S.buffers s) (S.buffers s')) : Truthful r id (memory id) c a := by
  cases c with
  | read stream buf =>
    have own : t.memory id = buf := own
    cases serves with
    | read queued =>
      rw [own] at moved ⊢
      exact truthful_read spec own moved
  | write stream buf =>
    have own : t.memory id = buf := own
    cases serves with
    | write can_send =>
      rw [own] at moved ⊢
      exact truthful_write spec moved
  | shutdown stream => cases serves
  | recv socket buf =>
    have own : t.memory id = buf := own
    cases serves with
    | recv can_recv =>
      rw [own] at moved ⊢
      exact truthful_recv spec own moved
  | send socket buf addr =>
    have own : t.memory id = buf := own
    cases serves with
    | send can_send =>
      rw [own] at moved ⊢
      exact truthful_send spec moved

end Served

/-! ## The account of requests -/

namespace System

/-- The record knows the calls behind the requests, and each request is pending or answered at most
once. -/
structure Tracked (s : System S) (r : Record) : Prop where
  calls : r.calls.map Call.handle = s.issued
  event : ∀ e ∈ s.pending, ∀ id : ℕ, e.result_tx = some id →
    ∃ c, r.calls[id]? = some c ∧ e = c.event id
  once : s.requests.Nodup
  below : ∀ id : ℕ, id ∈ s.requests → id < r.calls.length

/-- A request is answered at most once. -/
theorem Tracked.answered_once {s : System S} {r : Record} (tracked : Tracked s r) :
    (s.stack.answers.map Prod.fst).Nodup := by
  have once := tracked.once
  rw [requests_eq] at once
  exact Multiset.coe_nodup.mp (Multiset.nodup_add.mp once).2.1

/-- Every call that was recorded has issued its request. -/
theorem Tracked.length {s : System S} {r : Record} (tracked : Tracked s r) :
    r.calls.length = s.issued.length := by
  rw [← tracked.calls, List.length_map]

/-- A step keeps the record of the calls. -/
theorem Tracked.step (spec : S.Spec) {s s' : System S} {a : Action} {r : Record}
    (tracked : Tracked s r) (h : s.step a = some s') : Tracked s' (r.note s a s') := by
  have effect := effect_of_steps (steps_of_step h)
  -- A step that issues no request.
  have quiet : s.issues a = [] → s'.issued = s.issued → Tracked s' (r.note s a s') := by
    intro issues issued
    have calls : (r.note s a s').calls = r.calls := by rw [Record.note, issues, List.append_nil]
    have le := requests_le_of_step h issued
    refine ⟨?_, fun e he id hid => ?_, Multiset.nodup_of_le le tracked.once, fun id hid => ?_⟩
    · rw [calls, issued, tracked.calls]
    · rw [calls]
      exact tracked.event e (request_of_pending effect issued he hid) id hid
    · rw [calls]
      exact tracked.below id (Multiset.mem_of_le le hid)
  cases traffic_of_step spec h with
  | silent silent cause issues issued => exact quiet issues issued
  | handled e action next dealt cause issues issued => exact quiet issues issued
  | called c cause issues connected eq =>
    subst eq
    have calls : (r.note s a (s.issue c)).calls = r.calls ++ [c] := by rw [Record.note, issues]
    have hlen : (s.issue c).issued = s.issued ++ [c.handle] := rfl
    have pending : (s.issue c).pending ≤ {c.event s.issued.length} + s.pending :=
      pending_le_of (pending_send_event_le _ _) le_rfl
    have requests : (s.issue c).requests = {s.issued.length} + s.requests := by
      rw [System.requests, System.requests, ← add_assoc]
      refine congrArg (· + _) ((requests_send_event connected _).trans ?_)
      rw [c.event_result_tx]
      rfl
    have fresh : s.issued.length ∉ s.requests := by
      intro hid
      exact absurd (tracked.below _ hid) (by rw [tracked.length]; exact lt_irrefl _)
    refine ⟨?_, fun e he id hid => ?_, ?_, fun id hid => ?_⟩
    · rw [calls, hlen, List.map_append, tracked.calls]
      rfl
    · rw [calls]
      rcases Multiset.mem_add.mp (Multiset.mem_of_le pending he) with he | he
      · obtain rfl := Multiset.mem_singleton.mp he
        rw [c.event_result_tx] at hid
        obtain rfl := Option.some.inj hid
        exact ⟨c, by rw [← tracked.length]; simp, rfl⟩
      · obtain ⟨c₀, hc₀, heq⟩ := tracked.event e he id hid
        refine ⟨c₀, ?_, heq⟩
        rwa [List.getElem?_append_left (List.getElem?_eq_some_iff.mp hc₀).1]
    · rw [requests]
      exact Multiset.nodup_cons.mpr ⟨fresh, tracked.once⟩
    · rw [calls, List.length_append, List.length_singleton]
      rw [requests] at hid
      rcases Multiset.mem_add.mp hid with hid | hid
      · rw [Multiset.mem_singleton.mp hid, tracked.length]
        omega
      · have := tracked.below id hid
        omega

/-- A pending request was not answered. -/
theorem Tracked.not_answered {s : System S} {r : Record} (tracked : Tracked s r)
    {e : OperationEvent} (he : e ∈ s.pending) {id : ResultTx} (hid : e.result_tx = some id) :
    id ∉ s.stack.answers.map Prod.fst := by
  intro ha
  have once := tracked.once
  rw [requests_eq] at once
  exact Multiset.disjoint_left.mp (Multiset.nodup_add.mp once).2.2
    ((Multiset.mem_filterMap _ _).mpr ⟨e, he, hid⟩) ha

/-! ## Faithful records -/

/-- What holds of the record and the state in every run. -/
structure Faithful (s : System S) (r : Record) : Prop where
  tracked : Tracked s r
  future : ∀ id : ℕ, r.calls.length ≤ id → r.Untouched id
  unanswered : ∀ (id : ℕ) c, r.calls[id]? = some c → id ∉ s.stack.answers.map Prod.fst →
    r.Untouched id ∧ s.stack.memory id = c.buf
  answered : ∀ (id : ℕ) a, (id, a) ∈ s.stack.answers →
    ∃ c, r.calls[id]? = some c ∧ Truthful r id (s.stack.memory id) c a

/-- At first nothing is recorded. -/
theorem faithful_new (size : ℕ) (interface : S.Interface) :
    Faithful (new size interface) .empty := by
  have pending : (new size interface).pending = 0 := rfl
  have requests : (new size interface).requests = 0 := rfl
  have answers : (new size interface).stack.answers = [] := rfl
  refine ⟨⟨rfl, ?_, by rw [requests]; exact Multiset.nodup_zero, ?_⟩, fun id _ h => rfl, ?_, ?_⟩
  · simp [pending]
  · simp [requests]
  · simp [Record.empty]
  · simp [answers]

/-- A pending request, its call, and that it has done nothing so far. -/
theorem Faithful.pending {s : System S} {r : Record} (faithful : Faithful s r)
    {e : OperationEvent} (he : e ∈ s.pending) {id : ℕ} (hid : e.result_tx = some id) :
    ∃ c, r.calls[id]? = some c ∧ e = c.event id ∧ r.Untouched id ∧ s.stack.memory id = c.buf := by
  obtain ⟨c, hc, heq⟩ := faithful.tracked.event e he id hid
  obtain ⟨untouched, own⟩ := faithful.unanswered id c hc (faithful.tracked.not_answered he hid)
  exact ⟨c, hc, heq, untouched, own⟩

/-- A step that does nothing for requests, but answer some with errors. -/
theorem Faithful.silent {s s' : System S} {r r' : Record} {pool : Multiset OperationEvent}
    (faithful : Faithful s r) (tracked : Tracked s' r') (calls : r'.calls = r.calls)
    (silent : Silent s.stack pool s'.stack) (pool : ∀ e ∈ pool, e ∈ s.pending)
    (done : ∀ id h, r'.done id h = r.done id h) : Faithful s' r' := by
  have untouched : ∀ {id}, r.Untouched id → r'.Untouched id := fun hu h => (done _ h).trans (hu h)
  obtain ⟨new, answers, declines⟩ := silent.answers
  refine ⟨tracked, fun id hid => ?_, fun id c hc hid => ?_, fun id a ha => ?_⟩
  · rw [calls] at hid
    exact untouched (faithful.future id hid)
  · rw [calls] at hc
    have was : id ∉ s.stack.answers.map Prod.fst := fun hm => hid (by rw [answers]; simp [hm])
    obtain ⟨hu, own⟩ := faithful.unanswered id c hc was
    exact ⟨untouched hu, by rw [silent.memory, own]⟩
  · rw [calls, silent.memory]
    rw [answers] at ha
    rcases List.mem_append.mp ha with ha | ha
    · obtain ⟨c, hc, truthful⟩ := faithful.answered id a ha
      exact ⟨c, hc, truthful.congr (done id)⟩
    · obtain ⟨e, he, hd⟩ := declines _ ha
      obtain ⟨c, hc, rfl, hu, own⟩ := faithful.pending (pool e he) hd.1
      exact ⟨c, hc, .declined hd (untouched hu) own⟩

/-- A step that answers one request. -/
theorem Faithful.answer {s s' : System S} {r r' : Record} {id : ℕ} {a : Answer} {c : Call}
    (faithful : Faithful s r) (tracked : Tracked s' r') (calls : r'.calls = r.calls)
    (answers : s'.stack.answers = s.stack.answers ++ [(id, a)]) (hc : r.calls[id]? = some c)
    (was : id ∉ s.stack.answers.map Prod.fst)
    (truthful : Truthful r' id (s'.stack.memory id) c a)
    (memory : ∀ i : ℕ, i ≠ id → s'.stack.memory i = s.stack.memory i)
    (done : ∀ i : ℕ, i ≠ id → ∀ h, r'.done i h = r.done i h) : Faithful s' r' := by
  have untouched : ∀ {i}, i ≠ id → r.Untouched i → r'.Untouched i :=
    fun hi hu h => (done _ hi h).trans (hu h)
  refine ⟨tracked, fun i hi => ?_, fun i c' hc' hi => ?_, fun i a' ha => ?_⟩
  · rw [calls] at hi
    have hlt := (List.getElem?_eq_some_iff.mp hc).1
    exact untouched (by omega) (faithful.future i hi)
  · rw [calls] at hc'
    have hne : i ≠ id := by
      rintro rfl
      exact hi (by rw [answers]; simp)
    obtain ⟨hu, own⟩ := faithful.unanswered i c' hc' fun hm => hi (by rw [answers]; simp [hm])
    exact ⟨untouched hne hu, by rw [memory i hne, own]⟩
  · rw [calls]
    rw [answers] at ha
    rcases List.mem_append.mp ha with old | new
    · have hne : i ≠ id := by
        -- The request had no answer before, so the old answer is another one's.
        intro hi
        exact was (hi ▸ List.mem_map_of_mem (f := Prod.fst) old)
      obtain ⟨c', hc', truthful'⟩ := faithful.answered i a' old
      exact ⟨c', hc', by rw [memory i hne]; exact truthful'.congr (done i hne)⟩
    · obtain ⟨rfl, rfl⟩ := Prod.mk.inj (List.mem_singleton.mp new)
      exact ⟨c, hc, truthful⟩

/-- The buffer of an issued request has the request's number. -/
theorem memory_of_serves {t : TcpStack S} {c : Call} {id i : ℕ} {s s' : S.Socket}
    {memory : BufferId → IoBuf} {a : Answer} (serves : t.Serves (c.event id) s s' memory a)
    (hi : i ≠ id) : memory i = t.memory i := by
  have filled : ∀ {α : Type} (data : α → Bytes) (res : Except SocketError α),
      t.filled id data res i = t.memory i := by
    intro α data res
    cases res with
    | ok v => exact Function.update_of_ne hi _ _
    | error err => rfl
  cases c with
  | read stream buf => cases serves; exact filled _ _
  | write stream buf => cases serves; rfl
  | shutdown stream => cases serves
  | recv socket buf => cases serves; exact filled _ _
  | send socket buf addr => cases serves; rfl

/-- The buffer of a request that is issued is its own, and sockets are not touched. -/
theorem Faithful.called {s : System S} {r : Record} {a : Action} {c : Call}
    (faithful : Faithful s r) (tracked : Tracked (s.issue c) (r.note s a (s.issue c)))
    (cause : s.cause a = none) (issues : s.issues a = [c]) :
    Faithful (s.issue c) (r.note s a (s.issue c)) := by
  have calls : (r.note s a (s.issue c)).calls = r.calls ++ [c] := by rw [Record.note, issues]
  have untouched : ∀ {id}, r.Untouched id → (r.note s a (s.issue c)).Untouched id :=
    fun hu h' => (Record.done_note_of_ne (by simp [cause]) h').trans (hu h')
  have hlen := faithful.tracked.length
  -- The call brings its buffer under the next number.
  have memory : ∀ id : ℕ, (s.issue c).stack.memory id =
      if id = r.calls.length then c.buf else s.stack.memory id := fun id => by
    rw [hlen]
    exact Function.update_apply _ _ _ _
  have old : ∀ {id : ℕ} {c'}, r.calls[id]? = some c' → id ≠ r.calls.length := fun hc => by
    have := (List.getElem?_eq_some_iff.mp hc).1
    omega
  refine ⟨tracked, fun id hid => ?_, fun id c' hc' hid => ?_, fun id a' ha => ?_⟩
  · rw [calls, List.length_append, List.length_singleton] at hid
    exact untouched (faithful.future id (by omega))
  · rw [calls] at hc'
    by_cases hnew : id = r.calls.length
    · subst hnew
      obtain rfl : c = c' := by simpa using hc'
      exact ⟨untouched (faithful.future _ le_rfl), by rw [memory, if_pos rfl]⟩
    · have hlt := (List.getElem?_eq_some_iff.mp hc').1
      rw [List.length_append, List.length_singleton] at hlt
      rw [List.getElem?_append_left (by omega)] at hc'
      obtain ⟨hu, own⟩ := faithful.unanswered id c' hc' hid
      exact ⟨untouched hu, by rw [memory, if_neg hnew, own]⟩
  · obtain ⟨c', hc', truthful⟩ := faithful.answered id a' ha
    refine ⟨c', ?_, ?_⟩
    · rw [calls, List.getElem?_append_left (List.getElem?_eq_some_iff.mp hc').1, hc']
    · rw [memory, if_neg (old hc')]
      exact truthful.congr fun h' => Record.done_note_of_ne (by simp [cause]) h'

/-- The record sees a served request at its socket, and nothing elsewhere. -/
theorem moved_of_served {s s' : System S} {r : Record} {a : Action} {i tx : ℕ} {s₀ s₁ : S.Socket}
    (untouched : r.Untouched tx) (cause : s.cause a = some tx)
    (socket : s.stack.socket_at i = some s₀)
    (set : s'.stack.socket_set = (s.stack.put i s₁).socket_set) :
    (r.note s a s').Moved tx (S.buffers s₀) (S.buffers s₁) := by
  obtain ⟨g, -, before, after⟩ := buffers_of_served socket s₁
  have after : ∀ h', s'.stack.buffers h' =
      if h' = ⟨i, g⟩ then some (S.buffers s₁) else s.stack.buffers h' := fun h' => by
    rw [buffers_of_socket_set set]
    exact after h'
  refine ⟨⟨i, g⟩, fun h' => ?_⟩
  rw [Record.done_note, untouched h', List.nil_append, cause, after]
  by_cases hh : h' = ⟨i, g⟩
  · subst hh
    simp [before]
  · simp [hh]

/-- A step keeps the record faithful. -/
theorem Faithful.step (spec : S.Spec) {s s' : System S} {a : Action} {r : Record}
    (faithful : Faithful s r) (h : s.step a = some s') : Faithful s' (r.note s a s') := by
  have tracked := faithful.tracked.step spec h
  cases traffic_of_step spec h with
  | silent silent cause issues issued =>
    refine faithful.silent tracked ?_ silent mem_pending_of_stack fun id h' => ?_
    · rw [Record.note, issues, List.append_nil]
    · exact Record.done_note_of_ne (by simp [cause]) h'
  | called c cause issues connected eq =>
    subst eq
    exact faithful.called tracked cause issues
  | handled e action next dealt cause issues issued =>
    have pending := mem_pending_of_next next
    have calls : (r.note s a s').calls = r.calls := by rw [Record.note, issues, List.append_nil]
    cases dealt with
    | silent silent buffers =>
      refine faithful.silent tracked calls silent (mem_pending_of_handled next) fun id h' => ?_
      rcases buffers h' with same | ⟨none, -⟩
      · rw [Record.done_note, if_neg fun hc => hc.2 same, List.append_nil]
      · exact Record.done_note_of_ne (by simp [cause, none]) h'
    | eof handle buffer tx c event found socket drained shut eq =>
      subst event
      obtain ⟨c', hc', heq, untouched, own⟩ := faithful.pending pending rfl
      -- Nothing moves, which is what a Read of no bytes moves.
      have done : ∀ id h', (r.note s a s').done id h' = r.done id h' :=
        Record.done_note_of_same fun h' => by rw [eq]; rfl
      refine faithful.answer tracked calls (by rw [eq]; rfl) hc'
        (faithful.tracked.not_answered pending rfl) ?_ (fun i _ => by rw [eq]; rfl)
        fun i _ => done i
      have untouched : (r.note s a s').Untouched tx := fun h' => (done tx h').trans (untouched h')
      cases c' with
      | read stream buf =>
        have kept : s'.stack.memory tx = buf.fill [] := by
          rw [IoBuf.fill_nil, eq]
          exact own
        exact .read (Nat.zero_le _) (untouched.moved (.tcp [] [] false)) kept
      | _ => cases heq
    | served tx a' s₀ s₁ memory result_tx found socket serves eq =>
      obtain ⟨c, hc, heq, untouched, own⟩ := faithful.pending pending result_tx
      have moved : (r.note s a s').Moved tx (S.buffers s₀) (S.buffers s₁) :=
        moved_of_served untouched (cause.trans result_tx) socket (by rw [eq]; rfl)
      have serves : s.stack.Serves (c.event tx) s₀ s₁ memory a' := heq ▸ serves
      have hmem : s'.stack.memory = memory := by rw [eq]
      refine faithful.answer tracked calls (by rw [eq]; rfl) hc
        (faithful.tracked.not_answered pending result_tx) ?_ (fun i hi => ?_) fun i hi h' => ?_
      · rw [hmem]
        exact truthful_of_serves spec serves own moved
      · rw [hmem]
        exact memory_of_serves serves hi
      · exact Record.done_note_of_ne (by rw [cause, result_tx]; simpa using Ne.symm hi) h'

/-- The record is faithful in every run. -/
theorem faithful_of_run (spec : S.Spec) {size : ℕ} {interface : S.Interface}
    {guard : System S × Record → Action → Prop} {s : System S} {r : Record}
    (run : Run (recording step Record.note) guard (new size interface, .empty) (s, r)) :
    Faithful s r := by
  refine run.invariant (I := fun p => Faithful p.1 p.2) (faithful_new size interface)
    fun p a q _ _ h faithful => ?_
  obtain ⟨step, note⟩ := recording_eq_some.mp h
  rw [note]
  exact faithful.step spec step

/-! ## What answers say -/

section Says

variable {s : System S} {r : Record} {id : ℕ}

/-- A Read, Write, Recv, or Send that is answered with success was not declined. -/
theorem not_declines_ok {c : Call} {reply : Reply}
    (deferred : (c.event id).deferred.isSome = true) :
    ¬ Declines (c.event id) (id, .ok reply) := by
  rintro ⟨-, h⟩
  obtain ⟨err, herr⟩ := h deferred
  cases herr

/-- A Write that was answered `Ok(n)` has put the first `n` bytes of its buffer at the end of one
transmit buffer. -/
theorem Faithful.write_ok (faithful : Faithful s r) {stream : TcpInfo} {buf : IoBuf}
    (call : r.calls[id]? = some (.write stream buf)) {n : ℕ}
    (answer : (id, .ok (.len n)) ∈ s.stack.answers) :
    n ≤ buf.as_slice.length ∧
      ∃ rx tx fin, r.Moved id (.tcp rx tx fin) (.tcp rx (tx ++ buf.as_slice.take n) fin) := by
  obtain ⟨c, hc, truthful⟩ := faithful.answered id _ answer
  obtain rfl : c = .write stream buf := Option.some.inj (hc.symm.trans call)
  cases truthful with
  | declined declines => exact absurd declines (not_declines_ok rfl)
  | wrote le moved => exact ⟨le, _, _, _, moved⟩

/-- A Read that was answered `Ok(n)` has taken the first `n` bytes of one receive buffer, and has
them in front of its own. -/
theorem Faithful.read_ok (faithful : Faithful s r) {stream : TcpInfo} {buf : IoBuf}
    (call : r.calls[id]? = some (.read stream buf)) {n : ℕ}
    (answer : (id, .ok (.len n)) ∈ s.stack.answers) :
    ∃ data rx tx fin, data.length = n ∧ n ≤ buf.capacity ∧
      r.Moved id (.tcp (data ++ rx) tx fin) (.tcp rx tx fin) ∧
      s.stack.memory id = buf.fill data := by
  obtain ⟨c, hc, truthful⟩ := faithful.answered id _ answer
  obtain rfl : c = .read stream buf := Option.some.inj (hc.symm.trans call)
  cases truthful with
  | declined declines => exact absurd declines (not_declines_ok rfl)
  | read le moved filled => exact ⟨_, _, _, _, rfl, le, moved, filled⟩

/-- A Send that was answered `Ok` has queued its datagram at one socket. -/
theorem Faithful.send_ok (faithful : Faithful s r) {socket : UdpInfo} {buf : IoBuf}
    {addr : SocketAddr} (call : r.calls[id]? = some (.send socket buf addr)) {n : ℕ}
    (answer : (id, .ok (.len n)) ∈ s.stack.answers) :
    n = buf.as_slice.length ∧
      ∃ rx tx, r.Moved id (.udp rx tx) (.udp rx (tx ++ [(.from addr, buf.as_slice)])) := by
  obtain ⟨c, hc, truthful⟩ := faithful.answered id _ answer
  obtain rfl : c = .send socket buf addr := Option.some.inj (hc.symm.trans call)
  cases truthful with
  | declined declines => exact absurd declines (not_declines_ok rfl)
  | sent moved => exact ⟨rfl, _, _, moved⟩

/-- A request, other than a Recv, that fails or is not answered has done nothing. -/
theorem Faithful.untouched (faithful : Faithful s r) {c : Call} (call : r.calls[id]? = some c)
    (recv : ∀ socket buf, c ≠ .recv socket buf)
    (failed : (∃ err, (id, .error err) ∈ s.stack.answers) ∨ id ∉ s.stack.answers.map Prod.fst) :
    r.Untouched id ∧ s.stack.memory id = c.buf := by
  rcases failed with ⟨err, answer⟩ | unanswered
  · obtain ⟨c', hc', truthful⟩ := faithful.answered id _ answer
    obtain rfl : c' = c := Option.some.inj (hc'.symm.trans call)
    cases truthful with
    | declined declines untouched kept => exact ⟨untouched, kept⟩
    | truncated longer moved kept => exact absurd rfl (recv _ _)
  · exact faithful.unanswered id c call unanswered

end Says

/-- In every run, a request is answered at most once, and the answers to Writes, Reads, and Sends
tell what these have done.

A Write that is answered `Ok(n)` has appended the first `n` bytes of its buffer to what one socket
transmits, once. A Read that is answered `Ok(n)` has removed the next `n` bytes that one socket has
received, put them at the front of its buffer, and raised the buffer's initialized length to `n`, if
it was less. A Send that is answered `Ok(n)` has queued one datagram with the whole buffer and its
destination at one socket. Those that are answered with an error, or not at all, have done
nothing. -/
theorem answers_truthful (spec : S.Spec) {size : ℕ} {interface : S.Interface} {s : System S}
    {r : Record}
    (run : Reachable (recording step Record.note) (new size interface, .empty) (s, r)) (id : ℕ) :
    (s.stack.answers.map Prod.fst).count id ≤ 1 ∧
    (∀ stream buf, r.calls[id]? = some (.write stream buf) →
      (∀ n, (id, .ok (.len n)) ∈ s.stack.answers → n ≤ buf.as_slice.length ∧
        ∃ rx tx fin, r.Moved id (.tcp rx tx fin) (.tcp rx (tx ++ buf.as_slice.take n) fin)) ∧
      ((∃ err, (id, .error err) ∈ s.stack.answers) ∨ id ∉ s.stack.answers.map Prod.fst →
        r.Untouched id)) ∧
    (∀ stream buf, r.calls[id]? = some (.read stream buf) →
      (∀ n, (id, .ok (.len n)) ∈ s.stack.answers → ∃ data rx tx fin,
        data.length = n ∧ n ≤ buf.capacity ∧
        r.Moved id (.tcp (data ++ rx) tx fin) (.tcp rx tx fin) ∧
        (s.stack.memory id).bytes = data ++ buf.bytes.drop n ∧
        (s.stack.memory id).buf_len = max buf.buf_len n) ∧
      ((∃ err, (id, .error err) ∈ s.stack.answers) ∨ id ∉ s.stack.answers.map Prod.fst →
        r.Untouched id ∧ s.stack.memory id = buf)) ∧
    ∀ socket buf addr, r.calls[id]? = some (.send socket buf addr) →
      (∀ n, (id, .ok (.len n)) ∈ s.stack.answers → n = buf.as_slice.length ∧
        ∃ rx tx, r.Moved id (.udp rx tx) (.udp rx (tx ++ [(.from addr, buf.as_slice)]))) ∧
      ((∃ err, (id, .error err) ∈ s.stack.answers) ∨ id ∉ s.stack.answers.map Prod.fst →
        r.Untouched id) := by
  have faithful := faithful_of_run spec run
  refine ⟨?_, fun stream buf call => ⟨fun n => faithful.write_ok call, fun failed => ?_⟩,
    fun stream buf call => ⟨fun n answer => ?_, faithful.untouched call (by simp)⟩,
    fun socket buf addr call => ⟨fun n => faithful.send_ok call, fun failed => ?_⟩⟩
  · exact List.nodup_iff_count_le_one.mp faithful.tracked.answered_once id
  · exact (faithful.untouched call (by simp) failed).1
  · obtain ⟨data, rx, tx, fin, rfl, le, moved, filled⟩ := faithful.read_ok call answer
    exact ⟨data, rx, tx, fin, rfl, le, moved, by rw [filled]; rfl, by rw [filled]; rfl⟩
  · exact (faithful.untouched call (by simp) failed).1

open Reference in
/-- A Read that is parked before its data comes, and sent again by its waker. -/
def parked_read (buf : IoBuf) : List Action := [
  .start (some (syn 1 2)) 0 none, .finish, .start (some (ack 1 2 [])) 0 none, .finish,
  .generate, .start none 0 (some 0), .event, .finish, .accept_tcp,
  .call (.read ⟨⟨0, 0⟩, client_addr 1, server_addr 2⟩ buf), .generate,
  .start none 0 (some 0), .event, .finish, .start (some (ack 1 2 [7])) 0 none, .finish,
  .generate, .start none 0 (some 0), .event, .finish]

open Reference in
/-- A Read of one byte into a buffer with three initialized bytes leaves all three initialized. -/
theorem read_keeps_length : ∃ s : System reference,
    exec step (new 64 ()) (parked_read ⟨[1, 2, 3, 4], 3⟩) = some s ∧
    (0, .ok (.len 1)) ∈ s.stack.answers ∧ s.stack.memory 0 = ⟨[7, 2, 3, 4], 3⟩ := by
  obtain ⟨s, hs, ht⟩ := exists_of_exec_any step (new 64 () : System reference)
    (parked_read ⟨[1, 2, 3, 4], 3⟩)
    (fun s => (0, .ok (.len 1)) ∈ s.stack.answers ∧ s.stack.memory 0 = ⟨[7, 2, 3, 4], 3⟩)
    (by decide +kernel)
  exact ⟨s, hs, of_decide_eq_true ht⟩

open Reference in
/-- The byte that the parked Read returns is the one that its socket had received. -/
theorem answers_truthful_parked : ∃ (s : System reference) (r : Record),
    Reachable (recording step Record.note) (new 64 (), .empty) (s, r) ∧
    r.calls[0]? = some (.read ⟨⟨0, 0⟩, client_addr 1, server_addr 2⟩ ⟨[1, 2], 0⟩) ∧
    (0, .ok (.len 1)) ∈ s.stack.answers ∧
    ∃ data rx tx fin, data.length = 1 ∧ 1 ≤ 2 ∧
      r.Moved 0 (.tcp (data ++ rx) tx fin) (.tcp rx tx fin) ∧
      (s.stack.memory 0).bytes = data ++ [2] ∧ (s.stack.memory 0).buf_len = max 0 1 := by
  obtain ⟨⟨s, r⟩, hs, ht⟩ := exists_of_exec_any (recording step Record.note)
    ((new 64 () : System reference), Record.empty) (parked_read ⟨[1, 2], 0⟩)
    (fun p => p.2.calls[0]? =
        some (.read ⟨⟨0, 0⟩, client_addr 1, server_addr 2⟩ ⟨[1, 2], 0⟩) ∧
      (0, .ok (.len 1)) ∈ p.1.stack.answers)
    (by decide +kernel)
  obtain ⟨call, answer⟩ := of_decide_eq_true ht
  have run := Run.of_exec hs
  exact ⟨s, r, run, call, answer,
    ((answers_truthful reference_spec run 0).2.2.1 _ _ call).1 1 answer⟩

end System

end L3Extract
