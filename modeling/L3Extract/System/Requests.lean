import L3Extract.Stack.Order
import L3Extract.System.Retention

/-!
# Every request is answered once

Each direction of a socket has one waker, which several requests share: a second Read, a second
Write, or a Shutdown after a Write overwrites the waker of the one that waits there. The request
that waited is then nowhere, and its call returns an error (`request_dropped`).

`request_kept` says that requests get lost in no other way. As long as no waker of a request on a
live stream is overwritten, the request is pending once, in the channel, in a waker, or in a batch,
or it was answered once.
-/

namespace L3Extract

open OperationEvent Transition TcpStack

variable {S : Smoltcp}

namespace System

/-- Besides `Retains`: no request on a stream in a user's hands waits where the next event is
parked. -/
def KeepsRequests (s : System S) : Action → Prop
  | .event => ∀ e ∈ s.next_event, ∀ side ∈ s.stack.parks e, ∀ w ∈ s.stack.waker e.index side,
      w.result_tx.isSome = true → w.handle ∉ s.streams
  | a => s.Retains a

instance (s : System S) (a : Action) : Decidable (s.KeepsRequests a) := by
  unfold KeepsRequests
  split <;> infer_instance

/-- The same for the one request `id`. -/
def KeepsRequest (s : System S) (id : ResultTx) : Action → Prop
  | .event => ∀ e ∈ s.next_event, ∀ side ∈ s.stack.parks e, ∀ w ∈ s.stack.waker e.index side,
      w.result_tx = some id → w.handle ∉ s.streams
  | a => s.Retains a

instance (s : System S) (id : ResultTx) (a : Action) : Decidable (s.KeepsRequest id a) := by
  unfold KeepsRequest
  split <;> infer_instance

/-- What keeps all requests keeps each of them. -/
theorem KeepsRequests.request {s : System S} {a : Action} (guard : s.KeepsRequests a)
    (id : ResultTx) : s.KeepsRequest id a := by
  cases a with
  | event =>
    exact fun e next side parks w hw result_tx =>
      guard e next side parks w hw (Option.isSome_of_eq_some result_tx)
  | _ => exact guard

/-- What keeps a request retains the events. -/
theorem KeepsRequest.retains {s : System S} {id : ResultTx} {a : Action}
    (guard : s.KeepsRequest id a) : s.Retains a := by
  cases a with
  | event => trivial
  | _ => exact guard

/-- What holds of the requests that were issued: a pending one is for the socket it was issued for,
no other numbers than theirs are in use, and their sockets are beyond the acceptors. -/
structure Issued (s : System S) : Prop where
  handle : ∀ e ∈ s.pending, ∀ id, e.result_tx = some id → s.issued[id]? = some e.handle
  not_info : ∀ h ∈ s.issued, h ∉ s.infos
  not_ready : ∀ h ∈ s.issued, .ready h ∉ s.pending
  old : ∀ h ∈ s.issued, h.handle.incarnation < s.stack.socket_set.next

/-- A step that issues no request. -/
theorem Issued.of_same {s s' : System S} (issued : Issued s) (same : s'.issued = s.issued)
    (handle : ∀ e ∈ s'.pending, ∀ id, e.result_tx = some id → e ∈ s.pending)
    (info : ∀ h ∈ s.issued, h ∈ s'.infos → h ∈ s.infos)
    (ready : ∀ h ∈ s.issued, .ready h ∈ s'.pending → .ready h ∈ s.pending)
    (next : s.stack.socket_set.next ≤ s'.stack.socket_set.next) : Issued s' where
  handle e he id hid := by
    rw [same]
    exact issued.handle e (handle e he id hid) id hid
  not_info h hh hi := by
    rw [same] at hh
    exact issued.not_info h hh (info h hh hi)
  not_ready h hh hr := by
    rw [same] at hh
    exact issued.not_ready h hh (ready h hh hr)
  old h hh := by
    rw [same] at hh
    exact (issued.old h hh).trans_le next

/-- The user who issues a request owns the socket, so nothing else does. -/
theorem Issued.requested {s s' : System S} {c : Call} (sound : Sound s) (issued : Issued s)
    (held : c.handle ∈ s.streams) (same : SameTables s.stack s'.stack)
    (pending : s'.pending ≤ {c.event s.issued.length} + s.pending) (infos : s'.infos = s.infos)
    (hi : s'.issued = s.issued ++ [c.handle]) : Issued s' := by
  have new : ∀ {h}, h ∈ s'.issued → h ∈ s.issued ∨ h = c.handle := fun hh => by
    rw [hi] at hh
    simpa using hh
  have hready : ∀ {h}, .ready h ∈ s'.pending → .ready h ∈ s.pending := by
    intro h hr
    rcases Multiset.mem_add.mp (Multiset.mem_of_le pending hr) with hr | hr
    · have htx := c.event_result_tx s.issued.length
      rw [← Multiset.mem_singleton.mp hr] at htx
      cases htx
    · exact hr
  have alone := Multiset.nodup_add.mp sound.owned.nodup
  refine ⟨fun e he id hid => ?_, fun h hh hinfo => ?_, fun h hh hr => ?_, fun h hh => ?_⟩
  · rw [hi]
    rcases Multiset.mem_add.mp (Multiset.mem_of_le pending he) with he | he
    · rw [Multiset.mem_singleton.mp he] at hid ⊢
      rw [c.event_result_tx] at hid
      cases hid
      rw [c.event_handle]
      simp
    · have hlt := issued.handle e he id hid
      rwa [List.getElem?_append_left (List.getElem?_eq_some_iff.mp hlt).1]
  · rw [infos] at hinfo
    rcases new hh with hh | rfl
    · exact issued.not_info h hh hinfo
    · exact Multiset.disjoint_left.mp alone.2.2 (Multiset.mem_add.mpr (.inr hinfo)) held
  · rcases new hh with hh | rfl
    · exact issued.not_ready h hh (hready hr)
    · refine Multiset.disjoint_left.mp alone.2.2 (Multiset.mem_add.mpr (.inl ?_)) held
      exact (Multiset.mem_filterMap _ _).mpr ⟨_, hready hr, rfl⟩
  · rw [same.next]
    rcases new hh with hh | rfl
    · exact issued.old h hh
    · exact Arena.gen_lt_next (sound.owned.refers _ (mem_owners_of_streams held)).1

/-- A step issues a request once. -/
theorem Issued.step {s s' : System S} {a : Action} (sound : Sound s) (issued : Issued s)
    (effect : Effect s a s') : Issued s' := by
  cases effect with
  | kept same pending infos streams delivered hi =>
    exact issued.of_same hi (fun e he _ _ => Multiset.mem_of_le pending he)
      (fun h _ hh => Multiset.mem_of_le infos hh) (fun h _ hr => Multiset.mem_of_le pending hr)
      same.next.ge
  | admitted packet now batch h socket accepted action opens admits pending infos streams delivered
      hi =>
    refine issued.of_same hi (fun e he id hid => ?_) (fun h' _ hh => by rwa [infos] at hh)
      (fun h' hh' hr => ?_) (by rw [admits.next]; omega)
    · rcases Multiset.mem_add.mp (Multiset.mem_of_le pending he) with he | he
      · rw [Multiset.mem_singleton.mp he] at hid
        cases hid
      · exact he
    · rcases Multiset.mem_add.mp (Multiset.mem_of_le pending hr) with hr | hr
      · -- The new socket is none that a request was issued for.
        obtain rfl : h' = h := by simpa using hr
        have hlt := issued.old h' hh'
        rw [admits.handle] at hlt
        exact absurd hlt (lt_irrefl _)
      · exact hr
  | removed h next removes pending infos streams delivered hi =>
    have old : ∀ {e}, e ∈ s'.pending → e ∈ s.pending :=
      fun he => Multiset.mem_of_le pending (Multiset.mem_add.mpr (.inr he))
    exact issued.of_same hi (fun e he _ _ => old he) (fun h' _ hh => by rwa [infos] at hh)
      (fun h' _ hr => old hr) removes.next.ge
  | delivered h next same pending infos streams delivered hi =>
    have old : ∀ {e}, e ∈ s'.pending → e ∈ s.pending :=
      fun he => Multiset.mem_of_le pending (Multiset.mem_add.mpr (.inr he))
    refine issued.of_same hi (fun e he _ _ => old he) (fun h' hh' hh => ?_) (fun h' _ hr => old hr)
      same.next.ge
    rcases Multiset.mem_add.mp (Multiset.mem_of_le infos (Multiset.mem_coe.mpr hh)) with hh | hh
    · obtain rfl := Multiset.mem_singleton.mp hh
      exact absurd (mem_pending_of_next next) (issued.not_ready h' hh')
    · exact hh
  | accepted h same pending infos streams delivered hi =>
    refine issued.of_same hi (fun e he _ _ => by rwa [pending] at he) (fun h' _ hh => ?_)
      (fun h' _ hr => by rwa [pending] at hr) same.next.ge
    rw [← Multiset.mem_coe, infos]
    exact Multiset.mem_add.mpr (.inr hh)
  | requested c action held same pending infos streams delivered hi =>
    exact issued.requested sound held same pending infos hi
  | dropped h same pending infos streams delivered hi =>
    have old : ∀ {e}, e ∈ s'.pending → e ≠ .close h → e ∈ s.pending := by
      intro e he hne
      rcases Multiset.mem_add.mp (Multiset.mem_of_le pending he) with he | he
      · exact absurd (Multiset.mem_singleton.mp he) hne
      · exact he
    refine issued.of_same hi (fun e he id hid => old he ?_) (fun h' _ hh => by rwa [infos] at hh)
      (fun h' _ hr => old hr (by simp)) same.next.ge
    rintro rfl
    cases hid

/-- Every request was issued once, in every run. -/
theorem issued_of_run {size : ℕ} {interface : S.Interface} {guard : System S → Action → Prop}
    {s : System S} (run : Run step guard (new size interface) s) : Issued s := by
  refine run.invariant (I := Issued) ?_ fun _ _ _ hr _ h issued =>
    issued.step (sound_of_run hr) (effect_of_steps (steps_of_step h))
  have hp : (new size interface).pending = 0 := rfl
  have hi : (new size interface).issued = [] := rfl
  exact ⟨by simp [hp], by simp [hi], by simp [hi], by simp [hi]⟩

/-- The buffer of a request has the request's number. -/
def Buffered (s : System S) : Prop :=
  ∀ e ∈ s.pending, ∀ b : ℕ, e.buffer = some b → e.result_tx = some b

/-- In every run a request has its own buffer. -/
theorem buffered_of_run {size : ℕ} {interface : S.Interface} {guard : System S → Action → Prop}
    {s : System S} (run : Run step guard (new size interface) s) : Buffered s :=
  pending_of_run (fun h b hb => by cases hb) (fun h b hb => by cases hb)
    (fun c id b hb => by cases c <;> cases hb <;> rfl) run

/-- The calls of the users meet what `batch_in_passes` asks of requests. -/
theorem apart_of_run {size : ℕ} {interface : S.Interface} {guard : System S → Action → Prop}
    {s : System S} (run : Run step guard (new size interface) s) {events : List OperationEvent}
    (collected : ∀ e ∈ events, e ∈ s.pending) (k : Protocol × ℕ) : s.stack.Apart events k := by
  have issued := issued_of_run run
  have buffered := buffered_of_run run
  have pending : ∀ e ∈ (↑events : Multiset OperationEvent) + s.stack.parked, e ∈ s.pending := by
    intro e he
    rcases Multiset.mem_add.mp he with he | he
    · exact collected e he
    · exact Multiset.mem_add.mpr (.inl (Multiset.mem_add.mpr (.inr he)))
  -- Two requests with one number are for one handle.
  have same : ∀ {e e' : OperationEvent} {id : ℕ}, e ∈ s.pending → e' ∈ s.pending →
      e.result_tx = some id → e'.result_tx = some id → e'.handle = e.handle := by
    intro e e' id he he' hid hid'
    exact Option.some.inj ((issued.handle e' he' id hid').symm.trans (issued.handle e he id hid))
  intro e he e' he' hk hk'
  refine ⟨fun some heq => ?_, fun some heq => ?_⟩
  · obtain ⟨id, hid⟩ := Option.isSome_iff_exists.mp some
    refine hk' ?_
    rw [same (pending e he) (pending e' he') hid (heq.trans hid), hk]
  · obtain ⟨b, hb⟩ := Option.isSome_iff_exists.mp some
    refine hk' ?_
    rw [same (pending e he) (pending e' he') (buffered e (pending e he) b hb)
      (buffered e' (pending e' he') b (heq.trans hb)), hk]

/-- A stream that is there after a step, and that a request was issued on before, was there. -/
theorem mem_streams_of_effect {s s' : System S} {a : Action} {h : TypedSocketHandle}
    (issued : Issued s) (hh : h ∈ s.issued) (effect : Effect s a s') (held : h ∈ s'.streams) :
    h ∈ s.streams := by
  cases effect with
  | accepted h' same pending infos streams =>
    rw [← Multiset.mem_coe, streams] at held
    rcases Multiset.mem_add.mp held with held | held
    · obtain rfl := Multiset.mem_singleton.mp held
      refine absurd ?_ (issued.not_info h hh)
      rw [← Multiset.mem_coe, infos]
      exact Multiset.mem_add.mpr (.inl (Multiset.mem_singleton_self h))
    · exact held
  | dropped h' same pending infos streams =>
    rw [← Multiset.mem_coe, streams]
    exact Multiset.mem_add.mpr (.inr held)
  | kept same pending infos streams => rwa [streams] at held
  | admitted packet now batch h' socket accepted action opens admits pending infos streams =>
    rwa [streams] at held
  | removed h' next removes pending infos streams => rwa [streams] at held
  | delivered h' next same pending infos streams => rwa [streams] at held
  | requested c action held' same pending infos streams => rwa [streams] at held

/-- The account of the request `id`: it is there once while its stream is live, and no number is
used before it is given out. -/
structure Accounted (s : System S) (id : ℕ) : Prop where
  once : ∀ h, s.issued[id]? = some h → h ∈ s.streams → s.requests.count id = 1
  below : ∀ i : ℕ, i ∈ s.requests → i < s.issued.length

/-- The request is not lost while its stream is live, under the guard. -/
theorem not_lost {s : System S} {e e₀ : OperationEvent} {id : ResultTx}
    (sound : Sound s) (placed : s.stack.Placed) (issued : Issued s)
    (guard : s.KeepsRequest id .event) (next : s.next_event = some e) (loses : s.stack.Loses e e₀)
    (hid : e₀.result_tx = some id) {h : TypedSocketHandle} (hh : s.issued[id]? = some h) :
    h ∉ s.streams := by
  intro held
  obtain ⟨i, side, hw, hcase⟩ : ∃ i side, s.stack.waker i side = some e₀ ∧
      ((s.stack.parks e = some side ∧ i = e.index) ∨
        ∃ h', e = .close h' ∧ i = h'.handle.index) := by
    rcases loses with ⟨side, parks, hw⟩ | ⟨h', side, he, hw⟩
    · exact ⟨_, side, hw, .inl ⟨parks, rfl⟩⟩
    · exact ⟨_, side, hw, .inr ⟨h', he, rfl⟩⟩
  have pending : e₀ ∈ s.pending := Multiset.mem_add.mpr (.inl (mem_pending_of_waker hw))
  have hhandle := issued.handle e₀ pending id hid
  rw [hh] at hhandle
  cases hhandle
  rcases hcase with ⟨parks, rfl⟩ | ⟨h', rfl, rfl⟩
  · exact guard e next side parks e₀ hw hid held
  · -- The Close and the stream would both own the socket.
    have refers := sound.owned.refers _ (mem_owners_of_streams held)
    have refers' := sound.contains_of_next next rfl
    have heq : e₀.handle = h' := refers.unique refers'.1 (placed _ _ _ hw).1
    have alone := Multiset.nodup_add.mp sound.owned.nodup
    refine Multiset.disjoint_left.mp alone.2.2 (Multiset.mem_add.mpr (.inl ?_)) held
    exact (Multiset.mem_filterMap _ _).mpr
      ⟨_, mem_pending_of_next next, by rw [heq]; rfl⟩

/-- A step that keeps the request leaves it accounted for. -/
theorem Accounted.step {s s' : System S} {a : Action} {id : ℕ} (sound : Sound s)
    (placed : s.stack.Placed) (issued : Issued s)
    (connected : s.stack.operation_event.connected = true) (guard : s.KeepsRequest id a)
    (h : s.step a = some s') (accounted : Accounted s id) : Accounted s' id := by
  have effect := effect_of_steps (steps_of_step h)
  cases request_step h guard.retains connected with
  | kept lost loses hissued requests =>
    refine ⟨fun h hid held => ?_, fun i hi => ?_⟩
    · rw [hissued] at hid
      have held := mem_streams_of_effect issued (List.mem_of_getElem? hid) effect held
      have hcount := accounted.once h hid held
      -- The guard keeps the request of a live stream from being lost.
      have hlost : id ∉ lost.filterMap result_tx := by
        intro hm
        obtain ⟨e₀, h₀, htx⟩ := (Multiset.mem_filterMap _ _).mp hm
        obtain ⟨e, rfl, next, hl⟩ := loses e₀ h₀
        exact not_lost sound placed issued guard next hl htx hid held
      rw [← requests, Multiset.count_add, Multiset.count_eq_zero.mpr hlost] at hcount
      exact hcount
    · rw [hissued]
      refine accounted.below i ?_
      rw [← requests]
      exact Multiset.mem_add.mpr (.inl hi)
  | issued c held hissued requests =>
    have hlen : s'.issued.length = s.issued.length + 1 := by rw [hissued]; simp
    refine ⟨fun h hid held' => ?_, fun i hi => ?_⟩
    · rw [requests, Multiset.count_add, Multiset.count_singleton]
      by_cases hnew : id = s.issued.length
      · have hzero : id ∉ s.requests := fun hm => absurd (accounted.below id hm) (by omega)
        rw [if_pos hnew, Multiset.count_eq_zero.mpr hzero]
      · have hlt : id < s.issued.length := by
          have := (List.getElem?_eq_some_iff.mp hid).1
          omega
        rw [hissued, List.getElem?_append_left hlt] at hid
        rw [if_neg hnew, zero_add]
        exact accounted.once h hid
          (mem_streams_of_effect issued (List.mem_of_getElem? hid) effect held')
    · rw [hlen]
      rw [requests] at hi
      rcases Multiset.mem_add.mp hi with hi | hi
      · rw [Multiset.mem_singleton.mp hi]
        omega
      · have := accounted.below i hi
        omega

/-- In every run that keeps the request it is accounted for. -/
theorem accounted_of_run {size : ℕ} {interface : S.Interface} {s : System S} {id : ℕ}
    (run : Run step (·.KeepsRequest id) (new size interface) s) : Accounted s id :=
  run.invariant (I := (Accounted · id))
    ⟨fun h hid => by simp [new] at hid, fun i hi => by
      rw [show (new size interface).requests = 0 from rfl] at hi
      exact absurd hi (Multiset.notMem_zero i)⟩
    fun _ _ _ hr guard h accounted => accounted.step (sound_of_run hr) (placed_of_run hr)
      (issued_of_run hr) (connected_of_run (fun _ _ => KeepsRequest.retains) hr) guard h

/-- A request is either pending, in one place, or was answered, and that once, while its stream is
there and in a run in which it is not parked over. -/
theorem kept_of_run {size : ℕ} {interface : S.Interface} {s : System S} {id : ℕ}
    (run : Run step (·.KeepsRequest id) (new size interface) s) {h : TypedSocketHandle}
    (issued : s.issued[id]? = some h) (held : h ∈ s.streams) :
    ((s.pending.filterMap result_tx).count id = 1 ∧ id ∉ s.stack.answers.map Prod.fst) ∨
      id ∉ s.pending.filterMap result_tx ∧ (s.stack.answers.map Prod.fst).count id = 1 := by
  have once := (accounted_of_run run).once h issued held
  rw [requests_eq, Multiset.count_add, Multiset.coe_count] at once
  rcases Nat.add_eq_one_iff.mp once with ⟨hp, ha⟩ | ⟨hp, ha⟩
  · exact .inr ⟨Multiset.count_eq_zero.mp hp, ha⟩
  · exact .inl ⟨hp, List.count_eq_zero.mp ha⟩

/-- In a run in which no request is parked over one on a stream that is still there, every request
on a stream that is still there is either pending, in one place, or was answered, and that once. -/
theorem request_kept {size : ℕ} {interface : S.Interface} {s : System S}
    (run : Run step KeepsRequests (new size interface) s) (id : ResultTx) (h : TypedSocketHandle)
    (issued : s.issued[(id : ℕ)]? = some h) (held : h ∈ s.streams) :
    ((s.pending.filterMap result_tx).count id = 1 ∧ id ∉ s.stack.answers.map Prod.fst) ∨
      id ∉ s.pending.filterMap result_tx ∧ (s.stack.answers.map Prod.fst).count id = 1 :=
  kept_of_run (run.mono fun _ _ guard => guard.request id) issued held

open Reference in
/-- A connection with one Read after the other, given to `drive_once` in one batch. -/
def two_reads : List Action := [
  .start (some (syn 1 2)) 0 none, .finish, .start (some (ack 1 2 [])) 0 none, .finish,
  .generate, .start none 0 (some 0), .event, .finish, .accept_tcp,
  .call (.read ⟨⟨0, 0⟩, client_addr 1, server_addr 2⟩ ⟨[0, 0], 0⟩),
  .call (.read ⟨⟨0, 0⟩, client_addr 1, server_addr 2⟩ ⟨[0, 0], 0⟩), .generate,
  .start none 0 (some 0), .event, .event, .finish]

/-- The second Read takes the place of the first, which is then neither pending nor answered, while
its call is still running. -/
theorem request_dropped : ∃ s : System reference,
    execIf step (fun s a => s.Retains a) (new 64 ()) two_reads = some s ∧
    s.issued[0]? = some (.tcp ⟨0, 0⟩) ∧ .tcp ⟨0, 0⟩ ∈ s.streams ∧
    ⟨.tcp ⟨0, 0⟩, 0⟩ ∈ s.futures ∧ 0 ∉ s.pending.filterMap result_tx ∧
    0 ∉ s.stack.answers.map Prod.fst := by
  obtain ⟨s, hs, ht⟩ := exists_of_execIf_any step (new 64 () : System reference)
    (fun s a => s.Retains a) two_reads
    (fun s => s.issued[0]? = some (.tcp ⟨0, 0⟩) ∧ .tcp ⟨0, 0⟩ ∈ s.streams ∧
      ⟨.tcp ⟨0, 0⟩, 0⟩ ∈ s.futures ∧ 0 ∉ s.pending.filterMap result_tx ∧
      0 ∉ s.stack.answers.map Prod.fst)
    (by decide +kernel)
  exact ⟨s, hs, of_decide_eq_true ht⟩

open Reference in
/-- A Read and a Write that run at the same time are both there. -/
theorem request_kept_read_write : ∃ s : System reference,
    Run step KeepsRequests (new 64 ()) s ∧ s.issued[0]? = some (.tcp ⟨0, 0⟩) ∧
    (((s.pending.filterMap result_tx).count 0 = 1 ∧ 0 ∉ s.stack.answers.map Prod.fst) ∨
      0 ∉ s.pending.filterMap result_tx ∧ (s.stack.answers.map Prod.fst).count 0 = 1) := by
  obtain ⟨s, hs, ht⟩ := exists_of_execIf_any step (new 64 () : System reference)
    (fun s a => s.KeepsRequests a)
    [
      .start (some (syn 1 2)) 0 none, .finish, .start (some (ack 1 2 [])) 0 none, .finish,
      .generate, .start none 0 (some 0), .event, .finish, .accept_tcp,
      .call (.read ⟨⟨0, 0⟩, client_addr 1, server_addr 2⟩ ⟨[0, 0], 0⟩),
      .call (.write ⟨⟨0, 0⟩, client_addr 1, server_addr 2⟩ ⟨[7, 8], 2⟩), .generate,
      .start none 0 (some 0), .event, .event, .finish]
    (fun s => s.issued[0]? = some (.tcp ⟨0, 0⟩) ∧ .tcp ⟨0, 0⟩ ∈ s.streams)
    (by decide +kernel)
  obtain ⟨issued, held⟩ := of_decide_eq_true ht
  have run : Run step KeepsRequests (new 64 ()) s :=
    .of_execIf (fun _ _ h => of_decide_eq_true h) hs
  exact ⟨s, run, issued, request_kept run 0 _ issued held⟩

end System

end L3Extract
