import L3Extract.Smoltcp.Reference
import L3Extract.Stack.View

/-!
# The operations of one socket in a batch

`drive_once` does not handle a batch in order: for each handle, Ready, Shutdown, and Close come
before Read, Write, Recv, and Send. Events of different handles do not disturb each other, so what
becomes of one handle is determined by its own events in that order (`batch_in_passes`). This is the
order of the batch when no Ready, Shutdown, or Close of the handle comes after one of its other
events; otherwise it is not, and a Write that was sent before a Shutdown is refused
(`write_after_shutdown`).
-/

namespace L3Extract

open OperationEvent Transition

variable {S : Smoltcp}

namespace TcpStack

variable {k : Protocol × ℕ} {T : Set ResultTx} {B : Set BufferId}

/-! ## The order of one handle's events -/

/-- The result channels of the handle's requests, in a batch and in wakers. -/
def own_channels (t : TcpStack S) (events : List OperationEvent) (k : Protocol × ℕ) :
    Set ResultTx :=
  {tx | ∃ e ∈ (↑events : Multiset OperationEvent) + t.parked, e.handle.key = k ∧
    e.result_tx = some tx}

/-- The buffers of the handle's requests, in a batch and in wakers. -/
def own_buffers (t : TcpStack S) (events : List OperationEvent) (k : Protocol × ℕ) :
    Set BufferId :=
  {b | ∃ e ∈ (↑events : Multiset OperationEvent) + t.parked, e.handle.key = k ∧
    e.buffer = some b}

/-- The handle's requests share no result channel and no buffer with requests of others: every call
makes a result channel of its own, and brings its own buffer. -/
def Apart (t : TcpStack S) (events : List OperationEvent) (k : Protocol × ℕ) : Prop :=
  ∀ e ∈ (↑events : Multiset OperationEvent) + t.parked,
    ∀ e' ∈ (↑events : Multiset OperationEvent) + t.parked,
      e.handle.key = k → e'.handle.key ≠ k →
        (e.result_tx.isSome = true → e'.result_tx ≠ e.result_tx) ∧
        (e.buffer.isSome = true → e'.buffer ≠ e.buffer)

instance (t : TcpStack S) (events : List OperationEvent) (k : Protocol × ℕ) :
    Decidable (t.Apart events k) :=
  have (e : OperationEvent) : Decidable (∀ e' ∈ (↑events : Multiset OperationEvent) + t.parked,
      e.handle.key = k → e'.handle.key ≠ k →
        (e.result_tx.isSome = true → e'.result_tx ≠ e.result_tx) ∧
        (e.buffer.isSome = true → e'.buffer ≠ e.buffer)) :=
    Multiset.decidableForallMultiset
  Multiset.decidableForallMultiset

/-- An event that is apart from others keeps to the channels and buffers of its handle. -/
theorem Apart.separate {t : TcpStack S} {events : List OperationEvent} (apart : t.Apart events k)
    {e : OperationEvent} (he : e ∈ (↑events : Multiset OperationEvent) + t.parked) :
    Separate k (t.own_channels events k) (t.own_buffers events k) e where
  result_tx tx htx := by
    refine ⟨?_, fun hk => ⟨e, he, hk, htx⟩⟩
    rintro ⟨e', he', hk', htx'⟩
    by_contra hk
    exact (apart e' he' e he hk' hk).1 (by rw [htx']; rfl) (htx.trans htx'.symm)
  buffer b hb := by
    refine ⟨?_, fun hk => ⟨e, he, hk, hb⟩⟩
    rintro ⟨e', he', hk', hb'⟩
    by_contra hk
    exact (apart e' he' e he hk' hk).2 (by rw [hb']; rfl) (hb.trans hb'.symm)

/-- The order in which `drive_once` handles the events of one handle. -/
def in_passes (events : List OperationEvent) : List OperationEvent :=
  (events.filter fun e => e.deferred = none) ++ events.filter fun e => e.deferred.isSome

/-- No Ready, Shutdown, or Close comes after another event. -/
def Ordered (events : List OperationEvent) : Prop :=
  events.Pairwise fun e e' => e.deferred.isSome = true → e'.deferred.isSome = true

instance (events : List OperationEvent) : Decidable (Ordered events) := by
  unfold Ordered
  infer_instance

/-- The passes leave a list in order as it is. -/
theorem in_passes_of_ordered {events : List OperationEvent} (ordered : Ordered events) :
    in_passes events = events := by
  induction events with
  | nil => rfl
  | cons e events ih =>
    obtain ⟨first, rest⟩ := List.pairwise_cons.mp ordered
    cases he : e.deferred with
    | none =>
      have ih := ih rest
      simp only [in_passes] at ih
      simp only [in_passes, List.filter_cons, he, decide_true, if_true, Option.isSome_none,
        Bool.false_eq_true, if_false, List.cons_append, ih]
    | some p =>
      -- All later events are put off, too.
      have later : ∀ e' ∈ events, e'.deferred.isSome = true := fun e' h' =>
        first e' h' (by rw [he]; rfl)
      have hnone : (events.filter fun e => e.deferred = none) = [] :=
        List.filter_eq_nil_iff.mpr fun e' h' hd => by
          have := later e' h'
          rw [of_decide_eq_true hd] at this
          cases this
      simp only [in_passes, List.filter_cons, he, Option.isSome_some, if_true, hnone,
        List.filter_eq_self.mpr later, reduceCtorEq, decide_false, Bool.false_eq_true, if_false,
        List.nil_append]

/-- Of a batch, `drive_once` handles the events of one handle in the order `in_passes`. -/
theorem passes_own (events : List OperationEvent) (k : Protocol × ℕ) :
    (passes events).filter (is_own k) = in_passes (events.filter (is_own k)) := by
  have comm : ∀ q : OperationEvent → Bool,
      (events.filter q).filter (is_own k) = (events.filter (is_own k)).filter q := fun q => by
    rw [List.filter_filter, List.filter_filter]
    exact List.filter_congr fun e _ => Bool.and_comm _ _
  have protocol : ∀ e ∈ events.filter (is_own k), ∀ p, e.deferred = some p → p = k.1 := by
    intro e he p hp
    have hk := of_decide_eq_true (List.mem_filter.mp he).2
    rw [← hk]
    exact (protocol_of_deferred hp).symm
  -- The events that are put off have the protocol of the handle.
  have put_off : ((events.filter (is_own k)).filter fun e => e.deferred.isSome) =
      (events.filter (is_own k)).filter (fun e => e.deferred = some .tcp) ++
        (events.filter (is_own k)).filter fun e => e.deferred = some .udp := by
    have only : ∀ p, p ≠ k.1 →
        (events.filter (is_own k)).filter (fun e => e.deferred = some p) = [] := fun p hp =>
      List.filter_eq_nil_iff.mpr fun e he hd => hp (protocol e he p (of_decide_eq_true hd))
    have all : (events.filter (is_own k)).filter (fun e => e.deferred.isSome) =
        (events.filter (is_own k)).filter fun e => e.deferred = some k.1 := by
      refine List.filter_congr fun e he => ?_
      cases hd : e.deferred with
      | none => simp
      | some p => simp [protocol e he p hd]
    cases hk : k.1 with
    | tcp => rw [all, hk, only .udp (by simp [hk]), List.append_nil]
    | udp => rw [all, hk, only .tcp (by simp [hk]), List.nil_append]
  rw [in_passes, put_off, passes, List.filter_append, List.filter_append, comm, comm, comm,
    List.append_assoc]

/-- The states in which handlers run in calls of `drive_once` have wakers in their places. -/
theorem placed_run {size : ℕ} {interface : S.Interface} {t : TcpStack S}
    (run : Reachable move (new size interface) t) : t.Placed := by
  refine run.invariant (I := Placed) ?_ fun t m t' hr _ h placed => ?_
  · intro i side e he
    simp [new, TcpStack.waker] at he
  have tables := tables_run hr
  -- The handlers keep the wakers in place because the tables agree.
  refine (move_keeps (I := fun u => u.Tables ∧ u.Placed) h ?_ ?_ ?_ ⟨tables, placed⟩).2
  · rintro packet now events u res - hb
    exact ⟨tables_begin tables hb, (begin_drive_cases hb).placed placed⟩
  · rintro u e u' ⟨tables, placed⟩ ok
    exact ⟨tables_handle tables ok, (handle_outcome ok).placed tables placed⟩
  · rintro u u' set handles - - ⟨tables, placed⟩
    refine ⟨tables.of_same set handles, fun i side e he => ?_⟩
    have he : u.waker i side = some e := by
      rw [← he, TcpStack.waker, TcpStack.waker, set]
    obtain ⟨index, waits, found⟩ := placed i side e he
    refine ⟨index, waits, ?_⟩
    rwa [TcpStack.contains, handles]

/-- In every call of `drive_once`, from every state that such calls reach and with every batch, what
is seen through a handle in the end is what its own events leave that are handled one at a time,
with Ready, Shutdown, and Close first and the others after them, both in the order of the batch.

When none of the former comes after one of the latter, this is the order of the batch, and the end
looks the same when all events are handled one at a time in the order of the batch. -/
theorem batch_in_passes {size : ℕ} {interface : S.Interface} {s t u : TcpStack S}
    {packet : Option Packet} {now : ℕ} {events : List OperationEvent} {k : Protocol × ℕ}
    (run : Reachable move (new size interface) s)
    (begins : s.begin_drive packet now = .ok (t, .ok ())) (apart : t.Apart events k)
    (ok : t.handle_events events = .ok u) :
    (∃ v, t.handle_in_order (in_passes (events.filter (is_own k))) = .ok v ∧
      SameView k (t.own_channels events k) (t.own_buffers events k) u v) ∧
    (Ordered (events.filter (is_own k)) →
      in_passes (events.filter (is_own k)) = events.filter (is_own k) ∧
      ∀ v, t.handle_in_order events = .ok v →
        SameView k (t.own_channels events k) (t.own_buffers events k) u v) := by
  have settled : Settled k (t.own_channels events k) (t.own_buffers events k) t :=
    ⟨tables_begin (tables_run run) begins, (begin_drive_cases begins).placed (placed_run run),
      fun i side e he => apart.separate (Multiset.mem_add.mpr (.inr (mem_parked_of_waker he)))⟩
  have known : ∀ l : List OperationEvent, (∀ e ∈ l, e ∈ events) →
      ∀ e ∈ l, Separate k (t.own_channels events k) (t.own_buffers events k) e :=
    fun l hl e he => apart.separate (Multiset.mem_add.mpr (.inl (hl e he)))
  have start := And.intro settled (And.intro settled (SameTraffic.refl (k := k)
    (T := t.own_channels events k) (B := t.own_buffers events k) t))
  have mem_passes : ∀ b : List OperationEvent, ∀ e ∈ passes b, e ∈ b := fun b e he =>
    (passes_perm b).mem_iff.mp he
  rw [handle_events_eq] at ok
  have project := projects (S := S) k (t.own_channels events k) (t.own_buffers events k)
  have known_passes := known (passes events) (mem_passes events)
  -- Two orders of the events with the same order of the handle's own.
  have agree : ∀ {l v}, (∀ e ∈ l, e ∈ events) →
      (passes events).filter (is_own k) = l.filter (is_own k) → t.handle_in_order l = .ok v →
      SameView k (t.own_channels events k) (t.own_buffers events k) u v := by
    intro l v hl heq hv
    obtain ⟨w, ⟨-, -, hu⟩, -, -, hw⟩ :=
      project.foldlM_eq known_passes (known l hl) heq ok hv start
    exact (hu.trans hw.symm).toSameView
  refine ⟨?_, fun ordered => ?_⟩
  · obtain ⟨v, hv, -, -, same⟩ := project.foldlM known_passes ok start
    rw [passes_own] at hv
    exact ⟨v, hv, same.toSameView⟩
  · have order := in_passes_of_ordered ordered
    exact ⟨order, fun v hv => agree (fun e he => he) ((passes_own events k).trans order) hv⟩

open Reference in
/-- An established connection, and a buffer with two bytes for each request. -/
def established : List (Move) := [
  .drive_once (some (syn 1 2)) 0 none, .drive_once (some (ack 1 2 [])) 0 none,
  .outside .unbounded .unbounded .unbounded fun _ => ⟨[7, 8], 2⟩]

/-- A Write and a Shutdown, in this order. -/
def write_shutdown : List OperationEvent := [.write ⟨0, 0⟩ 0 0, .shutdown (.tcp ⟨0, 0⟩) 1]

/-- In one batch the Shutdown comes first, and the Write is refused. Handled in order, and also in
two batches, both succeed. -/
theorem write_after_shutdown : ∃ s t u v w x : TcpStack reference,
    exec move (new 64 ()) established = some s ∧ s.begin_drive none 0 = .ok (t, .ok ()) ∧
    t.handle_events write_shutdown = .ok u ∧ t.handle_in_order write_shutdown = .ok v ∧
    s.drive_once none 0 (some [.write ⟨0, 0⟩ 0 0]) = .ok (w, .ok ([], none)) ∧
    w.drive_once none 0 (some [.shutdown (.tcp ⟨0, 0⟩) 1]) = .ok (x, .ok ([], none)) ∧
    u.answers = [(1, .ok .done), (0, .error (.message .broken_pipe
      "TCP send failed, socket state: FIN-WAIT-1"))] ∧
    v.answers = [(0, .ok (.len 2)), (1, .ok .done)] ∧ x.answers = v.answers := by
  obtain ⟨s, hs, ht⟩ := exists_of_exec_any move (new 64 () : TcpStack reference)
    established (fun s => s.poll_panics 0 = false ∧
      (((s.poll 0).handle_events write_shutdown).toOption.any fun u => u.answers =
        [(1, .ok .done), (0, .error (.message .broken_pipe
          "TCP send failed, socket state: FIN-WAIT-1"))]) = true ∧
      (((s.poll 0).handle_in_order write_shutdown).toOption.any fun v =>
        v.answers = [(0, .ok (.len 2)), (1, .ok .done)]) = true ∧
      ((s.drive_once none 0 (some [.write ⟨0, 0⟩ 0 0])).toOption.any fun r =>
        r.2 = .ok ([], none) ∧
          ((r.1.drive_once none 0 (some [.shutdown (.tcp ⟨0, 0⟩) 1])).toOption.any fun r =>
            r.2 = .ok ([], none) ∧ r.1.answers = [(0, .ok (.len 2)), (1, .ok .done)]) = true) =
        true)
    (by decide +kernel)
  obtain ⟨safe, htu, htv, htw⟩ := of_decide_eq_true ht
  obtain ⟨u, hu, hu'⟩ := exists_of_toOption_any htu
  obtain ⟨v, hv, hv'⟩ := exists_of_toOption_any htv
  obtain ⟨⟨w, res⟩, hw, hw'⟩ := exists_of_toOption_any htw
  obtain ⟨rfl, htx⟩ : res = _ ∧ _ := of_decide_eq_true hw'
  obtain ⟨⟨x, res⟩, hx, hx'⟩ := exists_of_toOption_any htx
  obtain ⟨rfl, answers⟩ : res = _ ∧ _ := of_decide_eq_true hx'
  have hv' := of_decide_eq_true hv'
  exact ⟨s, s.poll 0, u, v, w, x, hs, try_poll_eq_ok.mpr ⟨safe, rfl, rfl⟩, hu, hv, hw, hx,
    of_decide_eq_true hu', hv', answers.trans hv'.symm⟩

open Reference in
/-- With a Write of another socket between them, a Write and a Shutdown of slot 0 come in the order
of the passes. -/
theorem batch_in_passes_two : ∃ s t u v : TcpStack reference,
    s.begin_drive none 0 = .ok (t, .ok ()) ∧
    t.handle_events [.write ⟨0, 0⟩ 0 0, .write ⟨1, 1⟩ 2 2, .shutdown (.tcp ⟨0, 0⟩) 1] = .ok u ∧
    t.handle_in_order [.shutdown (.tcp ⟨0, 0⟩) 1, .write ⟨0, 0⟩ 0 0] = .ok v ∧
    SameView (.tcp, 0) {0, 1} {0} u v := by
  obtain ⟨s, hs, ht⟩ := exists_of_exec_any move (new 64 () : TcpStack reference)
    [
      .drive_once (some (syn 1 2)) 0 none, .drive_once (some (syn 2 2)) 0 none,
      .drive_once (some (ack 1 2 [])) 0 none, .drive_once (some (ack 2 2 [])) 0 none,
      .outside .unbounded .unbounded .unbounded fun _ => ⟨[7, 8], 2⟩]
    (fun s => s.poll_panics 0 = false ∧ (s.poll 0).Apart
        [.write ⟨0, 0⟩ 0 0, .write ⟨1, 1⟩ 2 2, .shutdown (.tcp ⟨0, 0⟩) 1] (.tcp, 0) ∧
      ((s.poll 0).handle_events
        [.write ⟨0, 0⟩ 0 0, .write ⟨1, 1⟩ 2 2,
          .shutdown (.tcp ⟨0, 0⟩) 1]).toOption.any fun _ => true)
    (by decide +kernel)
  obtain ⟨safe, apart, hu⟩ := of_decide_eq_true ht
  obtain ⟨u, hu, -⟩ := exists_of_toOption_any hu
  have begins : s.begin_drive none 0 = .ok (s.poll 0, .ok ()) :=
    try_poll_eq_ok.mpr ⟨safe, rfl, rfl⟩
  obtain ⟨⟨v, hv, same⟩, -⟩ := batch_in_passes (k := (.tcp, 0)) (Run.of_exec hs) begins apart hu
  refine ⟨s, s.poll 0, u, v, begins, hu, hv, same.found, same.item, fun tx htx => ?_,
    fun b hb => ?_,
    same.connected⟩
  · refine same.answers tx ?_
    rcases htx with rfl | rfl
    · exact ⟨.write ⟨0, 0⟩ 0 0, Multiset.mem_add.mpr (.inl (by simp)), rfl, rfl⟩
    · exact ⟨.shutdown (.tcp ⟨0, 0⟩) 1, Multiset.mem_add.mpr (.inl (by simp)), rfl, rfl⟩
  · obtain rfl := hb
    exact same.memory 0 ⟨.write ⟨0, 0⟩ 0 0, Multiset.mem_add.mpr (.inl (by simp)), rfl, rfl⟩

end TcpStack

end L3Extract
