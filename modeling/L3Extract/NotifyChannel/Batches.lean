import L3Extract.NotifyChannel.Disconnected

/-!
# The batches of `generate`

A `send` puts its value at the end of the queue, and `collect_nonblock` takes the values from the
front, one by one, while senders go on. So every value that was sent is once in a batch, among the
items of a `collect_nonblock` that still runs, or in the queue, in the order of the `send`s
(`Complete`). One exit of `collect_nonblock` breaks this: when it finds the queue empty and no
sender left, it returns its error, and the items that it took are dropped (`messages_lost`). `wait`
sees to it that it took some. `delivers_once` puts this together.
-/

namespace L3Extract

open Transition

variable {ι α : Type}

/-- What a running `collect_nonblock` took so far. -/
def Receiving.taken : Receiving α → List α
  | .collecting items => items
  | _ => []

/-- The receiver takes messages only while it collects. -/
theorem Receiving.collecting_of_taking {r : Receiving α} (taking : r.taking = true) :
    ∃ items, r = .collecting items := by
  cases r with
  | collecting items => exact ⟨items, rfl⟩
  | _ => cases taking

namespace NotifyChannel

/-- Every value that was sent is once in a batch that `generate` returned, in the batch that it is
about to return, or in the queue, and the order is that of the `send`s. -/
def Complete (s : NotifyChannel ι α) : Prop :=
  s.sent = s.batches.flatten ++ s.receiver.taken ++ s.queue

/-- No `collect_nonblock` that took an item finds the queue empty and no sender left, and the
receiver is not dropped with values in the queue. -/
def Keeps (s : NotifyChannel ι α) : NotifyAction ι α → Prop
  | .advance => s.senders = ∅ → s.queue = [] → s.receiver.taken = []
  | .drop_receiver => s.queue = []
  | _ => True

variable [DecidableEq ι]

instance [DecidableEq α] (s : NotifyChannel ι α) (a : NotifyAction ι α) :
    Decidable (Keeps s a) :=
  match a with
  | .advance => inferInstanceAs (Decidable (s.senders = ∅ → s.queue = [] → s.receiver.taken = []))
  | .drop_receiver => inferInstanceAs (Decidable (s.queue = []))
  | .clone _ _ | .drop_sender _ | .enqueue _ _ | .notify _ | .generate | .cancel =>
    inferInstanceAs (Decidable True)

/-- `generate` returns an error: it ends without a batch. -/
structure Errs (s t : NotifyChannel ι α) : Prop where
  advance : s.advance = some t
  taking : s.receiver.taking = true
  idle : t.receiver = .idle
  batches : t.batches = s.batches

/-! ## What one step does -/

/-- The error is that of a `try_recv` that finds the queue empty and no sender left. -/
theorem Errs.disconnected {s t : NotifyChannel ι α} (errs : Errs s t) :
    s.queue = [] ∧ s.senders = ∅ := by
  obtain ⟨h, taking, idle, batches⟩ := errs
  obtain ⟨items, receiver⟩ := Receiving.collecting_of_taking taking
  rw [NotifyChannel.advance, receiver] at h
  cases hq : s.queue with
  | cons v queue =>
    -- Another item is taken: `collect_nonblock` goes on.
    rw [hq] at h
    cases h
    cases idle
  | nil =>
    rw [hq] at h
    dsimp only at h
    split_ifs at h with senders
    · exact ⟨rfl, senders⟩
    · -- With a sender left it is a batch that is returned.
      cases h
      simp at batches

/-- What an action drops: the items that `collect_nonblock` took, when it returns its error, and the
queue with the receiver. -/
def loses (s : NotifyChannel ι α) : NotifyAction ι α → List α
  | .advance => if s.senders = ∅ ∧ s.queue = [] then s.receiver.taken else []
  | .drop_receiver => s.queue
  | _ => []

/-- A step keeps all messages if it loses none. -/
theorem keeps_iff {s : NotifyChannel ι α} {a : NotifyAction ι α} : Keeps s a ↔ s.loses a = [] := by
  cases a with
  | advance =>
    simp only [Keeps, loses, ite_eq_right_iff, and_imp]
  | _ => simp [Keeps, loses]

/-- All that was sent, with the values that were `lost` on the way. When there are any, no `send`
and no batch comes after them. -/
structure Ledger (s : NotifyChannel ι α) (lost : List α) : Prop where
  sent : s.sent = s.batches.flatten ++ lost ++ s.receiver.taken ++ s.queue
  ended : lost ≠ [] → s.senders = ∅ ∨ s.receiver = .dropped

omit [DecidableEq ι] in
/-- As long as nothing was lost, everything is there. -/
theorem Ledger.complete_iff {s : NotifyChannel ι α} {lost : List α} (ledger : Ledger s lost) :
    Complete s ↔ lost = [] := by
  unfold Complete
  rw [ledger.sent]
  constructor
  · intro h
    have length := congrArg List.length h
    simp only [List.length_append] at length
    exact List.eq_nil_of_length_eq_zero (by omega)
  · intro h
    rw [h, List.append_nil]

omit [DecidableEq ι] in
/-- When everything is there nothing is lost. -/
theorem Ledger.of_complete {s : NotifyChannel ι α} (complete : Complete s) : Ledger s [] where
  sent := by simpa [Complete] using complete
  ended h := absurd rfl h

/-- A step of `generate` loses nothing unless it drops what `collect_nonblock` took. -/
theorem Ledger.advance {s t : NotifyChannel ι α} {lost : List α} (ledger : Ledger s lost)
    (h : s.advance = some t) : Ledger t (lost ++ s.loses .advance) := by
  obtain ⟨sent, ended⟩ := ledger
  have senders := (advance_senders h).1
  unfold NotifyChannel.advance at h
  -- As long as the receiver is there, `ended` speaks of the senders only.
  have gone : ∀ {t' : NotifyChannel ι α}, s.receiver ≠ .dropped → t'.senders = s.senders →
      lost ≠ [] → t'.senders = ∅ ∨ t'.receiver = .dropped := by
    intro t' receiver senders hl
    rw [senders]
    exact .inl ((ended hl).resolve_right receiver)
  -- What has not been taken cannot be dropped.
  have still : s.receiver.taken = [] → lost ++ s.loses .advance = lost := by
    intro none
    rw [loses, none, ite_self, List.append_nil]
  split at h
  case h_3 receiver =>
    cases h
    rw [still (by rw [receiver]; rfl)]
    rw [receiver] at sent
    exact ⟨sent, gone (by simp [receiver]) rfl⟩
  case h_6 receiver =>
    split_ifs at h
    cases h
    rw [still (by rw [receiver]; rfl)]
    rw [receiver] at sent
    exact ⟨sent, gone (by simp [receiver]) rfl⟩
  case h_7 items v queue receiver filled =>
    cases h
    have none : s.loses .advance = [] := by simp [loses, filled]
    rw [none, List.append_nil]
    refine ⟨?_, gone (by simp [receiver]) rfl⟩
    rw [sent, receiver, filled]
    simp [Receiving.taken]
  case h_8 items receiver empty =>
    split_ifs at h with left
    · -- The error: the items are lost.
      cases h
      have taken : s.loses .advance = items := by
        simp [loses, left, empty, receiver, Receiving.taken]
      rw [taken]
      refine ⟨?_, fun _ => .inl left⟩
      rw [sent, receiver, empty]
      simp [Receiving.taken]
    · cases h
      have none : s.loses .advance = [] := by simp [loses, left]
      -- Nothing was lost before, for there is a sender.
      have nothing : lost = [] := by
        by_contra hl
        exact (ended hl).elim left (by simp [receiver])
      rw [none, List.append_nil, nothing]
      refine ⟨?_, fun h => absurd rfl h⟩
      rw [sent, receiver, empty, nothing]
      simp [Receiving.taken]
  case h_9 => cases h
  case h_10 => cases h
  all_goals
    rename_i receiver queue
    cases h
    rw [still (by rw [receiver]; rfl)]
    rw [receiver] at sent
    exact ⟨sent, gone (by simp [receiver]) rfl⟩

/-- Every step adds to the ledger what it loses. -/
theorem Ledger.step {s t : NotifyChannel ι α} {lost : List α} {a : NotifyAction ι α}
    (ledger : Ledger s lost) (h : s.step a = some t) : Ledger t (lost ++ s.loses a) := by
  have ⟨sent, ended⟩ := ledger
  cases steps_of_step h with
  | cloned i j live new =>
    simp only [loses, List.append_nil]
    refine ⟨sent, fun hl => (ended hl).imp_left fun none => ?_⟩
    simp [none] at live
  | dropped i live quiet =>
    simp only [loses, List.append_nil]
    refine ⟨sent, fun hl => (ended hl).imp_left fun none => ?_⟩
    simp [none] at live
  | enqueued i v live =>
    simp only [loses, List.append_nil]
    unfold NotifyChannel.enqueue
    -- Without a receiver, `send` returns its value to the caller.
    split
    · exact ledger
    · refine ⟨?_, ended⟩
      show s.sent ++ [v] = s.batches.flatten ++ lost ++ s.receiver.taken ++ (s.queue ++ [v])
      rw [sent, List.append_assoc _ s.queue]
  | notified i sending =>
    simp only [loses, List.append_nil]
    exact ⟨sent, ended⟩
  | called receiver =>
    simp only [loses, List.append_nil]
    rw [receiver] at sent
    exact ⟨sent, fun hl => (ended hl).imp_right fun dropped => by cases receiver.symm.trans dropped⟩
  | advanced t eq => exact ledger.advance eq
  | cancelled receiver =>
    -- While `generate` waits, it has not taken anything yet.
    simp only [loses, List.append_nil]
    rcases receiver with hr | hr | hr | hr
    all_goals
      rw [hr] at sent
      exact ⟨sent, fun hl => (ended hl).imp_right fun dropped => by cases hr.symm.trans dropped⟩
  | receiver_dropped receiver =>
    refine ⟨?_, fun _ => .inr rfl⟩
    rw [sent, receiver]
    simp [loses, Receiving.taken]

/-- A step keeps everything there if and only if it loses nothing. -/
theorem complete_step {s t : NotifyChannel ι α} {a : NotifyAction ι α} (complete : Complete s)
    (h : s.step a = some t) : Complete t ↔ Keeps s a := by
  rw [keeps_iff, ((Ledger.of_complete complete).step h).complete_iff, List.nil_append]

/-- `wait` returns only when there is something in the queue: if `collect_nonblock` took nothing so
far, it will. -/
def Ready (s : NotifyChannel ι α) : Prop :=
  s.receiver = .collecting [] → s.queue ≠ []

/-- The receiver stays ready when it goes on. -/
theorem Ready.advance {s t : NotifyChannel ι α} (h : s.advance = some t) : Ready t := by
  unfold NotifyChannel.advance at h
  intro receiver
  split at h
  case h_2 queue =>
    cases h
    simp [queue]
  case h_5 queue =>
    cases h
    simp [queue]
  case h_6 =>
    split_ifs at h
    cases h
    cases receiver
  case h_7 =>
    cases h
    simp at receiver
  case h_8 => split_ifs at h <;> cases h <;> cases receiver
  case h_9 => cases h
  case h_10 => cases h
  all_goals
    cases h
    cases receiver

/-- The receiver stays ready in every step. -/
theorem Ready.step {s t : NotifyChannel ι α} {a : NotifyAction ι α} (ready : Ready s)
    (h : s.step a = some t) : Ready t := by
  cases steps_of_step h with
  | cloned i j live new => exact ready
  | dropped i live quiet => exact ready
  | enqueued i v live =>
    unfold Ready NotifyChannel.enqueue
    split
    · exact ready
    · simp
  | notified i sending => exact ready
  | called receiver => exact fun collecting => by cases collecting
  | advanced t eq => exact Ready.advance eq
  | cancelled receiver => exact fun collecting => by cases collecting
  | receiver_dropped receiver => exact fun collecting => by cases collecting

/-- In every run what was sent is accounted for, with what was lost. -/
theorem ledger_of_run (i : ι) {guard : NotifyChannel ι α → NotifyAction ι α → Prop}
    {s : NotifyChannel ι α} (run : Run step guard (new i) s) : ∃ lost, Ledger s lost :=
  run.invariant (I := fun s => ∃ lost, Ledger s lost) ⟨[], rfl, fun h => absurd rfl h⟩
    fun _ _ _ _ _ h ⟨lost, ledger⟩ => ⟨lost ++ _, ledger.step h⟩

/-- In every run the receiver is ready. -/
theorem ready_of_run (i : ι) {guard : NotifyChannel ι α → NotifyAction ι α → Prop}
    {s : NotifyChannel ι α} (run : Run step guard (new i) s) : Ready s :=
  run.invariant (I := Ready) (fun receiver => by cases receiver)
    fun _ _ _ _ _ h ready => ready.step h

omit [DecidableEq ι] in
/-- What `generate` returned is the first part of what was sent, also when something was lost. -/
theorem Ledger.batches_first {s : NotifyChannel ι α} {lost : List α} (ledger : Ledger s lost) :
    s.batches.flatten <+: s.sent := by
  rw [ledger.sent, List.append_assoc, List.append_assoc]
  exact List.prefix_append _ _

/-- A `generate` that ends with an error has taken something, and it is lost. -/
theorem Errs.loses {s t : NotifyChannel ι α} (errs : Errs s t) (ready : Ready s) :
    s.receiver.taken ≠ [] ∧ s.loses .advance ≠ [] := by
  obtain ⟨queue, senders⟩ := errs.disconnected
  obtain ⟨items, receiver⟩ := Receiving.collecting_of_taking errs.taking
  have taken : s.receiver.taken ≠ [] := by
    rw [receiver]
    rintro rfl
    exact ready receiver queue
  refine ⟨taken, ?_⟩
  rw [NotifyChannel.loses, if_pos ⟨senders, queue⟩]
  exact taken

/-- In every run in which no `collect_nonblock` that took something finds the queue empty and no
sender left, and in which the receiver is not dropped with values in its queue: every value that was
sent is at each moment once in a batch or in the queue, the batches are in the order of the `send`s,
and no `generate` ends with an error. The condition is exact: when everything is there, a step keeps
it so if and only if it meets the condition; and in any run every error loses what was taken, though
the batches stay in order. -/
theorem delivers_once (i : ι) :
    (∀ s : NotifyChannel ι α, Run step Keeps (new i) s →
      Complete s ∧ s.batches.flatten <+: s.sent ∧
        ∀ t, Keeps s .advance → Errs s t → s.receiver.taken = []) ∧
    (∀ (s t : NotifyChannel ι α) (a : NotifyAction ι α), Reachable step (new i) s → Complete s →
      s.step a = some t → (Complete t ↔ Keeps s a)) ∧
    ∀ s : NotifyChannel ι α, Reachable step (new i) s → s.batches.flatten <+: s.sent ∧
      ∀ t, Errs s t → s.receiver.taken ≠ [] ∧ ¬ Complete t := by
  refine ⟨fun s run => ?_, fun s t a _ complete h => complete_step complete h, fun s run => ?_⟩
  · have complete : Complete s := run.invariant (I := Complete)
      (by simp [Complete, new, Receiving.taken])
      fun _ _ _ _ keeps h complete => (complete_step complete h).mpr keeps
    refine ⟨complete, (Ledger.of_complete complete).batches_first, fun t keeps errs => ?_⟩
    obtain ⟨queue, senders⟩ := errs.disconnected
    exact keeps senders queue
  · obtain ⟨lost, ledger⟩ := ledger_of_run i run
    refine ⟨ledger.batches_first, fun t errs => ?_⟩
    obtain ⟨taken, loses⟩ := errs.loses (ready_of_run i run)
    refine ⟨taken, fun complete => ?_⟩
    have none := (ledger.step (a := .advance) errs.advance).complete_iff.mp complete
    exact loses (List.append_eq_nil_iff.mp none).2

/-- Two senders send while `generate` takes what is there: all of it is in its batch, but the last
value, which came too late. -/
theorem delivers_once_batch : ∃ s : NotifyChannel ℕ ℕ, Run step Keeps (new 0) s ∧
    s.batches = [[7, 8]] ∧ s.queue = [9] ∧ s.sent = [7, 8, 9] ∧ Complete s := by
  obtain ⟨s, hs, ht⟩ := exists_of_execIf_any step (new 0 : NotifyChannel ℕ ℕ)
    (fun s a => decide (Keeps s a))
    [.clone 0 1, .generate, .enqueue 1 7, .advance, .advance, .enqueue 0 8, .advance, .advance,
      .enqueue 1 9] (fun s => s.batches = [[7, 8]] ∧ s.queue = [9] ∧ s.sent = [7, 8, 9])
    (by decide +kernel)
  obtain ⟨batches, queue, sent⟩ := of_decide_eq_true ht
  have run : Run step Keeps (new 0) s := Run.of_execIf (fun _ _ h => of_decide_eq_true h) hs
  exact ⟨s, run, batches, queue, sent, ((delivers_once 0).1 s run).1⟩

/-- The only sender sends a value and is dropped, and then `generate` is called: it takes the value
and ends with an error. The value is nowhere. -/
theorem messages_lost : ∃ s t : NotifyChannel ℕ ℕ,
    exec step (new 0) [.enqueue 0 7, .notify 0, .drop_sender 0, .generate, .advance, .advance] =
      some s ∧
    Errs s t ∧ s.receiver.taken = [7] ∧ t.sent = [7] ∧ t.batches = [] ∧ t.queue = [] := by
  obtain ⟨s, hs, test⟩ := exists_of_exec_any step (new 0 : NotifyChannel ℕ ℕ)
    [.enqueue 0 7, .notify 0, .drop_sender 0, .generate, .advance, .advance]
    (fun s => s.receiver = .collecting [7] ∧ s.queue = [] ∧ s.senders = ∅ ∧ s.sent = [7] ∧
      s.batches = []) (by decide +kernel)
  obtain ⟨receiver, queue, senders, sent, batches⟩ := of_decide_eq_true test
  have advance : s.advance = some { s with receiver := .idle } := by
    rw [NotifyChannel.advance, receiver, queue]
    exact if_pos senders
  refine ⟨s, { s with receiver := .idle }, hs, ⟨advance, ?_, rfl, rfl⟩, ?_, sent, batches, queue⟩
  · rw [receiver]
    rfl
  · rw [receiver]
    rfl

end NotifyChannel

end L3Extract
