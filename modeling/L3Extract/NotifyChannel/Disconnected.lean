import L3Extract.NotifyChannel

/-!
# `generate` without senders

When no `NotifySender` is left, `collect_nonblock` ends with the error `Disconnected`, by which
`generate` is to end. But only a `send` notifies the listener that `wait` sleeps on, and `is_empty`
does not tell that the senders are gone. So `generate` comes to its error exactly if there is
something left in the queue (`generate_ends`): otherwise it sleeps, and stays asleep
(`sleeps_forever`).
-/

namespace L3Extract

open Transition

variable {ι α : Type}

/-- `generate` is in `wait`. -/
def Receiving.waiting : Receiving α → Bool
  | .check | .register | .recheck | .parked => true
  | _ => false

/-- `generate` is in `collect_nonblock`. -/
def Receiving.taking : Receiving α → Bool
  | .collecting _ => true
  | _ => false

namespace NotifyChannel

/-- All senders are dropped, and the receiver sleeps on a listener that was not notified. -/
structure Stuck (s : NotifyChannel ι α) : Prop where
  senders : s.senders = ∅
  receiver : s.receiver = .parked
  listener : s.listener ≠ some true

variable [DecidableEq ι]

/-- `generate` ends by its own steps, with an error: it adds no batch. -/
def Fails (s : NotifyChannel ι α) : Prop :=
  ∃ n t, exec step s (List.replicate n .advance) = some t ∧ t.receiver = .idle ∧
    t.batches = s.batches

/-- Something is in the queue when the last sender is dropped while `generate` waits, and when
`generate` is called without a sender. -/
def Fed (s : NotifyChannel ι α) : NotifyAction ι α → Prop
  | .drop_sender i => s.senders = {i} → s.receiver.waiting = true → s.queue ≠ []
  | .generate => s.senders = ∅ → s.queue ≠ []
  | _ => True

instance [DecidableEq α] (s : NotifyChannel ι α) (a : NotifyAction ι α) : Decidable (Fed s a) :=
  match a with
  | .drop_sender i => inferInstanceAs
    (Decidable (s.senders = {i} → s.receiver.waiting = true → s.queue ≠ []))
  | .generate => inferInstanceAs (Decidable (s.senders = ∅ → s.queue ≠ []))
  | .clone _ _ | .enqueue _ _ | .notify _ | .advance | .cancel | .drop_receiver =>
    inferInstanceAs (Decidable True)

/-! ## What is left to do without senders -/

/-- Only a clone that exists is about to notify. -/
def Owned (s : NotifyChannel ι α) : Prop := ∀ i, s.notifying i ≠ 0 → i ∈ s.senders

/-- `generate` leaves the senders alone. -/
theorem advance_senders {s s' : NotifyChannel ι α} (h : s.advance = some s') :
    s'.senders = s.senders ∧ s'.notifying = s.notifying := by
  unfold NotifyChannel.advance at h
  split at h
  case h_6 =>
    split_ifs at h
    cases h
    exact ⟨rfl, rfl⟩
  case h_8 => split_ifs at h <;> cases h <;> exact ⟨rfl, rfl⟩
  case h_9 => cases h
  case h_10 => cases h
  all_goals
    cases h
    exact ⟨rfl, rfl⟩

/-- A notification keeps its sender in every step. -/
theorem Owned.step {s s' : NotifyChannel ι α} {a : NotifyAction ι α} (owned : Owned s)
    (h : s.step a = some s') : Owned s' := by
  cases steps_of_step h with
  | cloned i j live new => exact fun k hk => Finset.mem_insert_of_mem (owned k hk)
  | dropped i live quiet =>
    exact fun k hk => Finset.mem_erase.mpr ⟨fun heq => hk (heq ▸ quiet), owned k hk⟩
  | enqueued i v live =>
    intro k hk
    unfold NotifyChannel.enqueue at hk ⊢
    split at hk
    · exact owned k hk
    · by_cases heq : k = i
      · rw [heq]
        exact live
      · exact owned k (by simpa [Function.update_of_ne heq] using hk)
  | notified i sending =>
    intro k hk
    by_cases heq : k = i
    · rw [heq]
      exact owned i sending
    · exact owned k (by simpa [NotifyChannel.notify, Function.update_of_ne heq] using hk)
  | called receiver => exact owned
  | advanced s' eq =>
    obtain ⟨senders, notifying⟩ := advance_senders eq
    intro k hk
    rw [senders]
    exact owned k (by rwa [notifying] at hk)
  | cancelled receiver => exact owned
  | receiver_dropped receiver => exact owned

/-- In every run a notification has its sender. -/
theorem owned_of_run (i : ι) {guard : NotifyChannel ι α → NotifyAction ι α → Prop}
    {s : NotifyChannel ι α} (run : Run step guard (new i) s) : Owned s :=
  run.invariant (I := Owned) (fun _ h => absurd rfl h) fun _ _ _ _ _ h owned => owned.step h

/-- Nothing but dropping its future gets a stuck `generate` on. -/
theorem Stuck.only_cancel {s s' : NotifyChannel ι α} {a : NotifyAction ι α} (stuck : Stuck s)
    (owned : Owned s) (h : s.step a = some s') : a = .cancel := by
  obtain ⟨senders, receiver, listener⟩ := stuck
  have gone : ∀ i, i ∉ s.senders := fun i => by simp [senders]
  cases a with
  | clone i j => simp [NotifyChannel.step, gone] at h
  | drop_sender i => simp [NotifyChannel.step, gone] at h
  | enqueue i v => simp [NotifyChannel.step, gone] at h
  | notify i =>
    have quiet : s.notifying i = 0 := by
      by_contra hi
      exact gone i (owned i hi)
    simp [NotifyChannel.step, quiet] at h
  | generate => simp [NotifyChannel.step, receiver] at h
  | advance => simp [NotifyChannel.step, NotifyChannel.advance, receiver, listener] at h
  | cancel => rfl
  | drop_receiver => simp [NotifyChannel.step, receiver] at h

/-- The next step of `generate` adds no batch, and then `generate` ends with an error. -/
theorem Fails.of_advance {s t : NotifyChannel ι α} (h : s.advance = some t)
    (batches : t.batches = s.batches) (fails : Fails t) : Fails s := by
  obtain ⟨n, u, hu, receiver, same⟩ := fails
  refine ⟨n + 1, u, ?_, receiver, same.trans batches⟩
  rw [List.replicate_succ, exec, NotifyChannel.step, h]
  exact hu

/-- `collect_nonblock` takes what is there, and ends with an error when no sender is left. -/
theorem fails_of_collecting {s : NotifyChannel ι α} {items : List α}
    (senders : s.senders = ∅) (receiver : s.receiver = .collecting items) : Fails s := by
  -- Over the queue.
  generalize hq : s.queue = queue
  induction queue generalizing s items with
  | nil =>
    refine ⟨1, { s with receiver := .idle }, ?_, rfl, rfl⟩
    simp [exec, NotifyChannel.step, NotifyChannel.advance, receiver, hq, senders]
  | cons v queue ih =>
    refine .of_advance (t := { s with queue, receiver := .collecting (items ++ [v]) }) ?_ rfl
      (ih senders rfl rfl)
    rw [NotifyChannel.advance, receiver, hq]

/-- What `wait` does leaves the queue and the senders alone, and it goes on as long as the queue is
empty. -/
theorem advance_waiting {s s' : NotifyChannel ι α} (h : s.advance = some s')
    (waiting : s.receiver.waiting = true) :
    s'.queue = s.queue ∧ s'.senders = s.senders ∧ s'.batches = s.batches ∧
      (s.queue = [] → s'.receiver.waiting = true) := by
  unfold NotifyChannel.advance at h
  split at h
  case h_6 =>
    split_ifs at h
    cases h
    exact ⟨rfl, rfl, rfl, fun _ => rfl⟩
  case h_7 receiver queue => simp [receiver, Receiving.waiting] at waiting
  case h_8 receiver queue => simp [receiver, Receiving.waiting] at waiting
  case h_9 => cases h
  case h_10 => cases h
  case h_3 =>
    cases h
    exact ⟨rfl, rfl, rfl, fun _ => rfl⟩
  all_goals
    rename_i queue
    cases h
    exact ⟨rfl, rfl, rfl, fun empty => by first | rfl | (rw [queue] at empty; cases empty)⟩

/-- `generate` does not come back to `wait`. -/
theorem waiting_of_advance {s s' : NotifyChannel ι α} (h : s.advance = some s')
    (waiting : s'.receiver.waiting = true) : s.receiver.waiting = true := by
  cases hr : s.receiver with
  | check => rfl
  | register => rfl
  | recheck => rfl
  | parked => rfl
  | idle => simp [NotifyChannel.advance, hr] at h
  | dropped => simp [NotifyChannel.advance, hr] at h
  | collecting items =>
    rw [NotifyChannel.advance, hr] at h
    cases hq : s.queue with
    | nil =>
      rw [hq] at h
      dsimp only at h
      split_ifs at h <;> cases h <;> cases waiting
    | cons v queue =>
      rw [hq] at h
      cases h
      cases waiting

/-- Without senders, a waiting `generate` ends with its error if and only if something is in the
queue. -/
theorem fails_iff {s : NotifyChannel ι α} (awake : Awake s) (owned : Owned s)
    (senders : s.senders = ∅) (waiting : s.receiver.waiting = true) :
    Fails s ↔ s.queue ≠ [] := by
  constructor
  · rintro ⟨n, t, ht, idle, -⟩ empty
    induction n generalizing s with
    | zero =>
      cases ht
      rw [idle] at waiting
      cases waiting
    | succ n ih =>
      rw [List.replicate_succ, exec] at ht
      obtain ⟨s', hs, ht⟩ := Option.bind_eq_some_iff.mp ht
      obtain ⟨queue, senders', -, goes_on⟩ := advance_waiting hs waiting
      exact ih (awake.step hs) (owned.step hs) (senders'.trans senders) (goes_on empty) ht
        (queue.trans empty)
  · intro filled
    obtain ⟨v, queue, hq⟩ := List.exists_cons_of_ne_nil filled
    have check : ∀ {s' : NotifyChannel ι α}, s'.senders = ∅ → s'.receiver = .check →
        s'.queue = v :: queue → Fails s' := by
      intro s' senders receiver hq
      refine .of_advance (t := { s' with receiver := .collecting [] }) ?_ rfl
        (fails_of_collecting senders rfl)
      rw [NotifyChannel.advance, receiver, hq]
    have recheck : ∀ {s' : NotifyChannel ι α}, s'.senders = ∅ → s'.receiver = .recheck →
        s'.queue = v :: queue → Fails s' := by
      intro s' senders receiver hq
      refine .of_advance (t := { s' with receiver := .collecting [], listener := none }) ?_ rfl
        (fails_of_collecting senders rfl)
      rw [NotifyChannel.advance, receiver, hq]
    cases hr : s.receiver with
    | check => exact check senders hr hq
    | register =>
      refine .of_advance (t := { s with receiver := .recheck, listener := some false }) ?_ rfl
        (recheck senders rfl hq)
      rw [NotifyChannel.advance, hr]
    | recheck => exact recheck senders hr hq
    | parked =>
      -- No sender is left that would have to notify the listener.
      have listener : s.listener = some true := by
        cases hl : s.listener with
        | none => exact absurd hl (awake.registered (.inr hr))
        | some notified =>
          cases notified with
          | true => rfl
          | false =>
            obtain ⟨i, hi, -⟩ := awake.notifying hr hl filled
            simp [senders] at hi
      refine .of_advance (t := { s with receiver := .check, listener := none }) ?_ rfl
        (check senders rfl hq)
      rw [NotifyChannel.advance, hr]
      exact if_pos listener
    | idle => rw [hr] at waiting; cases waiting
    | collecting items => rw [hr] at waiting; cases waiting
    | dropped => rw [hr] at waiting; cases waiting

/-! ## Runs -/

/-- Without senders, a `generate` that waits has something to take. -/
def Supplied (s : NotifyChannel ι α) : Prop :=
  s.senders = ∅ → s.receiver.waiting = true → s.queue ≠ []

/-- A step under the condition leaves a message, or a sender. -/
theorem Supplied.step {s s' : NotifyChannel ι α} {a : NotifyAction ι α} (supplied : Supplied s)
    (fed : Fed s a) (h : s.step a = some s') : Supplied s' := by
  cases steps_of_step h with
  | cloned i j live new => exact fun empty => absurd empty (Finset.insert_ne_empty _ _)
  | dropped i live quiet =>
    -- The last sender goes only while something is in the queue.
    intro empty waiting
    refine fed ?_ waiting
    rcases Finset.erase_eq_empty_iff _ _ |>.mp empty with none | last
    · simp [none] at live
    · exact last
  | enqueued i v live =>
    intro empty _
    unfold NotifyChannel.enqueue at empty
    split at empty
    all_goals
      rw [show s.senders = ∅ from empty] at live
      simp at live
  | notified i sending => exact supplied
  | called receiver => exact fun empty _ => fed empty
  | advanced s' eq =>
    intro empty waiting
    have was := waiting_of_advance eq waiting
    obtain ⟨queue, senders, -, -⟩ := advance_waiting eq was
    rw [queue]
    exact supplied (senders.symm.trans empty) was
  | cancelled receiver => exact fun _ waiting => by cases waiting
  | receiver_dropped receiver => exact fun _ waiting => by cases waiting

/-- In every run in which something is in the queue when the last sender is dropped while `generate`
waits and when `generate` is called without a sender, no state is reached in which `generate` sleeps
with no one left to wake it; and once there is no sender, a running `generate` ends with its error.
The condition is exact: in any state that is reached, a `generate` that waits without senders ends
with its error if and only if something is in the queue. -/
theorem generate_ends (i : ι) :
    (∀ s : NotifyChannel ι α, Run step Fed (new i) s → ¬ Stuck s ∧ (s.senders = ∅ →
      (s.receiver.waiting || s.receiver.taking) = true → Fails s)) ∧
    ∀ s : NotifyChannel ι α, Reachable step (new i) s → s.senders = ∅ →
      s.receiver.waiting = true → (Fails s ↔ s.queue ≠ []) := by
  refine ⟨fun s run => ?_, fun s run => fails_iff (awake_of_run i run) (owned_of_run i run)⟩
  have awake := awake_of_run i run
  have owned := owned_of_run i run
  have supplied : Supplied s := run.invariant (I := Supplied) (fun empty => by simp [new] at empty)
    fun _ _ _ _ fed h supplied => supplied.step fed h
  constructor
  · rintro ⟨senders, receiver, listener⟩
    have filled := supplied senders (by rw [receiver]; rfl)
    have asleep : s.listener = some false := by
      cases hl : s.listener with
      | none => exact absurd hl (awake.registered (.inr receiver))
      | some notified => cases notified <;> simp_all
    obtain ⟨k, hk, -⟩ := awake.notifying receiver asleep filled
    simp [senders] at hk
  · intro senders running
    rcases Bool.or_eq_true _ _ |>.mp running with waiting | taking
    · exact (fails_iff awake owned senders waiting).mpr (supplied senders waiting)
    · cases hr : s.receiver <;> rw [hr] at taking <;> try cases taking
      exact fails_of_collecting senders hr

/-- The last sender is dropped while `generate` is called and its value is in the queue: `generate`
ends. -/
theorem generate_ends_fed : ∃ s : NotifyChannel ℕ ℕ,
    Run step Fed (new 0) s ∧ s.senders = ∅ ∧ s.receiver = .check ∧ Fails s := by
  obtain ⟨s, hs, ht⟩ := exists_of_execIf_any step (new 0 : NotifyChannel ℕ ℕ)
    (fun s a => decide (Fed s a)) [.generate, .enqueue 0 7, .notify 0, .drop_sender 0]
    (fun s => s.senders = ∅ ∧ s.receiver = .check) (by decide +kernel)
  obtain ⟨senders, receiver⟩ := of_decide_eq_true ht
  have run : Run step Fed (new 0) s := Run.of_execIf (fun _ _ h => of_decide_eq_true h) hs
  exact ⟨s, run, senders, receiver, ((generate_ends 0).1 s run).2 senders (by rw [receiver]; rfl)⟩

/-- `generate` sleeps on an empty queue when the only sender is dropped. Then all that can happen is
that its future is dropped. -/
theorem sleeps_forever : ∃ s : NotifyChannel ℕ ℕ,
    exec step (new 0) [.generate, .advance, .advance, .advance, .drop_sender 0] = some s ∧
    Stuck s ∧ ∀ a s', s.step a = some s' → a = .cancel := by
  obtain ⟨s, hs, ht⟩ := exists_of_exec_any step (new 0 : NotifyChannel ℕ ℕ)
    [.generate, .advance, .advance, .advance, .drop_sender 0]
    (fun s => s.senders = ∅ ∧ s.receiver = .parked ∧ s.listener = some false) (by decide +kernel)
  obtain ⟨senders, receiver, listener⟩ := of_decide_eq_true ht
  have stuck : Stuck s := ⟨senders, receiver, by simp [listener]⟩
  exact ⟨s, hs, stuck, fun _ _ h => stuck.only_cancel (owned_of_run 0 (Run.of_exec hs)) h⟩

end NotifyChannel

end L3Extract
