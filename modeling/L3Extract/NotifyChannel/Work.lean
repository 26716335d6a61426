import L3Extract.NotifyChannel

/-!
# How much `generate` works

`wait` of `src/notify_channel.rs` is a loop: it goes back to its first test whenever its listener
was notified. It must not go round without reason, as nobody would see more of it than a busy
processor. `work_le` bounds the steps that the receiver takes in any run: every round of the loop is
paid by one `notify`, every item that is collected by one `enqueue`, and every call of `generate`
adds a few steps.
-/

namespace L3Extract

open Transition

/-- How many steps the receiver can take before it sleeps on a listener that was not notified, or
`generate` returns, when the queue is empty. -/
def Receiving.rank {α : Type} : Receiving α → ℕ
  | .check => 4
  | .register => 3
  | .recheck => 2
  | .parked | .collecting _ => 1
  | .idle | .dropped => 0

namespace NotifyAction

variable {ι α : Type}

/-- The steps of the receiver. -/
def work : NotifyAction ι α → ℕ
  | .advance => 1
  | _ => 0

/-- How many steps of the receiver an action gives reason for. -/
def grant : NotifyAction ι α → ℕ
  | .generate | .notify _ => 4
  | .enqueue _ _ => 1
  | _ => 0

end NotifyAction

namespace NotifyChannel

variable {ι α : Type} [DecidableEq ι]

/-- A listener that was notified gives reason for one more round of the loop. -/
def reminder (listener : Option Bool) : ℕ := if listener = some true then 4 else 0

/-- How many steps the receiver has still reason for. -/
def potential (s : NotifyChannel ι α) : ℕ :=
  s.queue.length + s.receiver.rank + reminder s.listener

/-- A step of the receiver uses up what there was reason for. -/
theorem potential_advance {s s' : NotifyChannel ι α} (h : s.advance = some s') :
    1 + s'.potential ≤ s.potential := by
  unfold advance at h
  split at h
  case h_3 receiver =>
    cases h
    simp [potential, receiver, Receiving.rank, reminder]
    omega
  case h_6 receiver =>
    -- The listener was notified, and the loop begins again.
    split_ifs at h with notified
    cases h
    simp [potential, receiver, notified, Receiving.rank, reminder]
    omega
  case h_8 receiver queue =>
    split_ifs at h <;> cases h <;> simp [potential, receiver, queue, Receiving.rank]
  case h_9 => cases h
  case h_10 => cases h
  all_goals
    rename_i receiver queue
    cases h
    simp only [potential, receiver, queue, Receiving.rank, reminder, List.length_cons, reduceCtorEq,
      if_false]
    omega

/-- Every action is paid. -/
theorem potential_step {s s' : NotifyChannel ι α} {a : NotifyAction ι α} (h : s.step a = some s') :
    a.work + s'.potential ≤ a.grant + s.potential := by
  cases steps_of_step h with
  | cloned i j live new => exact Nat.le_refl _
  | dropped i live quiet => exact Nat.le_refl _
  | enqueued i v live =>
    have : (s.enqueue i v).potential ≤ 1 + s.potential := by
      unfold enqueue
      split
      · omega
      · simp only [potential, List.length_append, List.length_singleton]
        omega
    simpa [NotifyAction.work, NotifyAction.grant] using this
  | notified i sending =>
    -- A listener that was notified costs one more round of the loop.
    have : (s.notify i).potential ≤ 4 + s.potential := by
      have bound : reminder (s.listener.map fun _ => true) ≤ 4 := by
        unfold reminder
        split_ifs <;> omega
      simp only [potential, notify]
      omega
    simpa [NotifyAction.work, NotifyAction.grant] using this
  | called receiver =>
    simp only [NotifyAction.work, NotifyAction.grant, potential, receiver, Receiving.rank]
    omega
  | advanced s' eq => simpa [NotifyAction.work, NotifyAction.grant] using potential_advance eq
  | cancelled receiver =>
    simp only [NotifyAction.work, NotifyAction.grant, potential, Receiving.rank, reminder,
      reduceCtorEq, if_false]
    omega
  | receiver_dropped receiver =>
    simp only [NotifyAction.work, NotifyAction.grant, potential, Receiving.rank, List.length_nil]
    omega

/-- In every stretch of a run, with any senders and whatever they do, and with `wait` cancelled and
begun again anywhere, the receiver takes no more steps than there were reasons for: four for every
call of `generate` and every `notify`, one for every value that is put into the queue, and those
that were left when the stretch began. -/
theorem work_le {s s' : NotifyChannel ι α} {as : List (NotifyAction ι α)}
    (h : exec step s as = some s') :
    (as.map NotifyAction.work).sum + s'.potential ≤ (as.map NotifyAction.grant).sum + s.potential :=
  exec_cost_le (fun _ _ _ => potential_step) h

/-- A `notify` that comes late costs one more round, in which the queue is empty. -/
theorem work_le_spurious : ∃ s : NotifyChannel ℕ ℕ, s.receiver = .parked ∧
    exec step (new 0) [.enqueue 0 7, .generate, .advance, .advance, .advance, .generate, .advance,
      .advance, .notify 0, .advance, .advance, .advance, .advance, .advance] = some s ∧
    10 + s.potential ≤ 13 := by
  obtain ⟨s, run, test⟩ := exists_of_exec_any step (new 0 : NotifyChannel ℕ ℕ)
    [.enqueue 0 7, .generate, .advance, .advance, .advance, .generate, .advance, .advance,
      .notify 0, .advance, .advance, .advance, .advance, .advance]
    (fun s => s.receiver = .parked) (by decide +kernel)
  exact ⟨s, of_decide_eq_true test, run, work_le run⟩

end NotifyChannel

end L3Extract
