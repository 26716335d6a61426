import L3Extract.Lib.Transition
import L3Extract.Stack.State

/-!
# The notify channel

`src/notify_channel.rs` puts an unbounded channel together with an `event_listener::Event`, so that
the receiver can sleep until there is something to take. `NotifyChannel` is its state, and `step`
takes one atomic action of one party: of a `send`, which enqueues its value and then calls
`notify(1)`; of `wait`, which looks at the queue, makes a listener, looks again, and sleeps; or of
`collect_nonblock`, which `EventGenerator::generate` calls when `wait` returns. There may be any
number of clones of the sender, each in any number of `send`s. The future of `generate` may be
dropped wherever it is.

`no_lost_wakeup` is the point of the order of these actions. `channel_step` shows that the rest of
the development may take the whole for one `Channel`, whose receiver takes everything at once.
-/

namespace L3Extract

open Transition

/-- Where the receiver is. -/
inductive Receiving (α : Type)
  /-- `generate` is not running. -/
  | idle
  /-- `wait` is about to test `is_empty` for the first time in its loop. -/
  | check
  /-- It is about to make the listener. -/
  | register
  /-- It has a listener and is about to test `is_empty` again. -/
  | recheck
  /-- It awaits the listener. -/
  | parked
  /-- `collect_nonblock` took these items. -/
  | collecting (items : List α)
  /-- The receiver was dropped. -/
  | dropped
  deriving DecidableEq

/-- The senders and the receiver of a channel with the state between them. The clones of the
sender have names in `ι`. -/
structure NotifyChannel (ι α : Type) where
  queue : List α
  /-- The clones of the `NotifySender`. -/
  senders : Finset ι
  /-- How many `send`s of a clone have enqueued their value and not called `notify` yet. -/
  notifying : ι → ℕ
  receiver : Receiving α
  /-- The listener that is registered with the event, and whether it was notified. -/
  listener : Option Bool
  /-- All values that were ever put into the queue, in order. -/
  sent : List α
  /-- What `generate` returned, in order. -/
  batches : List (List α)

/-- An action of the channel. -/
inductive NotifyAction (ι α : Type)
  /-- The clone `i` is cloned, to `j`. -/
  | clone (i j : ι)
  | drop_sender (i : ι)
  /-- `self.sender.send(v)?` in a `send` of the clone `i`. -/
  | enqueue (i : ι) (v : α)
  /-- `self.event.notify(1)` after it. -/
  | notify (i : ι)
  /-- `generate` is called. -/
  | generate
  /-- The running `generate` takes its next step. -/
  | advance
  /-- The future of `generate` is dropped. -/
  | cancel
  | drop_receiver

namespace NotifyChannel

variable {ι α : Type}

/-- `channel`, with the name of the first sender. -/
def new (i : ι) : NotifyChannel ι α where
  queue := []
  senders := {i}
  notifying _ := 0
  receiver := .idle
  listener := none
  sent := []
  batches := []

variable [DecidableEq ι]

/-- `NotifySender::send` up to its `notify`: without a receiver it returns an error. -/
def enqueue (s : NotifyChannel ι α) (i : ι) (v : α) : NotifyChannel ι α :=
  match s.receiver with
  | .dropped => s
  | _ => { s with
      queue := s.queue ++ [v]
      notifying := Function.update s.notifying i (s.notifying i + 1)
      sent := s.sent ++ [v] }

/-- `self.event.notify(1)`: the listener is notified, if there is one. -/
def notify (s : NotifyChannel ι α) (i : ι) : NotifyChannel ι α := { s with
  notifying := Function.update s.notifying i (s.notifying i - 1)
  listener := s.listener.map fun _ => true }

/-- The next step of `generate`: of `wait`, and of `collect_nonblock` after it. -/
def advance (s : NotifyChannel ι α) : Option (NotifyChannel ι α) :=
  match s.receiver, s.queue with
  | .check, [] => some { s with receiver := .register }
  | .check, _ :: _ => some { s with receiver := .collecting [] }
  | .register, _ => some { s with receiver := .recheck, listener := some false }
  | .recheck, [] => some { s with receiver := .parked }
  -- The listener is dropped when `wait` returns.
  | .recheck, _ :: _ => some { s with receiver := .collecting [], listener := none }
  | .parked, _ => if s.listener = some true then
      some { s with receiver := .check, listener := none }
    else none
  | .collecting items, v :: queue => some { s with queue, receiver := .collecting (items ++ [v]) }
  | .collecting items, [] =>
    -- `TryRecvError::Disconnected` without a sender, and then the items are dropped.
    if s.senders = ∅ then some { s with receiver := .idle }
    else some { s with receiver := .idle, batches := s.batches ++ [items] }
  | .idle, _ => none
  | .dropped, _ => none

/-- The state after an action, if the action is possible. -/
def step (s : NotifyChannel ι α) : NotifyAction ι α → Option (NotifyChannel ι α)
  | .clone i j =>
    if i ∈ s.senders ∧ j ∉ s.senders then some { s with senders := insert j s.senders } else none
  | .drop_sender i =>
    if i ∈ s.senders ∧ s.notifying i = 0 then some { s with senders := s.senders.erase i } else none
  | .enqueue i v => if i ∈ s.senders then some (s.enqueue i v) else none
  | .notify i => if s.notifying i = 0 then none else some (s.notify i)
  | .generate =>
    match s.receiver with
    | .idle => some { s with receiver := .check }
    | _ => none
  | .advance => s.advance
  | .cancel =>
    match s.receiver with
    | .check | .register | .recheck | .parked => some { s with receiver := .idle, listener := none }
    | _ => none
  | .drop_receiver =>
    match s.receiver with
    | .idle => some { s with receiver := .dropped, queue := [] }
    | _ => none

/-- What an action does, by cases that the invariants go through. -/
inductive Steps (s : NotifyChannel ι α) : NotifyAction ι α → NotifyChannel ι α → Prop
  | cloned (i j : ι) (live : i ∈ s.senders) (new : j ∉ s.senders) :
      Steps s (.clone i j) { s with senders := insert j s.senders }
  | dropped (i : ι) (live : i ∈ s.senders) (quiet : s.notifying i = 0) :
      Steps s (.drop_sender i) { s with senders := s.senders.erase i }
  | enqueued (i : ι) (v : α) (live : i ∈ s.senders) : Steps s (.enqueue i v) (s.enqueue i v)
  | notified (i : ι) (sending : s.notifying i ≠ 0) : Steps s (.notify i) (s.notify i)
  | called (receiver : s.receiver = .idle) : Steps s .generate { s with receiver := .check }
  | advanced (s' : NotifyChannel ι α) (eq : s.advance = some s') : Steps s .advance s'
  | cancelled (receiver : s.receiver = .check ∨ s.receiver = .register ∨ s.receiver = .recheck ∨
      s.receiver = .parked) : Steps s .cancel { s with receiver := .idle, listener := none }
  | receiver_dropped (receiver : s.receiver = .idle) :
      Steps s .drop_receiver { s with receiver := .dropped, queue := [] }

/-- A step does nothing but what `Steps` lists. -/
theorem steps_of_step {s s' : NotifyChannel ι α} {a : NotifyAction ι α} (h : s.step a = some s') :
    Steps s a s' := by
  cases a with
  | clone i j =>
    simp only [step] at h
    split_ifs at h with hi
    cases h
    exact .cloned i j hi.1 hi.2
  | drop_sender i =>
    simp only [step] at h
    split_ifs at h with hi
    cases h
    exact .dropped i hi.1 hi.2
  | enqueue i v =>
    simp only [step] at h
    split_ifs at h with hi
    cases h
    exact .enqueued i v hi
  | notify i =>
    simp only [step] at h
    split_ifs at h with hi
    cases h
    exact .notified i hi
  | generate =>
    simp only [step] at h
    split at h
    · rename_i receiver
      cases h
      exact .called receiver
    · cases h
  | advance => exact .advanced s' h
  | cancel =>
    simp only [step] at h
    split at h
    case h_5 => cases h
    all_goals
      rename_i receiver
      cases h
      exact .cancelled (by simp [receiver])
  | drop_receiver =>
    simp only [step] at h
    split at h
    · rename_i receiver
      cases h
      exact .receiver_dropped receiver
    · cases h

/-! ## No wake-up is lost -/

/-- The receiver has a listener from its second test on, and when it sleeps on one that was not
notified while the queue has a value, a sender is about to notify it. -/
structure Awake (s : NotifyChannel ι α) : Prop where
  registered : s.receiver = .recheck ∨ s.receiver = .parked → s.listener ≠ none
  notifying : s.receiver = .parked → s.listener = some false → s.queue ≠ [] →
    ∃ i ∈ s.senders, s.notifying i ≠ 0

omit [DecidableEq ι] in
/-- A receiver that does not sleep and that has no listener yet needs no one to wake it. -/
theorem Awake.of_receiver {s : NotifyChannel ι α} (recheck : s.receiver ≠ .recheck)
    (parked : s.receiver ≠ .parked) : Awake s where
  registered h := (h.elim recheck parked).elim
  notifying h := absurd h parked

/-- A message that is enqueued leaves the receiver awake, or about to be notified. -/
theorem Awake.enqueue {s : NotifyChannel ι α} (awake : Awake s) {i : ι} (live : i ∈ s.senders)
    (v : α) : Awake (s.enqueue i v) := by
  unfold NotifyChannel.enqueue
  split
  · exact awake
  · refine ⟨awake.registered, fun _ _ _ => ⟨i, live, ?_⟩⟩
    simp

/-- A notification wakes the receiver if it listens. -/
theorem Awake.notify {s : NotifyChannel ι α} (awake : Awake s) (i : ι) : Awake (s.notify i) where
  registered h := by
    simpa [NotifyChannel.notify] using awake.registered h
  notifying _ h := by
    -- Whatever the listener was, it is notified now.
    cases hl : s.listener <;> simp [NotifyChannel.notify, hl] at h

/-- The receiver goes to sleep only when nothing is there. -/
theorem Awake.advance {s s' : NotifyChannel ι α} (awake : Awake s) (h : s.advance = some s') :
    Awake s' := by
  unfold NotifyChannel.advance at h
  split at h
  · cases h
    exact .of_receiver (by simp) (by simp)
  · cases h
    exact .of_receiver (by simp) (by simp)
  · cases h
    exact ⟨fun _ => by simp, fun h => by simp at h⟩
  · -- The second test found the queue empty.
    rename_i receiver queue
    cases h
    exact ⟨fun _ => awake.registered (.inl receiver), fun _ _ filled => absurd queue filled⟩
  · cases h
    exact .of_receiver (by simp) (by simp)
  · split_ifs at h
    cases h
    exact .of_receiver (by simp) (by simp)
  · cases h
    exact .of_receiver (by simp) (by simp)
  · split_ifs at h <;> cases h <;> exact .of_receiver (by simp) (by simp)
  · cases h
  · cases h

/-- A step does not let the receiver sleep over a message. -/
theorem Awake.step {s s' : NotifyChannel ι α} {a : NotifyAction ι α} (awake : Awake s)
    (h : s.step a = some s') : Awake s' := by
  cases steps_of_step h with
  | cloned i j live new =>
    refine ⟨awake.registered, fun parked asleep filled => ?_⟩
    obtain ⟨k, live, hk⟩ := awake.notifying parked asleep filled
    exact ⟨k, Finset.mem_insert_of_mem live, hk⟩
  | dropped i live quiet =>
    -- The sender that is about to notify is another one.
    refine ⟨awake.registered, fun parked asleep filled => ?_⟩
    obtain ⟨k, live, hk⟩ := awake.notifying parked asleep filled
    exact ⟨k, Finset.mem_erase.mpr ⟨fun heq => hk (heq ▸ quiet), live⟩, hk⟩
  | enqueued i v live => exact awake.enqueue live v
  | notified i sending => exact awake.notify i
  | called receiver => exact .of_receiver (by simp) (by simp)
  | advanced s' eq => exact awake.advance eq
  | cancelled receiver => exact .of_receiver (by simp) (by simp)
  | receiver_dropped receiver => exact .of_receiver (by simp) (by simp)

/-- In no run the receiver sleeps over a message. -/
theorem awake_of_run (i : ι) {guard : NotifyChannel ι α → NotifyAction ι α → Prop}
    {s : NotifyChannel ι α} (run : Run step guard (new i) s) : Awake s :=
  run.invariant (I := Awake) (.of_receiver (by simp [new]) (by simp [new]))
    fun _ _ _ _ _ h awake => awake.step h

/-- In no state that senders and the receiver reach by any interleaving of their steps, with `wait`
cancelled and begun again at any point, does the receiver sleep on a listener that was not notified
while the queue has a value and no sender stands between its enqueue and its `notify`. -/
theorem no_lost_wakeup (i : ι) {s : NotifyChannel ι α} (run : Reachable step (new i) s) :
    ¬ (s.receiver = .parked ∧ s.listener ≠ some true ∧ s.queue ≠ [] ∧ ∀ i, s.notifying i = 0) := by
  have awake := awake_of_run i run
  rintro ⟨parked, asleep, filled, quiet⟩
  have listener : s.listener = some false := by
    cases hl : s.listener with
    | none => exact absurd hl (awake.registered (.inr parked))
    | some notified => cases notified <;> simp_all
  obtain ⟨k, -, hk⟩ := awake.notifying parked listener filled
  exact hk (quiet k)

/-- A value is put into the queue while the receiver sleeps: its sender is about to wake it. -/
theorem no_lost_wakeup_parked : ∃ s : NotifyChannel ℕ ℕ,
    exec step (new 0) [.clone 0 1, .generate, .advance, .advance, .advance, .enqueue 1 7] = some s ∧
    s.receiver = .parked ∧ s.queue = [7] ∧ ¬ ∀ i, s.notifying i = 0 := by
  obtain ⟨s, hs, ht⟩ := exists_of_exec_any step (new 0 : NotifyChannel ℕ ℕ)
    [.clone 0 1, .generate, .advance, .advance, .advance, .enqueue 1 7]
    (fun s => s.receiver = .parked ∧ s.queue = [7] ∧ s.listener = some false) (by decide +kernel)
  obtain ⟨parked, queue, listener⟩ := of_decide_eq_true ht
  refine ⟨s, hs, parked, queue, fun quiet => no_lost_wakeup 0 (Run.of_exec hs)
    ⟨parked, ?_, ?_, quiet⟩⟩
  · rw [listener]
    decide
  · rw [queue]
    decide

/-! ## The channel as a whole -/

/-- What was sent and is not in a batch: the items that were collected so far, and the queue. -/
def channel (s : NotifyChannel ι α) : Channel α where
  queue := (match s.receiver with | .collecting items => items | _ => []) ++ s.queue
  connected := match s.receiver with | .dropped => false | _ => true
  sent := s.sent

/-- While there is a sender, the channel behaves as a `Channel` of which `generate` takes all that
is in it at once. -/
inductive ChannelStep (s s' : NotifyChannel ι α) : Prop
  | kept (channel : s'.channel = s.channel) (batches : s'.batches = s.batches)
  | sent (v : α) (channel : s'.channel = s.channel.send v) (batches : s'.batches = s.batches)
  | generated (channel : s'.channel = s.channel.drain)
      (batches : s'.batches = s.batches ++ [s.channel.queue])
  | disconnected (channel : s'.channel = s.channel.disconnect) (batches : s'.batches = s.batches)

/-- What a step does to the channel while there are senders. -/
theorem channel_step {s s' : NotifyChannel ι α} {a : NotifyAction ι α} (h : s.step a = some s')
    (live : s.senders ≠ ∅) : ChannelStep s s' := by
  cases steps_of_step h with
  | cloned i j live new => exact .kept rfl rfl
  | dropped i live quiet => exact .kept rfl rfl
  | enqueued i v live =>
    cases hr : s.receiver <;>
      exact .sent v (by simp [enqueue, channel, hr, Channel.send]) (by simp [enqueue, hr])
  | notified i sending => exact .kept rfl rfl
  | called receiver => exact .kept (by simp [channel, receiver]) rfl
  | advanced s' eq =>
    unfold advance at eq
    split at eq
    case h_8 items receiver queue =>
      -- The queue is empty: what was collected is the batch.
      rw [if_neg live] at eq
      cases eq
      exact .generated (by simp [channel, receiver, queue, Channel.drain])
        (by simp [channel, receiver, queue])
    case h_3 receiver =>
      cases eq
      exact .kept (by simp [channel, receiver]) rfl
    case h_6 receiver =>
      split_ifs at eq
      cases eq
      exact .kept (by simp [channel, receiver]) rfl
    case h_9 => cases eq
    case h_10 => cases eq
    all_goals
      rename_i receiver queue
      cases eq
      exact .kept (by simp [channel, receiver, queue]) rfl
  | cancelled receiver =>
    rcases receiver with receiver | receiver | receiver | receiver <;>
      exact .kept (by simp [channel, receiver]) rfl
  | receiver_dropped receiver =>
    exact .disconnected (by simp [channel, receiver, Channel.disconnect]) rfl

end NotifyChannel

end L3Extract
