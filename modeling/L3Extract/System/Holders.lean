import L3Extract.System.Concurrent

/-!
# Where the references to a buffer are

`held` has the tokens of all requests, wherever they are, and `holders` says who has a reference to
a buffer. `Sound` says that no token is there twice, that the counts of references and senders are
those of the tokens, and that a request that was answered has no reference any more. Most turns only
move tokens, by `conserved`, and the others end some or make new ones: `Sound.of_move`,
`Sound.of_transfer`. `Sound.run` is the turn of a thread.
-/

namespace L3Extract

open OperationEvent Transition Threads TcpStack

variable {S : Smoltcp}

/-! ## The form of all threads -/

/-- What threads have to do: the operations of handlers and closures, or the casts of calls. -/
inductive Tidy : List (Op S) → Prop
  | blocks {ops : List (Op S)} (blocks : Blocks ops) : Tidy ops
  | casting {b : BufferId} {ops : List (Op S)} (blocks : Blocks ops) : Tidy (.cast b :: ops)
  | refused {b : BufferId} : Tidy [.release b, .cast b, .close b]

/-- Operations of handlers and closures cast no buffer. -/
theorem Blocks.not_mem_cast {ops : List (Op S)} (h : Blocks ops) (b : BufferId) :
    .cast b ∉ ops := by
  induction h with
  | nil => exact List.not_mem_nil
  | @plain op ops plain rest ih =>
    intro hm
    rcases List.mem_cons.mp hm with eq | hm
    · rw [← eq] at plain
      exact plain
    · exact ih hm
  | close rest ih => simpa using ih
  | answer rest ih => simpa using ih
  | drop rest ih => simpa using ih
  | settle rest ih => simpa using ih

/-- The events in the operations of a thread are paired. -/
theorem Tidy.paired {op : Op S} {ops : List (Op S)} (h : Tidy (op :: ops)) :
    ∀ e ∈ op.event, e.Paired := by
  intro e he
  cases op <;> simp only [Op.event, Multiset.mem_singleton, Multiset.notMem_zero] at he
  case register i side e =>
    subst he
    cases h with
    | blocks h => cases h with
      | plain plain => exact plain
  case send e =>
    subst he
    cases h with
    | blocks h => cases h with
      | plain plain => exact plain

/-- After its first operation, and with what that leaves to do, a thread has such a form again. -/
theorem Tidy.step {t : TcpStack S} {op : Op S} {ops : List (Op S)} (h : Tidy (op :: ops))
    (paired : ∀ e ∈ t.pending, e.Paired) : Tidy (t.next op ++ ops) := by
  have next := blocks_next paired h.paired
  cases h with
  | blocks blocks => exact .blocks (next.append blocks.tail)
  | casting blocks => exact .blocks blocks
  | refused => exact .casting (.close .nil)

/-- The sender of a request is where its reference is. -/
theorem Tidy.sender_of_buffer {ops : List (Op S)} (h : Tidy ops) {b : BufferId}
    (hb : .buffer b ∈ weight Op.tokens ops) : .sender b ∈ weight Op.tokens ops := by
  cases h with
  | blocks blocks => exact blocks.sender_of_buffer hb
  | @casting c ops blocks =>
    have hb : .buffer b ∈ weight Op.tokens ops := by simpa [Op.tokens] using hb
    simp [blocks.sender_of_buffer hb]
  | @refused c =>
    obtain rfl : b = c := by simpa [Op.tokens] using hb
    simp [Op.tokens]

/-! ## Tokens and holders -/

namespace System

/-- What the pending events hold. -/
def tokens (s : System S) : Multiset Token := s.pending.bind OperationEvent.tokens

/-- The tokens of the system are with the stack or in batches. -/
theorem tokens_eq (s : System S) : s.tokens =
    s.stack.tokens + (↑s.collected : Multiset OperationEvent).bind OperationEvent.tokens := by
  rw [tokens, pending, Multiset.add_bind, TcpStack.tokens]

end System

/-- Where a reference to a buffer can be. -/
inductive Holder
  | caller
  | channel
  | batch
  | waker (i : ℕ) (side : Side)
  | thread (i : ℕ)

namespace Concurrent

/-- All tokens. -/
def held (s : Concurrent S) : Multiset Token :=
  ↑(s.callers.map Token.caller) + s.sys.tokens + weigh Op.tokens s.threads

/-- The holders of a buffer: the caller, events in the channel, in batches, and in the closures of
wakers, and the other threads. -/
def holders (s : Concurrent S) (b : BufferId) : Set Holder := fun
  | .caller => b ∈ s.callers ∨ ∃ ops ∈ s.threads, .cast b ∈ ops
  | .channel => ∃ e ∈ s.sys.stack.operation_event.queue, e.buffer = some b
  | .batch => ∃ e ∈ s.sys.collected, e.buffer = some b
  | .waker i side => ∃ e, s.sys.stack.waker i side = some e ∧ e.buffer = some b
  | .thread i => ∃ ops, s.threads[i]? = some ops ∧ .cast b ∉ ops ∧ ∃ op ∈ ops, .buffer b ∈ op.tokens

/-- What holds of the tokens, the counts, and the threads in every state that is reached. -/
structure Sound (s : Concurrent S) : Prop where
  nodup : s.held.Nodup
  issued : ∀ x ∈ s.held, x.id < s.sys.issued.length
  paired : ∀ e ∈ s.sys.pending, e.Paired
  threads : ∀ ops ∈ s.threads, Tidy ops
  strong_count : ∀ b, s.strong_count b = s.held.count (.caller b) + s.held.count (.buffer b)
  senders : ∀ tx, s.senders tx = s.held.count (.sender tx)
  /-- A request that was answered has no reference any more. -/
  answered : ∀ a ∈ s.sys.stack.answers, a.1 < s.sys.issued.length ∧ .buffer a.1 ∉ s.held
  /-- A call that comes to its cast is the only one with a reference. -/
  casting : ∀ b ops, .cast b :: ops ∈ s.threads → .buffer b ∉ s.held
  casts : ∀ n ∈ s.casts, n = 1

/-- The new system is sound. -/
theorem sound_new (size : ℕ) (interface : S.Interface) : Sound (new size interface) where
  nodup := Multiset.nodup_zero
  issued x hx := absurd hx (Multiset.notMem_zero x)
  paired e he := absurd he (Multiset.notMem_zero e)
  threads ops h := by
    obtain rfl : ops = [] := by simpa [new] using h
    exact .blocks .nil
  strong_count _ := rfl
  senders _ := rfl
  answered a ha := by cases ha
  casting b ops h := by simp [new] at h
  casts n hn := by cases hn

/-- A reference that a request has is where its sender is. -/
theorem sender_of_buffer {sys : System S} (paired : ∀ e ∈ sys.pending, e.Paired)
    {threads : List (List (Op S))} (tidy : ∀ ops ∈ threads, Tidy ops) {b : BufferId}
    (hb : .buffer b ∈ sys.tokens + weigh Op.tokens threads) :
    .sender b ∈ sys.tokens + weigh Op.tokens threads := by
  rw [Multiset.mem_add] at hb ⊢
  rcases hb with hb | hb
  · obtain ⟨e, he, hb⟩ := Multiset.mem_bind.mp hb
    exact .inl (Multiset.mem_bind.mpr ⟨e, he, OperationEvent.sender_of_buffer (paired e he) hb⟩)
  · obtain ⟨ops, hops, hb⟩ := exists_of_mem_weigh hb
    exact .inr (mem_weigh hops ((tidy ops hops).sender_of_buffer hb))

/-- A buffer that is held is held by an event or by a thread. -/
theorem buffer_mem_held {s : Concurrent S} {b : BufferId} :
    .buffer b ∈ s.held ↔ .buffer b ∈ s.sys.tokens + weigh Op.tokens s.threads := by
  rw [held, add_assoc, Multiset.mem_add]
  simp

/-- Who holds a buffer has the sender for it there too. -/
theorem Sound.sender_of_buffer {s : Concurrent S} (h : Sound s) {b : BufferId}
    (hb : .buffer b ∈ s.held) : .sender b ∈ s.held := by
  have hs := Concurrent.sender_of_buffer h.paired h.threads (buffer_mem_held.mp hb)
  rw [held, add_assoc]
  exact Multiset.mem_add.mpr (.inr hs)

/-- What the threads hold is what one of them holds and what the others do. -/
theorem weigh_eq {threads : List (List (Op S))} {i : ℕ} {ops : List (Op S)}
    (hi : threads[i]? = some ops) :
    weigh Op.tokens threads = weigh Op.tokens (threads.set i []) + weight Op.tokens ops := by
  rw [weigh_set Op.tokens hi, weight_nil, add_zero]

/-- What one thread holds is there once, and nowhere else. -/
theorem Sound.apart {s : Concurrent S} (h : Sound s) {i : ℕ} {ops : List (Op S)}
    (hi : s.threads[i]? = some ops) : (weight Op.tokens ops).Nodup ∧
      Disjoint (s.sys.tokens + weigh Op.tokens (s.threads.set i [])) (weight Op.tokens ops) := by
  have nodup := h.nodup
  rw [held, add_assoc] at nodup
  have nodup := (Multiset.nodup_add.mp nodup).2.1
  rw [weigh_eq hi, ← add_assoc] at nodup
  exact (Multiset.nodup_add.mp nodup).2

/-- A request that is answered by the next operation of a thread has no reference any more. -/
theorem Sound.released_of_answer {s : Concurrent S} (h : Sound s) {i : ℕ} {tx : ResultTx}
    {a : Answer} {ops : List (Op S)} (hi : s.threads[i]? = some (.answer tx a :: ops)) :
    .sender tx ∈ s.held ∧ .buffer tx ∉ s.held := by
  obtain ⟨own, apart⟩ := h.apart hi
  have first : weight Op.tokens (.answer tx a :: ops) = weight Op.tokens ops := by
    have tokens : (Op.answer tx a : Op S).tokens = 0 := rfl
    rw [weight_cons, tokens, zero_add]
  rw [first] at own apart
  have thread : .sender tx ∈ weight Op.tokens ops ∧ .buffer tx ∉ weight Op.tokens ops := by
    cases h.threads _ (List.mem_of_getElem? hi) with
    | blocks blocks => exact blocks.released own
  have tidy : ∀ o ∈ s.threads.set i [], Tidy o := by
    intro o ho
    rcases List.mem_or_eq_of_mem_set ho with ho | rfl
    · exact h.threads o ho
    · exact .blocks .nil
  constructor
  · refine Multiset.mem_add.mpr (.inr ?_)
    rw [weigh_eq hi, first]
    exact Multiset.mem_add.mpr (.inr thread.1)
  · -- A reference elsewhere would have a sender with it, and there is no other.
    intro hb
    rw [buffer_mem_held, weigh_eq hi, first, ← add_assoc, Multiset.mem_add] at hb
    rcases hb with hb | hb
    · exact Multiset.disjoint_left.mp apart (Concurrent.sender_of_buffer h.paired tidy hb) thread.1
    · exact thread.2 hb

/-- When a call can learn its outcome, its request has no reference any more. -/
theorem Sound.released_of_learns {s : Concurrent S} (h : Sound s) {b : BufferId}
    (learns : s.learns b = true) : .buffer b ∉ s.held := by
  rw [Concurrent.learns, Bool.or_eq_true, decide_eq_true_eq, decide_eq_true_eq] at learns
  rcases learns with answered | gone
  · obtain ⟨a, ha, rfl⟩ := List.mem_map.mp answered
    exact (h.answered a ha).2
  · intro hb
    have := Multiset.count_pos.mpr (h.sender_of_buffer hb)
    rw [← h.senders, gone] at this
    exact Nat.lt_irrefl 0 this

/-! ## Turns that move tokens or end them -/

/-- A turn that moves tokens and ends those in `spent` keeps everything that `Sound` says. -/
theorem Sound.of_move {s s' : Concurrent S} (h : Sound s) (spent : Multiset Token)
    (held : s'.held + spent = s.held)
    (issued : s'.sys.issued = s.sys.issued)
    (paired : ∀ e ∈ s'.sys.pending, e.Paired)
    (threads : ∀ ops ∈ s'.threads, Tidy ops)
    (strong_count : ∀ b, s'.strong_count b =
      s.strong_count b - (spent.count (.caller b) + spent.count (.buffer b)))
    (senders : ∀ tx, s'.senders tx = s.senders tx - spent.count (.sender tx))
    (answers : ∃ new, s'.sys.stack.answers = s.sys.stack.answers ++ new ∧
      ∀ a ∈ new, a.1 < s.sys.issued.length ∧ .buffer a.1 ∉ s'.held)
    (casting : ∀ b ops, .cast b :: ops ∈ s'.threads →
      .cast b :: ops ∈ s.threads ∨ .buffer b ∉ s'.held)
    (casts : ∀ n ∈ s'.casts, n = 1) : Sound s' := by
  have le : s'.held ≤ s.held := by
    rw [← held]
    exact Multiset.le_add_right _ _
  have count : ∀ x, s.held.count x = s'.held.count x + spent.count x := fun x => by
    rw [← held, Multiset.count_add]
  exact {
    nodup := Multiset.nodup_of_le le h.nodup
    issued := fun x hx => issued ▸ h.issued x (Multiset.mem_of_le le hx)
    paired := paired
    threads := threads
    strong_count := fun b => by
      rw [strong_count, h.strong_count, count, count]
      omega
    senders := fun tx => by
      rw [senders, h.senders, count]
      omega
    answered := fun a ha => by
      obtain ⟨new, hnew, fresh⟩ := answers
      rw [hnew, List.mem_append] at ha
      rw [issued]
      rcases ha with ha | ha
      · exact ⟨(h.answered a ha).1, fun hb => (h.answered a ha).2 (Multiset.mem_of_le le hb)⟩
      · exact fresh a ha
    casting := fun b ops hops => by
      rcases casting b ops hops with hops | gone
      · exact fun hb => h.casting b ops hops (Multiset.mem_of_le le hb)
      · exact gone
    casts := casts }

/-- What happens outside of the threads and gives one of them more to do. -/
theorem Sound.of_transfer {s s' : Concurrent S} (h : Sound s) (ops : List (Op S))
    (blocks : Blocks ops)
    (threads : s'.threads = s.threads ∧ ops = [] ∨ s'.threads = s.threads ++ [ops] ∨
      s.threads[0]? = some [] ∧ s'.threads = s.threads.set 0 ops)
    (tokens : s'.sys.tokens + weight Op.tokens ops = s.sys.tokens)
    (paired : ∀ e ∈ s'.sys.pending, e.Paired)
    (issued : s'.sys.issued = s.sys.issued)
    (answers : s'.sys.stack.answers = s.sys.stack.answers) (callers : s'.callers = s.callers)
    (strong_count : s'.strong_count = s.strong_count) (senders : s'.senders = s.senders)
    (casts : s'.casts = s.casts) : Sound s' := by
  -- The threads gain the tokens that the rest gives up.
  have weighs : weigh Op.tokens s'.threads = weigh Op.tokens s.threads + weight Op.tokens ops := by
    rcases threads with ⟨eq, rfl⟩ | eq | ⟨idle, eq⟩
    · rw [eq, weight_nil, add_zero]
    · rw [eq, weigh_concat]
    · rw [eq, ← weigh_set Op.tokens idle ops, weight_nil, add_zero]
  have mem : ∀ o ∈ s'.threads, o ∈ s.threads ∨ o = ops := by
    intro o ho
    rcases threads with ⟨eq, -⟩ | eq | ⟨-, eq⟩
    · exact .inl (eq ▸ ho)
    · simpa [eq] using ho
    · rw [eq] at ho
      exact List.mem_or_eq_of_mem_set ho
  refine h.of_move 0 ?_ issued paired ?_ ?_ ?_ ⟨[], by rw [answers, List.append_nil], by simp⟩ ?_
    (casts ▸ h.casts)
  · rw [held, held, callers, weighs, ← tokens]
    abel
  · intro o ho
    rcases mem o ho with ho | rfl
    · exact h.threads o ho
    · exact .blocks blocks
  · simp [strong_count]
  · simp [senders]
  · intro b o ho
    rcases mem _ ho with ho | rfl
    · exact .inl ho
    · exact (blocks.not_mem_cast b List.mem_cons_self).elim

/-- The tokens of a list of events that are dropped. -/
theorem weight_drop_events (events : List OperationEvent) :
    weight Op.tokens (events.flatMap drop_ops : List (Op S)) =
      (↑events : Multiset OperationEvent).bind OperationEvent.tokens := by
  induction events with
  | nil => simp
  | cons e events ih =>
    rw [List.flatMap_cons, weight_append, weight_drop_ops, ih, ← Multiset.cons_coe,
      Multiset.cons_bind]

/-- Events are dropped in this form. -/
theorem blocks_drop_events {events : List OperationEvent} (paired : ∀ e ∈ events, e.Paired) :
    Blocks (events.flatMap drop_ops : List (Op S)) := by
  induction events with
  | nil => exact .nil
  | cons e events ih =>
    rw [List.flatMap_cons]
    exact (blocks_drop_ops (paired e List.mem_cons_self)).append
      (ih fun e' he' => paired e' (List.mem_cons_of_mem _ he'))

/-- Counting an operation leaves the callers. -/
theorem callers_count (s : Concurrent S) (op : Op S) : (s.count op).callers = s.callers := by
  cases op <;> rfl

/-- A value is less by one at one point. -/
theorem update_sub_one (f : ℕ → ℕ) (i j : ℕ) :
    Function.update f i (f i - 1) j = f j - if j = i then 1 else 0 := by
  rw [Function.update_apply]
  split_ifs with h
  · rw [h]
  · rfl

/-- An operation takes the references away that it ends. -/
theorem strong_count_count (s : Concurrent S) (op : Op S) (b : BufferId) :
    (s.count op).strong_count b =
      s.strong_count b - (op.spent.count (.caller b) + op.spent.count (.buffer b)) := by
  cases op with
  | release c => simp [count, drop_ref, Op.spent, update_sub_one, Multiset.count_singleton]
  | cast c => simp [count, drop_ref, Op.spent, update_sub_one, Multiset.count_singleton]
  | close tx => simp [count, Op.spent]
  | _ => simp [count, Op.spent]

/-- An operation takes off the senders that it uses up. -/
theorem senders_count (s : Concurrent S) (op : Op S) (tx : ResultTx) :
    (s.count op).senders tx = s.senders tx - op.spent.count (.sender tx) := by
  cases op with
  | release c => simp [count, drop_ref, Op.spent]
  | cast c => simp [count, drop_ref, Op.spent]
  | close tx => simp [count, Op.spent, update_sub_one, Multiset.count_singleton]
  | _ => simp [count, Op.spent]

/-- A cast finds the count at one. -/
theorem Sound.casts_count {s : Concurrent S} (h : Sound s) {i : ℕ} {op : Op S} {ops : List (Op S)}
    (hi : s.threads[i]? = some (op :: ops)) : ∀ n ∈ (s.count op).casts, n = 1 := by
  cases op with
  | cast b =>
    have hops := List.mem_of_getElem? hi
    have hc : .caller b ∈ s.held := by
      refine Multiset.mem_add.mpr (.inr (mem_weigh hops ?_))
      simp [Op.tokens]
    have one : s.strong_count b = 1 := by
      rw [h.strong_count, Multiset.count_eq_one_of_mem h.nodup hc,
        Multiset.count_eq_zero_of_notMem (h.casting b ops hops)]
    intro n hn
    rcases List.mem_append.mp hn with hn | hn
    · exact h.casts n hn
    · rw [List.mem_singleton.mp hn, one]
  | _ => exact h.casts

/-- The tokens of the stack and of the thread stay, but for those that the operation ends. -/
theorem held_run {s s' : Concurrent S} {i : ℕ} {op : Op S} {ops : List (Op S)}
    (hi : s.threads[i]? = some (op :: ops))
    (sys : s'.sys = { s.sys with stack := s.sys.stack.apply op })
    (threads : s'.threads = s.threads.set i (s.sys.stack.next op ++ ops))
    (callers : s'.callers = s.callers) : s'.held + op.spent = s.held := by
  have conserved := s.sys.stack.conserved op
  have weighs := weigh_set Op.tokens hi (s.sys.stack.next op ++ ops)
  have tokens : s'.sys.tokens = (s.sys.stack.apply op).tokens +
      (↑s.sys.collected : Multiset OperationEvent).bind OperationEvent.tokens := by
    rw [sys, System.tokens_eq]
    rfl
  rw [weight_cons, weight_append] at weighs
  -- Both sides are compared with the tokens of the operations before and after added.
  refine add_right_cancel (b := weight Op.tokens (s.sys.stack.next op) + op.tokens +
    weight Op.tokens ops) ?_
  rw [Concurrent.held, Concurrent.held, callers, tokens, threads, System.tokens_eq]
  calc _ = ↑(s.callers.map Token.caller) +
        (↑s.sys.collected : Multiset OperationEvent).bind OperationEvent.tokens +
        ((s.sys.stack.apply op).tokens + weight Op.tokens (s.sys.stack.next op) + op.spent) +
        (weigh Op.tokens (s.threads.set i (s.sys.stack.next op ++ ops)) +
          (op.tokens + weight Op.tokens ops)) := by abel
    _ = _ := by rw [conserved, weighs]; abel

/-- Only a call whose send failed comes to a cast after another operation, and that operation
dropped its event's reference. -/
theorem Sound.not_held_of_cast {s s' : Concurrent S} (h : Sound s) {op : Op S}
    {ops : List (Op S)} (tidy : Tidy (op :: ops)) (held : s'.held + op.spent = s.held)
    {b : BufferId}
    {o : List (Op S)} (ho : .cast b :: o = s.sys.stack.next op ++ ops) : .buffer b ∉ s'.held := by
  have stack_paired : ∀ e ∈ s.sys.stack.pending, e.Paired := fun e he =>
    h.paired e (Multiset.mem_add.mpr (.inl he))
  cases tidy with
  | blocks blocks =>
    have next := blocks_next stack_paired (Tidy.blocks blocks).paired
    have all := next.append blocks.tail
    rw [← ho] at all
    exact (all.not_mem_cast b List.mem_cons_self).elim
  | casting blocks =>
    rw [show s.sys.stack.next (.cast _ : Op S) = [] from rfl, List.nil_append] at ho
    rw [← ho] at blocks
    exact (blocks.not_mem_cast b List.mem_cons_self).elim
  | @refused c =>
    obtain rfl : b = c := by
      rw [show s.sys.stack.next (.release c : Op S) = [] from rfl, List.nil_append] at ho
      cases ho
      rfl
    have nodup := h.nodup
    rw [← held] at nodup
    exact fun hb => Multiset.disjoint_left.mp (Multiset.nodup_add.mp nodup).2.2 hb
      (Multiset.mem_singleton_self _)

/-- A thread does its next operation. -/
theorem Sound.run {s s' : Concurrent S} (h : Sound s) {i : ℕ} (steps : s.run i = some s') :
    Sound s' := by
  unfold Concurrent.run at steps
  split at steps
  · rename_i op ops hi
    have hs' := (Option.some.inj steps).symm
    have sys : s'.sys = { s.sys with stack := s.sys.stack.apply op } := by rw [hs']
    have threads : s'.threads = s.threads.set i (s.sys.stack.next op ++ ops) := by rw [hs']
    have callers : s'.callers = s.callers := by rw [hs', ← callers_count s op]
    have tidy := h.threads _ (List.mem_of_getElem? hi)
    have stack_paired : ∀ e ∈ s.sys.stack.pending, e.Paired := fun e he =>
      h.paired e (Multiset.mem_add.mpr (.inl he))
    have held := held_run hi sys threads callers
    refine h.of_move op.spent held (by rw [sys]) ?_ ?_ (fun b => ?_) (fun tx => ?_)
      ⟨op.answers, by rw [sys]; exact answers_apply _ op, ?_⟩ ?_ ?_
    · -- An event becomes pending only from the hands of the thread.
      intro e he
      rw [sys] at he
      rcases Multiset.mem_add.mp he with he | he
      · rcases Multiset.mem_add.mp (Multiset.mem_of_le (pending_apply_le _ op) he) with he | he
        · exact tidy.paired e he
        · exact stack_paired e he
      · exact h.paired e (Multiset.mem_add.mpr (.inr he))
    · intro o ho
      rw [threads] at ho
      rcases List.mem_or_eq_of_mem_set ho with ho | rfl
      · exact h.threads o ho
      · exact tidy.step stack_paired
    · rw [hs']
      exact strong_count_count s op b
    · rw [hs']
      exact senders_count s op tx
    · intro a ha
      cases op with
      | answer tx a' =>
        obtain rfl : a = (tx, a') := List.mem_singleton.mp ha
        obtain ⟨hs, hb⟩ := h.released_of_answer hi
        refine ⟨h.issued _ hs, fun hb' => hb ?_⟩
        rw [← held]
        exact Multiset.mem_add.mpr (.inl hb')
      | _ => cases ha
    · intro b o ho
      rw [threads] at ho
      rcases List.mem_or_eq_of_mem_set ho with ho | ho
      · exact .inl ho
      · exact .inr (h.not_held_of_cast tidy held ho)
    · rw [hs']
      exact h.casts_count hi
  · cases steps

end Concurrent

end L3Extract
