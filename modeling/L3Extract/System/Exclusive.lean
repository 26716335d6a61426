import L3Extract.System.SoleHolder

/-!
# Nobody else accesses a buffer

`AsIoBuf` and `AsIoBufMut` of `src/shared_buf.rs` are unsafe: while a handler has the slice of a
buffer, nobody else may have one, and the memory must be there. `accessors` says whose next step has
a slice of a buffer. Where it is not the stack that handles an event, it is a thread that is about
to write what was received, and that thread has yet to release its reference (`Backed`). Since no
reference is there twice (`Sound.holder_unique`), `exclusive_access` follows for every interleaving.
-/

namespace L3Extract

open OperationEvent Transition Threads TcpStack

variable {S : Smoltcp}

/-! ## Buffers that are still to be written -/

/-- The reference through which an operation writes is dropped only after it, by `ops`. -/
def Op.BackedBy (ops : List (Op S)) : Op S → Prop
  | .fill b _ => .release b ∈ ops
  | _ => True

/-- A buffer that a thread has yet to write is released later by the same thread. -/
def Backed : List (Op S) → Prop
  | [] => True
  | op :: ops => op.BackedBy ops ∧ Backed ops

namespace Backed

/-- Two parts of this form, one after the other, are of this form. -/
theorem append {ops ops' : List (Op S)} (h : Backed ops) (h' : Backed ops') :
    Backed (ops ++ ops') := by
  induction ops with
  | nil => exact h'
  | cons op ops ih =>
    refine ⟨?_, ih h.2⟩
    cases op with
    | fill b data => exact List.mem_append_left _ h.1
    | _ => trivial

/-- An event is dropped in this form. -/
theorem drop_ops (e : OperationEvent) : Backed (L3Extract.drop_ops e : List (Op S)) := by
  cases e <;> simp [L3Extract.drop_ops, Backed, Op.BackedBy]

/-- The waker of a side is dropped in this form. -/
theorem drop_waker_ops (t : TcpStack S) (i : ℕ) (side : Side) :
    Backed (t.drop_waker_ops i side) := by
  unfold TcpStack.drop_waker_ops
  cases t.waker i side with
  | none => trivial
  | some e => exact drop_ops e

/-- A waker runs in this form. -/
theorem waker_ops (e : OperationEvent) : Backed (L3Extract.waker_ops e : List (Op S)) := by
  cases e <;> simp [L3Extract.waker_ops, Backed, Op.BackedBy]

/-- What is done with an event that could not be sent is of this form. -/
theorem send_failed_ops (e : OperationEvent) :
    Backed (L3Extract.send_failed_ops e : List (Op S)) := by
  cases e <;> simp [L3Extract.send_failed_ops, L3Extract.drop_ops, Backed, Op.BackedBy]

/-- What an operation leaves to do writes nothing. -/
theorem next (t : TcpStack S) (op : Op S) : Backed (t.next op) := by
  cases op with
  | register i side e =>
    simp only [TcpStack.next]
    split
    · exact drop_waker_ops t i side
    · exact drop_ops e
  | wake i side =>
    simp only [TcpStack.next]
    cases t.waker i side with
    | none => trivial
    | some e => exact waker_ops e
  | remove i => exact (drop_waker_ops t i .recv).append (drop_waker_ops t i .send)
  | send e =>
    simp only [TcpStack.next]
    split
    · trivial
    · exact send_failed_ops e
  | _ => trivial

/-- Parts of this form, one after the other, are of this form. -/
theorem flatMap {α : Type*} {f : α → List (Op S)} (each : ∀ a, Backed (f a)) (as : List α) :
    Backed (as.flatMap f) := by
  induction as with
  | nil => trivial
  | cons a as ih =>
    rw [List.flatMap_cons]
    exact (each a).append ih

/-- A poll runs its wakers in this form. -/
theorem poll_ops (t : TcpStack S) (now : ℕ) : Backed (t.poll_ops now) := by
  refine ⟨trivial, ?_⟩
  induction (t.poll_result now).woken with
  | nil => trivial
  | cons w woken ih => exact ⟨trivial, ih⟩

/-- The stack is dropped in this form. -/
theorem drop_stack_ops (t : TcpStack S) : Backed t.drop_stack_ops := by
  refine flatMap (fun slot => ?_) _
  cases slot with
  | none => trivial
  | some p =>
    have waker : ∀ o : Option OperationEvent,
        Backed (o.elim [] L3Extract.drop_ops : List (Op S)) := by
      intro o
      cases o with
      | none => trivial
      | some e => exact drop_ops e
    exact (waker _).append (waker _)

/-- A TCP socket is closed in this form. -/
theorem close_tcp_ops (i : ℕ) (c : S.Tcp) : Backed (TcpStack.close_tcp_ops i c) := by
  unfold TcpStack.close_tcp_ops
  split <;> simp [Backed, Op.BackedBy]

/-- A handler that writes into the buffer of its event releases it afterwards. -/
theorem handle_ops {t : TcpStack S} {e : OperationEvent} {ops : List (Op S)}
    (ok : t.handle_ops e = .ok ops) : Backed ops := by
  cases e with
  | ready h =>
    simp only [TcpStack.handle_ops, handle_ready_wake_event_ops] at ok
    cases h with
    | tcp handle =>
      obtain ⟨c, -, ok⟩ := except_bind_eq_ok.mp ok
      split at ok
      · cases ok
        exact ⟨trivial, trivial⟩
      · split at ok <;> cases ok
        exact ⟨trivial, trivial⟩
    | udp handle =>
      obtain ⟨u, -, ok⟩ := except_bind_eq_ok.mp ok
      split at ok <;> cases ok
      exact ⟨trivial, trivial⟩
  | shutdown h tx =>
    simp only [TcpStack.handle_ops, handle_shutdown_event_ops] at ok
    split at ok
    · cases h with
      | tcp handle =>
        obtain ⟨c, -, ok⟩ := except_bind_eq_ok.mp ok
        cases ok
        exact ⟨trivial, close_tcp_ops _ c⟩
      | udp handle => cases ok
    · cases ok
      simp [Backed, Op.BackedBy]
  | close h =>
    simp only [TcpStack.handle_ops, handle_close_event_ops] at ok
    split at ok
    · cases h with
      | tcp handle =>
        obtain ⟨c, -, ok⟩ := except_bind_eq_ok.mp ok
        split at ok <;> cases ok
        · exact (close_tcp_ops _ c).append ⟨trivial, trivial, trivial⟩
        · exact (close_tcp_ops _ c).append ⟨trivial, trivial⟩
      | udp handle =>
        obtain ⟨u, -, ok⟩ := except_bind_eq_ok.mp ok
        split at ok <;> cases ok
        simp [close_udp_ops, remove_udp_socket_ops, Backed, Op.BackedBy]
    · cases ok
      trivial
  | read handle buffer tx =>
    simp only [TcpStack.handle_ops, handle_tcp_wake_event_ops] at ok
    split at ok
    · cases ok
      simp [Backed, Op.BackedBy]
    · obtain ⟨c, -, ok⟩ := except_bind_eq_ok.mp ok
      split at ok
      · split at ok <;> cases ok <;> simp [Backed, Op.BackedBy]
      · split at ok <;> cases ok <;> simp [Backed, Op.BackedBy]
  | write handle buffer tx =>
    simp only [TcpStack.handle_ops, handle_tcp_wake_event_ops] at ok
    split at ok
    · cases ok
      simp [Backed, Op.BackedBy]
    · obtain ⟨c, -, ok⟩ := except_bind_eq_ok.mp ok
      split at ok
      · split at ok <;> cases ok <;> simp [Backed, Op.BackedBy]
      · split at ok <;> cases ok <;> simp [Backed, Op.BackedBy]
  | recv handle buffer tx =>
    simp only [TcpStack.handle_ops, handle_udp_wake_event_ops] at ok
    split at ok
    · cases ok
      simp [Backed, Op.BackedBy]
    · obtain ⟨u, -, ok⟩ := except_bind_eq_ok.mp ok
      split at ok
      · cases ok
        simp [Backed, Op.BackedBy]
      · split at ok <;> cases ok <;> simp [Backed, Op.BackedBy]
  | send handle src buffer tx =>
    simp only [TcpStack.handle_ops, handle_udp_wake_event_ops] at ok
    split at ok
    · cases ok
      simp [Backed, Op.BackedBy]
    · obtain ⟨u, -, ok⟩ := except_bind_eq_ok.mp ok
      split at ok
      · cases ok
        simp [Backed, Op.BackedBy]
      · split at ok <;> cases ok <;> simp [Backed, Op.BackedBy]

end Backed

namespace Concurrent

/-! ## Every turn -/

/-- A thread does its next operation. -/
theorem backed_run {s s' : Concurrent S} {i : ℕ} (steps : s.run i = some s')
    (h : ∀ ops ∈ s.threads, Backed ops) : ∀ ops ∈ s'.threads, Backed ops := by
  unfold Concurrent.run at steps
  split at steps
  · rename_i op ops hi
    cases steps
    intro o ho
    rcases List.mem_or_eq_of_mem_set ho with ho | rfl
    · exact h o ho
    · have own := h _ (List.mem_of_getElem? hi)
      exact (Backed.next s.sys.stack op).append own.2
  · cases steps

/-- The driving thread takes on operations of this form. -/
theorem backed_load {s : Concurrent S} {new : List (Op S)} (backed : Backed new)
    (h : ∀ ops ∈ s.threads, Backed ops) : ∀ ops ∈ (s.load new).threads, Backed ops := by
  intro o ho
  rcases List.mem_or_eq_of_mem_set ho with ho | rfl
  · exact h o ho
  · exact backed

/-- A thread is added with operations of this form. -/
theorem backed_spawn {s : Concurrent S} {new : List (Op S)} (backed : Backed new)
    (h : ∀ ops ∈ s.threads, Backed ops) : ∀ ops ∈ (s.spawn new).threads, Backed ops := by
  intro o ho
  rcases List.mem_append.mp ho with ho | ho
  · exact h o ho
  · rw [List.mem_singleton.mp ho]
    exact backed

/-- A call of `drive_once` begins in this form. -/
theorem backed_start {s s' : Concurrent S} {packet : Option Packet} {now : ℕ} {batch : Option ℕ}
    (steps : s.start packet now batch = some s') (h : ∀ ops ∈ s.threads, Backed ops) :
    ∀ ops ∈ s'.threads, Backed ops := by
  unfold Concurrent.start at steps
  split at steps
  · cases steps
  · split at steps
    · cases steps
    · split at steps
      · cases steps
      · cases steps
        exact backed_load (Backed.flatMap Backed.drop_ops _) h
      · split at steps
        · cases steps
        · cases steps
          exact backed_load (Backed.poll_ops _ _) h

/-- A call of a user is of this form. -/
theorem backed_call {s : Concurrent S} (c : Call) (h : ∀ ops ∈ s.threads, Backed ops) :
    ∀ ops ∈ (s.call c).threads, Backed ops := by
  unfold Concurrent.call
  dsimp only
  split
  · exact h
  · refine backed_spawn ?_ h
    cases c <;> simp [Call.refused_ops, Backed, Op.BackedBy]

/-- What an action adds is of this form. -/
theorem backed_act {s s' : Concurrent S} {a : Action} (steps : s.act a = some s')
    (h : ∀ ops ∈ s.threads, Backed ops) : ∀ ops ∈ s'.threads, Backed ops := by
  have of_sys : (s.sys.step a).map (fun sys => { s with sys }) = some s' →
      ∀ ops ∈ s'.threads, Backed ops := by
    intro steps
    obtain ⟨sys, -, rfl⟩ := Option.map_eq_some_iff.mp steps
    exact h
  cases a with
  | start packet now batch => exact backed_start steps h
  | event =>
    simp only [Concurrent.act, Concurrent.event] at steps
    split at steps
    · split at steps
      · split at steps
        · cases steps
        · rename_i ops ok
          cases steps
          exact backed_load (Backed.handle_ops ok) h
      · cases steps
    · cases steps
  | finish =>
    simp only [Concurrent.act] at steps
    split at steps
    · exact of_sys steps
    · cases steps
  | drop_batch i =>
    obtain ⟨sys, -, rfl⟩ := Option.map_eq_some_iff.mp steps
    exact backed_spawn (Backed.flatMap Backed.drop_ops _) h
  | drop_generator =>
    obtain rfl := Option.some.inj steps
    exact backed_spawn (Backed.flatMap Backed.drop_ops _) h
  | call c =>
    simp only [Concurrent.act] at steps
    split at steps
    · cases steps
      exact backed_call c h
    · cases steps
  | return_ rx =>
    simp only [Concurrent.act] at steps
    split at steps
    · cases steps
      refine backed_spawn ?_ h
      split_ifs
      · exact ⟨trivial, trivial⟩
      · trivial
    · cases steps
  | drop_future rx =>
    simp only [Concurrent.act] at steps
    split at steps
    · cases steps
      split_ifs
      · exact h
      · exact h
    · cases steps
  | generate => exact of_sys steps
  | accept_tcp => exact of_sys steps
  | accept_udp => exact of_sys steps
  | drop_tcp_acceptor => exact of_sys steps
  | drop_udp_acceptor => exact of_sys steps
  | drop_tcp_stream stream => exact of_sys steps
  | drop_udp_socket socket => exact of_sys steps

/-- In every state that is reached, a buffer that a thread has yet to write is released later. -/
theorem backed_of_run {size : ℕ} {interface : S.Interface} {s : Concurrent S}
    (run : Reachable step (new size interface) s) : ∀ ops ∈ s.threads, Backed ops := by
  refine run.invariant (I := fun s => ∀ ops ∈ s.threads, Backed ops) ?_
    fun s turn s' _ _ steps h => ?_
  · intro ops hops
    obtain rfl : ops = [] := by simpa [new] using hops
    trivial
  · cases turn with
    | run i => exact backed_run steps h
    | drop_stack =>
      simp only [Concurrent.step] at steps
      split at steps
      · cases steps
      · cases steps
        exact backed_load (Backed.drop_stack_ops _) h
    | generate_failed =>
      simp only [Concurrent.step] at steps
      split at steps
      · cases steps
        exact backed_spawn (Backed.flatMap Backed.drop_ops _) h
      · cases steps
    | act a => exact backed_act steps h

/-! ## One holder besides the caller -/

/-- Two wakers that keep an event with a buffer need two references to it. -/
theorem waker_unique {t : TcpStack S} {b : BufferId} (once : t.tokens.count (.buffer b) ≤ 1)
    {i j : ℕ} {side side' : Side} {e e' : OperationEvent} (hi : t.waker i side = some e)
    (he : e.buffer = some b) (hj : t.waker j side' = some e') (he' : e'.buffer = some b) :
    i = j ∧ side = side' := by
  by_contra apart
  have stays : (t.unregister i side).waker j side' = some e' := by
    rw [waker_unregister, if_neg fun h => apart ⟨h.1.symm, h.2.symm⟩, hj]
  have pending : (t.unregister i side).pending + {e} = t.pending := by
    rw [pending, pending, ← parked_unregister hi, ← add_assoc]
    rfl
  have tokens : (t.unregister i side).tokens + e.tokens = t.tokens := by
    rw [TcpStack.tokens, TcpStack.tokens, ← pending, Multiset.add_bind, Multiset.singleton_bind]
  have first : .buffer b ∈ e.tokens := by simp [OperationEvent.tokens, he]
  have second : .buffer b ∈ (t.unregister i side).tokens := by
    refine Multiset.mem_bind.mpr ⟨e', mem_pending_of_waker stays, ?_⟩
    simp [OperationEvent.tokens, he']
  have one := Multiset.count_pos.mpr first
  have another := Multiset.count_pos.mpr second
  rw [← tokens, Multiset.count_add] at once
  omega

/-- Two threads that have a buffer to release need two references to it. -/
theorem Sound.thread_unique {s : Concurrent S} (h : Sound s) {b : BufferId} {i j : ℕ}
    {ops ops' : List (Op S)} (hi : s.threads[i]? = some ops) (hj : s.threads[j]? = some ops')
    (hb : .buffer b ∈ weight Op.tokens ops) (hb' : .buffer b ∈ weight Op.tokens ops') : i = j := by
  by_contra other
  obtain ⟨-, apart⟩ := h.apart hi
  have stays : (s.threads.set i [])[j]? = some ops' := by
    rw [List.getElem?_set_ne other, hj]
  have elsewhere := mem_weigh (List.mem_of_getElem? stays) hb'
  exact Multiset.disjoint_left.mp apart (Multiset.mem_add.mpr (.inr elsewhere)) hb

/-- What is known of the places where a reference can be: all in all there is at most one. -/
theorem Sound.places {s : Concurrent S} (h : Sound s) (b : BufferId) :
    s.sys.stack.tokens.count (.buffer b) +
      ((↑s.sys.collected : Multiset OperationEvent).bind OperationEvent.tokens).count (.buffer b) +
      (weigh Op.tokens s.threads).count (.buffer b) ≤ 1 := by
  have once := Multiset.nodup_iff_count_le_one.mp h.nodup (.buffer b)
  rw [held, Multiset.count_add, Multiset.count_add, System.tokens_eq, Multiset.count_add] at once
  omega

/-- Besides the caller, a buffer has at most one holder. -/
theorem Sound.holder_unique {s : Concurrent S} (h : Sound s) {b : BufferId} {x y : Holder}
    (hx : x ∈ s.holders b) (hy : y ∈ s.holders b) (not_x : x ≠ .caller) (not_y : y ≠ .caller) :
    x = y := by
  have once := h.places b
  -- Each holder has its reference in one of the places that are counted there.
  have in_queue : .channel ∈ s.holders b →
      0 < ((↑s.sys.stack.operation_event.queue : Multiset OperationEvent).bind
        OperationEvent.tokens).count (.buffer b) := by
    rintro ⟨e, he, hb⟩
    refine Multiset.count_pos.mpr (Multiset.mem_bind.mpr ⟨e, he, ?_⟩)
    simp [OperationEvent.tokens, hb]
  have in_batch : .batch ∈ s.holders b →
      0 < ((↑s.sys.collected : Multiset OperationEvent).bind
        OperationEvent.tokens).count (.buffer b) := by
    rintro ⟨e, he, hb⟩
    refine Multiset.count_pos.mpr (Multiset.mem_bind.mpr ⟨e, he, ?_⟩)
    simp [OperationEvent.tokens, hb]
  have in_waker : ∀ i side, .waker i side ∈ s.holders b →
      0 < (s.sys.stack.parked.bind OperationEvent.tokens).count (.buffer b) := by
    rintro i side ⟨e, he, hb⟩
    refine Multiset.count_pos.mpr (Multiset.mem_bind.mpr ⟨e, mem_parked_of_waker he, ?_⟩)
    simp [OperationEvent.tokens, hb]
  have in_thread : ∀ i, .thread i ∈ s.holders b →
      0 < (weigh Op.tokens s.threads).count (.buffer b) := by
    rintro i ⟨ops, hi, -, op, hop, hb⟩
    exact Multiset.count_pos.mpr (mem_weigh (List.mem_of_getElem? hi) (mem_weight hop hb))
  have stack : s.sys.stack.tokens.count (.buffer b) =
      ((↑s.sys.stack.operation_event.queue : Multiset OperationEvent).bind
        OperationEvent.tokens).count (.buffer b) +
        (s.sys.stack.parked.bind OperationEvent.tokens).count (.buffer b) := by
    rw [TcpStack.tokens, TcpStack.pending, Multiset.add_bind, Multiset.count_add]
  cases x with
  | caller => exact absurd rfl not_x
  | channel =>
    have := in_queue hx
    cases y with
    | caller => exact absurd rfl not_y
    | channel => rfl
    | batch => have := in_batch hy; omega
    | waker j side => have := in_waker j side hy; omega
    | thread j => have := in_thread j hy; omega
  | batch =>
    have := in_batch hx
    cases y with
    | caller => exact absurd rfl not_y
    | channel => have := in_queue hy; omega
    | batch => rfl
    | waker j side => have := in_waker j side hy; omega
    | thread j => have := in_thread j hy; omega
  | waker i side =>
    have := in_waker i side hx
    cases y with
    | caller => exact absurd rfl not_y
    | channel => have := in_queue hy; omega
    | batch => have := in_batch hy; omega
    | waker j side' =>
      obtain ⟨e, he, hb⟩ := hx
      obtain ⟨e', he', hb'⟩ := hy
      obtain ⟨rfl, rfl⟩ := waker_unique (t := s.sys.stack) (by omega) he hb he' hb'
      rfl
    | thread j => have := in_thread j hy; omega
  | thread i =>
    have := in_thread i hx
    cases y with
    | caller => exact absurd rfl not_y
    | channel => have := in_queue hy; omega
    | batch => have := in_batch hy; omega
    | waker j side => have := in_waker j side hy; omega
    | thread j =>
      obtain ⟨ops, hi, -, op, hop, hb⟩ := hx
      obtain ⟨ops', hj, -, op', hop', hb'⟩ := hy
      rw [h.thread_unique hi hj (mem_weight hop hb) (mem_weight hop' hb')]

/-! ## Accesses -/

/-- Who uses the slice of a buffer in the next step: the handler of the next event in the batch,
which has `as_slice` or `as_slice_mut` of the event's buffer, or a thread that writes what was
received, and then calls `set_initiated_len`. -/
def accessors (s : Concurrent S) (b : BufferId) : Set Holder := fun
  | .batch => ∃ e events, s.sys.driving = some (e :: events) ∧ e.buffer = some b
  | .thread i => ∃ data ops, s.threads[i]? = some (.fill b data :: ops)
  | _ => False

/-- Who accesses a buffer has a reference to it. -/
theorem Sound.holder_of_access {s : Concurrent S} (h : Sound s)
    (backed : ∀ ops ∈ s.threads, Backed ops) {b : BufferId} {x : Holder}
    (acc : x ∈ s.accessors b) : x ∈ s.holders b ∧ x ≠ .caller := by
  cases x with
  | caller => exact absurd acc id
  | channel => exact absurd acc id
  | waker i side => exact absurd acc id
  | batch =>
    obtain ⟨e, events, driving, hb⟩ := acc
    refine ⟨⟨e, ?_, hb⟩, Holder.noConfusion⟩
    rw [System.collected, driving]
    simp
  | thread i =>
    obtain ⟨data, ops, hi⟩ := acc
    have hops := List.mem_of_getElem? hi
    have later : .release b ∈ ops := (backed _ hops).1
    refine ⟨⟨_, hi, ?_, .release b, List.mem_cons_of_mem _ later, ?_⟩, Holder.noConfusion⟩
    · -- The other forms of a thread begin with an operation that writes nothing.
      cases h.threads _ hops with
      | blocks blocks => exact blocks.not_mem_cast b
    · simp [Op.tokens]

/-- A buffer that no thread casts has a reference of each call that waits for it. -/
theorem count_caller {s : Concurrent S} {b : BufferId}
    (no_cast : ∀ ops ∈ s.threads, .cast b ∉ ops) :
    s.held.count (.caller b) = s.callers.count b := by
  have stack : .caller b ∉ s.sys.tokens := by
    intro hm
    obtain ⟨e, -, he⟩ := Multiset.mem_bind.mp hm
    simp [OperationEvent.tokens] at he
  have threads : .caller b ∉ weigh Op.tokens s.threads := by
    intro hm
    obtain ⟨ops, hops, hm⟩ := exists_of_mem_weigh hm
    have cast : .cast b ∈ ops := by
      have := no_cast ops hops
      clear hops
      induction ops with
      | nil => simp at hm
      | cons op ops ih =>
        rw [weight_cons, Multiset.mem_add] at hm
        rcases hm with hm | hm
        · cases op <;> simp [Op.tokens, OperationEvent.tokens] at hm
          rw [hm]
          exact List.mem_cons_self
        · exact List.mem_cons_of_mem _ (ih hm fun h => this (List.mem_cons_of_mem _ h))
    exact no_cast ops hops cast
  rw [held, Multiset.count_add, Multiset.count_add, Multiset.count_eq_zero_of_notMem stack,
    Multiset.count_eq_zero_of_notMem threads, Multiset.coe_count]
  exact List.count_map_of_injective _ _ (fun _ _ => Token.caller.inj) b

/-- In every run of callers, stack, generator, and acceptors, whoever uses the slice of a buffer is
the only one that does, and has the only reference to it but the caller's. The caller waits: its
outcome cannot be seen, and no thread takes the buffer out of its `Arc`. -/
theorem exclusive_access {size : ℕ} {interface : S.Interface} {s : Concurrent S}
    (run : Reachable step (new size interface) s) {b : BufferId} {x : Holder}
    (acc : x ∈ s.accessors b) : s.accessors b = {x} ∧ s.holders b \ {.caller} = {x} ∧
      s.strong_count b = s.callers.count b + 1 ∧ s.learns b = false ∧
      ∀ ops ∈ s.threads, .cast b ∉ ops := by
  have sound := sound_of_run run
  have backed := backed_of_run run
  obtain ⟨holds, not_caller⟩ := sound.holder_of_access backed acc
  have alone : ∀ y ∈ s.holders b, y ≠ .caller → y = x := fun y hy not_y =>
    sound.holder_unique hy holds not_y not_caller
  have no_cast : ∀ ops ∈ s.threads, .cast b ∉ ops := by
    intro ops hops cast
    rw [sound.holders_of_cast hops cast] at holds
    exact not_caller holds
  -- The reference of the holder is among the tokens.
  have there : .buffer b ∈ s.held := by
    by_contra gone
    have none := mt buffer_mem_held.mpr gone
    rw [Multiset.mem_add, not_or] at none
    cases x with
    | caller => exact not_caller rfl
    | channel => exact acc
    | waker i side => exact acc
    | batch =>
      obtain ⟨e, he, hb⟩ := holds
      refine none.1 (Multiset.mem_bind.mpr ⟨e, Multiset.mem_add.mpr (.inr he), ?_⟩)
      simp [OperationEvent.tokens, hb]
    | thread i =>
      obtain ⟨ops, hi, -, op, hop, hb⟩ := holds
      exact none.2 (mem_weigh (List.mem_of_getElem? hi) (mem_weight hop hb))
  refine ⟨?_, ?_, ?_, ?_, no_cast⟩
  · ext y
    constructor
    · intro hy
      obtain ⟨holds, not_y⟩ := sound.holder_of_access backed hy
      exact alone y holds not_y
    · rintro rfl
      exact acc
  · ext y
    constructor
    · rintro ⟨hy, not_y⟩
      exact alone y hy not_y
    · rintro rfl
      exact ⟨holds, not_caller⟩
  · rw [sound.strong_count, count_caller no_cast, Multiset.count_eq_one_of_mem sound.nodup there]
  · by_contra learns
    rw [Bool.not_eq_false] at learns
    exact sound.released_of_learns learns there

open Reference in
/-- A recv whose datagram is about to be written into its buffer, while the call waits, and a second
one whose event is next. -/
def two_recvs : List Turn := [
  .act (.start (some (udp_packet 1 2 [7])) 0 none), .run 0, .run 0, .act .finish, .act .generate,
  .act (.start none 0 (some 0)), .run 0, .act .event, .run 0, .act .finish, .act .accept_udp,
  .act (.call (.recv ⟨⟨0, 0⟩, server_addr 2⟩ ⟨[1, 2], 0⟩)),
  .act (.call (.recv ⟨⟨0, 0⟩, server_addr 2⟩ ⟨[1, 2], 0⟩)), .act .generate,
  .act (.start none 0 (some 0)), .run 0, .act .event, .run 0]

/-- The first of the two buffers is accessed by the thread that drives the stack, and the second by
the handler that comes next. -/
theorem exclusive_access_two_recvs : ∃ s : Concurrent reference,
    Reachable step (new 64 ()) s ∧ s.callers = [0, 1] ∧ s.holders 0 \ {.caller} = {.thread 0} ∧
    s.strong_count 0 = 2 ∧ s.holders 1 \ {.caller} = {.batch} ∧ s.strong_count 1 = 2 := by
  obtain ⟨s, hs, ht⟩ := exists_of_exec_any step (new 64 () : Concurrent reference) two_recvs
    (fun s => s.callers = [0, 1] ∧
      (s.threads[0]?.bind List.head?).any (fun op => match op with
        | .fill b _ => b = 0
        | _ => false) ∧
      (s.sys.driving.bind List.head?).any fun e => e.buffer = some 1) (by decide +kernel)
  obtain ⟨callers, fills, reads⟩ := of_decide_eq_true ht
  have run : Reachable step (new 64 ()) s := .of_exec hs
  have writer : .thread 0 ∈ s.accessors 0 := by
    obtain ⟨op, first, fill⟩ := (Option.any_eq_true _ _).mp fills
    obtain ⟨ops, hi, head⟩ := Option.bind_eq_some_iff.mp first
    obtain ⟨rest, rfl⟩ := List.head?_eq_some_iff.mp head
    cases op with
    | fill b data =>
      obtain rfl : b = 0 := of_decide_eq_true fill
      exact ⟨data, rest, hi⟩
    | _ => cases fill
  have reader : .batch ∈ s.accessors 1 := by
    obtain ⟨e, first, buffer⟩ := (Option.any_eq_true _ _).mp reads
    obtain ⟨events, driving, head⟩ := Option.bind_eq_some_iff.mp first
    obtain ⟨rest, rfl⟩ := List.head?_eq_some_iff.mp head
    exact ⟨e, rest, driving, of_decide_eq_true buffer⟩
  obtain ⟨-, holders, count, -⟩ := exclusive_access run writer
  obtain ⟨-, holders', count', -⟩ := exclusive_access run reader
  rw [callers] at count count'
  exact ⟨s, run, callers, holders, count, holders', count'⟩

end Concurrent

end L3Extract
