import L3Extract.Stack.Operations
import Mathlib.Data.Multiset.Bind

/-!
# Who holds a buffer and who may answer

A request's buffer is in shared memory with two references to it, the caller's and the request's,
and the result channel of the request has one sender. These are its tokens. Each of them is at one
place: with a caller, in an event that is queued, collected, or parked, or in an operation that a
thread has still to do. `conserved` says that an operation only moves tokens, unless it is the one
that releases a reference or drops a sender.

`Blocks` is what is known of a thread: when it releases a request's reference it has the sender, and
does nothing else before it answers or drops it. All operations of the handlers are of this form
(`takes_handle_ops`), and so is what closures leave to do (`blocks_next`).
-/

namespace L3Extract

open OperationEvent Threads

variable {S : Smoltcp}

/-- A reference to a buffer, or the sender of a result channel. -/
inductive Token
  /-- The reference that the call keeps. -/
  | caller (buffer : BufferId)
  /-- The reference that is sent with the request. -/
  | buffer (buffer : BufferId)
  | sender (result_tx : ResultTx)
  deriving DecidableEq

/-- The number of the request that a token belongs to. -/
def Token.id : Token → ℕ
  | caller b => b
  | buffer b => b
  | sender tx => tx

namespace OperationEvent

/-- What an event holds. -/
def tokens (e : OperationEvent) : Multiset Token :=
  ↑(e.buffer.toList.map Token.buffer) + ↑(e.result_tx.toList.map Token.sender)

/-- The buffer and the result channel of an event are those of one request. -/
def Paired (e : OperationEvent) : Prop := ∀ b, e.buffer = some b → e.result_tx = some b

/-- An event that holds a buffer holds the sender for it. -/
theorem sender_of_buffer {e : OperationEvent} {b : BufferId} (paired : e.Paired)
    (h : .buffer b ∈ e.tokens) : .sender b ∈ e.tokens := by
  have hb : e.buffer = some b := by simpa [tokens, eq_comm] using h
  simp [tokens, paired b hb]

end OperationEvent

namespace Op

/-- What an operation that is still to be done holds. -/
def tokens : Op S → Multiset Token
  | register _ _ e => e.tokens
  | send e => e.tokens
  | release b => {.buffer b}
  | close tx => {.sender tx}
  | cast b => {.caller b}
  | _ => 0

/-- What is gone once the operation is done. -/
def spent : Op S → Multiset Token
  | release b => {.buffer b}
  | close tx => {.sender tx}
  | cast b => {.caller b}
  | _ => 0

/-- The event that an operation has yet to put somewhere. -/
def event : Op S → Multiset OperationEvent
  | register _ _ e => {e}
  | send e => {e}
  | _ => 0

/-- What an operation sends on result channels. -/
def answers : Op S → List (ResultTx × Answer)
  | answer tx a => [(tx, a)]
  | _ => []

/-- The operation neither ends a reference nor has to do with an answer. -/
def Plain : Op S → Prop
  | register _ _ e => e.Paired
  | send e => e.Paired
  | release _ => False
  | answer _ _ => False
  | close _ => False
  | cast _ => False
  | _ => True

end Op

/-! ## The form of a thread -/

/-- A thread releases a request's reference only when next it answers the request or drops the
sender, and answers only when next it drops the sender. -/
inductive Blocks : List (Op S) → Prop
  | nil : Blocks []
  | plain {op : Op S} {ops : List (Op S)} (plain : op.Plain) (rest : Blocks ops) :
      Blocks (op :: ops)
  | close {tx : ResultTx} {ops : List (Op S)} (rest : Blocks ops) : Blocks (.close tx :: ops)
  | answer {tx : ResultTx} {a : Answer} {ops : List (Op S)} (rest : Blocks ops) :
      Blocks (.answer tx a :: .close tx :: ops)
  | drop {b : BufferId} {ops : List (Op S)} (rest : Blocks ops) :
      Blocks (.release b :: .close b :: ops)
  | settle {b : BufferId} {a : Answer} {ops : List (Op S)} (rest : Blocks ops) :
      Blocks (.release b :: .answer b a :: .close b :: ops)

namespace Blocks

/-- Two parts of this form, one after the other, are of this form. -/
theorem append {ops ops' : List (Op S)} (h : Blocks ops) (h' : Blocks ops') :
    Blocks (ops ++ ops') := by
  induction h with
  | nil => exact h'
  | plain plain _ ih => exact .plain plain ih
  | close _ ih => exact .close ih
  | answer _ ih => exact .answer ih
  | drop _ ih => exact .drop ih
  | settle _ ih => exact .settle ih

/-- What is left of a thread after its first operation is of the same form. -/
theorem tail {op : Op S} {ops : List (Op S)} (h : Blocks (op :: ops)) : Blocks ops := by
  cases h with
  | plain _ rest => exact rest
  | close rest => exact rest
  | answer rest => exact .close rest
  | drop rest => exact .close rest
  | settle rest => exact .answer rest

/-- The sender of a request is where its reference is. -/
theorem sender_of_buffer {ops : List (Op S)} (h : Blocks ops) {b : BufferId}
    (hb : .buffer b ∈ weight Op.tokens ops) : .sender b ∈ weight Op.tokens ops := by
  induction h with
  | nil => simp at hb
  | @plain op ops plain rest ih =>
    rw [weight_cons, Multiset.mem_add] at hb ⊢
    refine hb.imp (fun hb => ?_) ih
    cases op <;> simp only [Op.tokens, Multiset.notMem_zero] at hb
    case register i side e => exact OperationEvent.sender_of_buffer plain hb
    case send e => exact OperationEvent.sender_of_buffer plain hb
    all_goals simp [Op.Plain] at plain
  | @close tx ops rest ih =>
    have hb : .buffer b ∈ weight Op.tokens ops := by simpa [Op.tokens] using hb
    simp [ih hb]
  | @answer tx a ops rest ih =>
    have hb : .buffer b ∈ weight Op.tokens ops := by simpa [Op.tokens] using hb
    simp [ih hb]
  | @drop c ops rest ih =>
    have hb : b = c ∨ .buffer b ∈ weight Op.tokens ops := by simpa [Op.tokens] using hb
    rcases hb with rfl | hb
    · simp [Op.tokens]
    · simp [ih hb]
  | @settle c a ops rest ih =>
    have hb : b = c ∨ .buffer b ∈ weight Op.tokens ops := by simpa [Op.tokens] using hb
    rcases hb with rfl | hb
    · simp [Op.tokens]
    · simp [ih hb]

/-- A request that is answered next has its reference released, as far as its thread goes, when its
sender is nowhere twice. -/
theorem released {tx : ResultTx} {a : Answer} {ops : List (Op S)}
    (h : Blocks (.answer tx a :: ops)) (nodup : (weight Op.tokens ops).Nodup) :
    .sender tx ∈ weight Op.tokens ops ∧ .buffer tx ∉ weight Op.tokens ops := by
  cases h with
  | plain plain => exact plain.elim
  | @answer _ _ ops rest =>
    refine ⟨by simp [Op.tokens], fun hb => ?_⟩
    have hb : .buffer tx ∈ weight Op.tokens ops := by simpa [Op.tokens] using hb
    have hs := rest.sender_of_buffer hb
    rw [weight_cons] at nodup
    exact (Multiset.nodup_cons.mp nodup).1 hs

end Blocks

/-- An event is dropped in this form. -/
theorem blocks_drop_ops {e : OperationEvent} (paired : e.Paired) :
    Blocks (drop_ops e : List (Op S)) := by
  cases e with
  | ready h => exact .nil
  | shutdown h tx => exact .close .nil
  | close h => exact .nil
  | read handle b tx =>
    obtain rfl : tx = b := Option.some.inj (paired b rfl)
    exact .drop .nil
  | write handle b tx =>
    obtain rfl : tx = b := Option.some.inj (paired b rfl)
    exact .drop .nil
  | recv handle b tx =>
    obtain rfl : tx = b := Option.some.inj (paired b rfl)
    exact .drop .nil
  | send handle src b tx =>
    obtain rfl : tx = b := Option.some.inj (paired b rfl)
    exact .drop .nil

/-- A waker runs in this form. -/
theorem blocks_waker_ops {e : OperationEvent} (paired : e.Paired) :
    Blocks (waker_ops e : List (Op S)) := by
  cases e with
  | shutdown h tx => exact .answer .nil
  | ready h => exact .plain paired .nil
  | close h => exact .plain paired .nil
  | read handle b tx => exact .plain paired .nil
  | write handle b tx => exact .plain paired .nil
  | recv handle b tx => exact .plain paired .nil
  | send handle src b tx => exact .plain paired .nil

/-- What is done with an event that could not be sent is of this form. -/
theorem blocks_send_failed_ops {e : OperationEvent} (paired : e.Paired) :
    Blocks (send_failed_ops e : List (Op S)) := by
  cases e with
  | ready h => exact .nil
  | shutdown h tx => exact .close .nil
  | close h => exact .nil
  | read handle b tx =>
    obtain rfl : tx = b := Option.some.inj (paired b rfl)
    exact .settle .nil
  | write handle b tx =>
    obtain rfl : tx = b := Option.some.inj (paired b rfl)
    exact .settle .nil
  | recv handle b tx =>
    obtain rfl : tx = b := Option.some.inj (paired b rfl)
    exact .settle .nil
  | send handle src b tx =>
    obtain rfl : tx = b := Option.some.inj (paired b rfl)
    exact .settle .nil

/-- Dropping an event gives up what it holds. -/
@[simp] theorem weight_drop_ops (e : OperationEvent) :
    weight Op.tokens (drop_ops e : List (Op S)) = e.tokens := by
  cases e <;> rfl

/-- Running a waker gives up what its event holds, to the channel or for good. -/
@[simp] theorem weight_waker_ops (e : OperationEvent) :
    weight Op.tokens (waker_ops e : List (Op S)) = e.tokens := by
  cases e <;> simp [waker_ops, Op.tokens, OperationEvent.tokens, buffer, result_tx]

/-- An event that could not be sent gives up what it holds. -/
@[simp] theorem weight_send_failed_ops (e : OperationEvent) :
    weight Op.tokens (send_failed_ops e : List (Op S)) = e.tokens := by
  cases e <;> rfl

namespace TcpStack

/-! ## The tokens of the stack -/

/-- What the events in the channel and in wakers hold. -/
def tokens (t : TcpStack S) : Multiset Token := t.pending.bind OperationEvent.tokens

/-- Dropping the waker of a side gives up what its event holds. -/
theorem weight_drop_waker_ops (t : TcpStack S) (i : ℕ) (side : Side) :
    weight Op.tokens (t.drop_waker_ops i side) =
      (↑(t.waker i side).toList : Multiset OperationEvent).bind OperationEvent.tokens := by
  unfold drop_waker_ops
  cases t.waker i side <;> simp

/-- An event that is sent is pending, besides those that were. -/
theorem pending_send_event {t : TcpStack S} (h : t.operation_event.connected = true)
    (e : OperationEvent) : (t.send_event e).pending = {e} + t.pending := by
  have hparked : (t.send_event e).parked = t.parked := rfl
  have hqueue : (t.send_event e).operation_event.queue = t.operation_event.queue ++ [e] := by
    simp [send_event, Channel.send, h]
  rw [pending, pending, hparked, hqueue, ← Multiset.coe_add, Multiset.coe_singleton]
  abel

/-- An operation moves tokens, and ends those that it spends. -/
theorem conserved (t : TcpStack S) (op : Op S) :
    (t.apply op).tokens + weight Op.tokens (t.next op) + op.spent = t.tokens + op.tokens := by
  cases op with
  | register i side e =>
    simp only [apply, next, Op.spent, Op.tokens, add_zero]
    cases hs : t.socket_at i with
    | none =>
      -- No socket takes the waker: it is dropped at once.
      have hv : t.socket_set.val i = none := by simpa [socket_at] using hs
      have hp : (t.register i side e).pending = t.pending := by
        rw [pending, pending, parked, parked, register, Arena.sum_modify_of_none _ hv]
      simp [tokens, hp]
    | some s =>
      -- The waker that was there is dropped.
      have hp := congrArg (Multiset.bind · OperationEvent.tokens)
        (pending_register (t := t) (i := i) (by simp [hs]) side e)
      simp only [Multiset.add_bind, Multiset.singleton_bind] at hp
      simp only [Option.isSome_some, if_true, weight_drop_waker_ops, tokens, hp]
      abel
  | wake i side =>
    simp only [apply, next, Op.spent, Op.tokens, add_zero]
    cases hw : t.waker i side with
    | none => simp
    | some e =>
      have hp : (t.unregister i side).pending + {e} = t.pending := by
        rw [pending, pending, ← parked_unregister hw, ← add_assoc]
        rfl
      have hp := congrArg (Multiset.bind · OperationEvent.tokens) hp
      simp only [Multiset.add_bind, Multiset.singleton_bind] at hp
      simp [tokens, hp]
  | remove i =>
    simp only [apply, next, Op.spent, Op.tokens, add_zero, weight_append, weight_drop_waker_ops]
    cases hs : t.socket_at i with
    | none =>
      have hv : t.socket_set.val i = none := by simpa [socket_at] using hs
      have hw : ∀ side, t.waker i side = none := fun side => by simp [waker, hv]
      have hp : ({ t with socket_set := t.socket_set.remove i } : TcpStack S).pending =
          t.pending := by
        rw [pending, pending, parked, parked, Arena.sum_remove_of_none _ hv]
      simp [tokens, hp, hw]
    | some s =>
      have hp := congrArg (Multiset.bind · OperationEvent.tokens)
        (pending_remove (t := t) (i := i) (by simp [hs]))
      simp only [Multiset.add_bind] at hp
      exact hp
  | send e =>
    simp only [apply, next, Op.spent, Op.tokens, add_zero]
    cases hc : t.operation_event.connected with
    | true =>
      simp only [if_true, tokens, pending_send_event hc, Multiset.add_bind,
        Multiset.singleton_bind, weight_nil, add_zero]
      abel
    | false =>
      -- The event comes back, and what it holds is in the operations that follow.
      have hs : t.send_event e = t := by simp [send_event, Channel.send, hc]
      simp [hs]
  | put i socket => simp [apply, next, Op.spent, Op.tokens, tokens, pending_put]
  | advance now => simp [apply, next, Op.spent, Op.tokens, tokens]
  | fill buffer data => simp [apply, next, Op.spent, Op.tokens]; rfl
  | remove_handle h => simp [apply, next, Op.spent, Op.tokens]; rfl
  | remove_accepted dst => simp [apply, next, Op.spent, Op.tokens]; rfl
  | send_tcp_stream info => simp [apply, next, Op.spent, Op.tokens]; rfl
  | send_udp_stream info => simp [apply, next, Op.spent, Op.tokens]; rfl
  | answer tx a => simp [apply, next, Op.spent, Op.tokens]; rfl
  | release b => simp [apply, next, Op.spent, Op.tokens]
  | close tx => simp [apply, next, Op.spent, Op.tokens]
  | cast b => simp [apply, next, Op.spent, Op.tokens]

/-- What an operation sends on result channels. -/
theorem answers_apply (t : TcpStack S) (op : Op S) :
    (t.apply op).answers = t.answers ++ op.answers := by
  cases op <;> simp [apply, Op.answers, put, fill, register, unregister,
    advance, send_event, answer]
  split <;> rfl

/-- An operation makes at most its own event pending. -/
theorem pending_apply_le (t : TcpStack S) (op : Op S) :
    (t.apply op).pending ≤ op.event + t.pending := by
  cases op with
  | register i side e => exact pending_register_le t i side e
  | wake i side =>
    simp only [Op.event, zero_add, apply]
    cases hw : t.waker i side with
    | none => simp
    | some e =>
      have hp : (t.unregister i side).parked ≤ t.parked := by
        rw [← parked_unregister hw]
        exact Multiset.le_add_right _ _
      exact add_le_add (le_refl (↑t.operation_event.queue : Multiset OperationEvent)) hp
  | remove i =>
    simp only [Op.event, zero_add, apply]
    cases hs : t.socket_at i with
    | none =>
      have hv : t.socket_set.val i = none := by simpa [socket_at] using hs
      rw [pending, pending, parked, parked, Arena.sum_remove_of_none _ hv]
    | some s =>
      rw [← pending_remove (t := t) (i := i) (by simp [hs])]
      exact Multiset.le_add_right _ _
  | send e =>
    rw [apply]
    cases hc : t.operation_event.connected with
    | true => rw [pending_send_event hc, Op.event]
    | false =>
      have hs : t.send_event e = t := by simp [send_event, Channel.send, hc]
      rw [hs]
      exact Multiset.le_add_left _ _
  | put i socket => rw [apply, pending_put]; exact Multiset.le_add_left _ _
  | advance now => rw [apply, pending_advance]; exact Multiset.le_add_left _ _
  | fill buffer data => exact Multiset.le_add_left _ _
  | remove_handle h => exact Multiset.le_add_left _ _
  | remove_accepted dst => exact Multiset.le_add_left _ _
  | send_tcp_stream info => exact Multiset.le_add_left _ _
  | send_udp_stream info => exact Multiset.le_add_left _ _
  | answer tx a => exact Multiset.le_add_left _ _
  | release b => exact Multiset.le_add_left _ _
  | close tx => exact Multiset.le_add_left _ _
  | cast b => exact Multiset.le_add_left _ _

/-- The waker of a side is dropped in this form. -/
theorem blocks_drop_waker_ops {t : TcpStack S} (paired : ∀ e ∈ t.pending, e.Paired) (i : ℕ)
    (side : Side) : Blocks (t.drop_waker_ops i side) := by
  unfold drop_waker_ops
  cases hw : t.waker i side with
  | none => exact .nil
  | some e => exact blocks_drop_ops (paired e (mem_pending_of_waker hw))

/-- What an operation leaves to do has the form of a thread. -/
theorem blocks_next {t : TcpStack S} {op : Op S} (paired : ∀ e ∈ t.pending, e.Paired)
    (own : ∀ e ∈ op.event, e.Paired) : Blocks (t.next op) := by
  cases op with
  | register i side e =>
    simp only [next]
    split
    · exact blocks_drop_waker_ops paired i side
    · exact blocks_drop_ops (own e (Multiset.mem_singleton_self e))
  | wake i side =>
    simp only [next]
    cases hw : t.waker i side with
    | none => exact .nil
    | some e => exact blocks_waker_ops (paired e (mem_pending_of_waker hw))
  | remove i =>
    exact (blocks_drop_waker_ops paired i .recv).append (blocks_drop_waker_ops paired i .send)
  | send e =>
    simp only [next]
    split
    · exact .nil
    · exact blocks_send_failed_ops (own e (Multiset.mem_singleton_self e))
  | put i socket => exact .nil
  | advance now => exact .nil
  | fill buffer data => exact .nil
  | remove_handle h => exact .nil
  | remove_accepted dst => exact .nil
  | send_tcp_stream info => exact .nil
  | send_udp_stream info => exact .nil
  | answer tx a => exact .nil
  | release b => exact .nil
  | close tx => exact .nil
  | cast b => exact .nil

/-! ## The operations of the handlers -/

/-- The operations take over what the event holds, and have the form of a thread. -/
structure Takes (e : OperationEvent) (ops : List (Op S)) : Prop where
  blocks : Blocks ops
  tokens : weight Op.tokens ops = e.tokens

/-- The answer to a request. -/
theorem takes_settle {e : OperationEvent} {b : BufferId} {tx : ResultTx}
    (buffer : e.buffer = some b)
    (result_tx : e.result_tx = some tx) (paired : e.Paired) (a : Answer) :
    Takes e ([.release b, .answer tx a, .close tx] : List (Op S)) := by
  obtain rfl : tx = b := Option.some.inj (result_tx.symm.trans (paired b buffer))
  refine ⟨.settle .nil, ?_⟩
  simp [OperationEvent.tokens, buffer, result_tx, Op.tokens]

/-- The event waits for a waker. -/
theorem takes_register {e : OperationEvent} (paired : e.Paired) (i : ℕ) (side : Side) :
    Takes e ([.register i side e] : List (Op S)) :=
  ⟨.plain paired .nil, by simp [Op.tokens]⟩

/-- Operations that hold nothing may come before. -/
theorem Takes.cons {e : OperationEvent} {op : Op S} {ops : List (Op S)} (h : Takes e ops)
    (plain : op.Plain) (tokens : op.tokens = 0) : Takes e (op :: ops) :=
  ⟨.plain plain h.blocks, by rw [weight_cons, tokens, zero_add, h.tokens]⟩

/-- Handling a Read or a Write takes what its event holds. -/
theorem takes_tcp_wake {t : TcpStack S} {e : OperationEvent} {ops : List (Op S)} (paired : e.Paired)
    (ok : t.handle_tcp_wake_event_ops e = .ok ops) : Takes e ops := by
  have settle := @takes_settle S e
  cases e with
  | write handle buffer tx =>
    simp only [handle_tcp_wake_event_ops] at ok
    split at ok
    · cases ok
      exact settle rfl rfl paired _
    · obtain ⟨c, -, ok⟩ := except_bind_eq_ok.mp ok
      split at ok
      · split at ok
        · cases ok
          exact settle rfl rfl paired _
        · cases ok
          exact takes_register paired _ _
      · split at ok
        · cases ok
          exact (settle rfl rfl paired _).cons trivial rfl
        · cases ok
          exact (settle rfl rfl paired _).cons trivial rfl
  | read handle buffer tx =>
    simp only [handle_tcp_wake_event_ops] at ok
    split at ok
    · cases ok
      exact settle rfl rfl paired _
    · obtain ⟨c, -, ok⟩ := except_bind_eq_ok.mp ok
      split at ok
      · split at ok
        · cases ok
          exact settle rfl rfl paired _
        · cases ok
          exact takes_register paired _ _
      · split at ok
        · cases ok
          exact (settle rfl rfl paired _).cons trivial rfl
        · cases ok
          exact (settle rfl rfl paired _).cons trivial rfl
        · cases ok
          refine .cons ?_ trivial rfl
          exact (settle rfl rfl paired _).cons trivial rfl
  | ready h => cases ok
  | recv handle buffer tx => cases ok
  | send handle src buffer tx => cases ok
  | shutdown h tx => cases ok
  | close h => cases ok

/-- Handling a Recv or a Send takes what its event holds. -/
theorem takes_udp_wake {t : TcpStack S} {e : OperationEvent} {ops : List (Op S)} (paired : e.Paired)
    (ok : t.handle_udp_wake_event_ops e = .ok ops) : Takes e ops := by
  have settle := @takes_settle S e
  cases e with
  | send handle src buffer tx =>
    simp only [handle_udp_wake_event_ops] at ok
    split at ok
    · cases ok
      exact settle rfl rfl paired _
    · obtain ⟨u, -, ok⟩ := except_bind_eq_ok.mp ok
      split at ok
      · cases ok
        exact takes_register paired _ _
      · split at ok
        · cases ok
          exact (settle rfl rfl paired _).cons trivial rfl
        · cases ok
          exact (settle rfl rfl paired _).cons trivial rfl
  | recv handle buffer tx =>
    simp only [handle_udp_wake_event_ops] at ok
    split at ok
    · cases ok
      exact settle rfl rfl paired _
    · obtain ⟨u, -, ok⟩ := except_bind_eq_ok.mp ok
      split at ok
      · cases ok
        exact takes_register paired _ _
      · split at ok
        · cases ok
          exact (settle rfl rfl paired _).cons trivial rfl
        · cases ok
          refine .cons ?_ trivial rfl
          exact (settle rfl rfl paired _).cons trivial rfl
  | ready h => cases ok
  | read handle buffer tx => cases ok
  | write handle buffer tx => cases ok
  | shutdown h tx => cases ok
  | close h => cases ok

/-- A TCP socket is closed in this form. -/
theorem blocks_close_tcp_ops (i : ℕ) (c : S.Tcp) : Blocks (close_tcp_ops i c) := by
  unfold close_tcp_ops
  split
  · exact .plain trivial .nil
  · exact .plain trivial (.plain trivial (.plain trivial .nil))

/-- Closing a TCP socket gives up nothing that the handled event holds. -/
theorem weight_close_tcp_ops (i : ℕ) (c : S.Tcp) : weight Op.tokens (close_tcp_ops i c) = 0 := by
  unfold close_tcp_ops
  split <;> simp [Op.tokens]

/-- Handling a Shutdown takes what its event holds. -/
theorem takes_shutdown {t : TcpStack S} {h : TypedSocketHandle} {tx : ResultTx}
    {ops : List (Op S)} (ok : t.handle_shutdown_event_ops h tx = .ok ops) :
    Takes (.shutdown h tx) ops := by
  have paired : (OperationEvent.shutdown h tx).Paired := fun b hb => by cases hb
  unfold handle_shutdown_event_ops at ok
  split at ok
  · cases h with
    | tcp handle =>
      obtain ⟨c, -, ok⟩ := except_bind_eq_ok.mp ok
      cases ok
      refine ⟨.plain paired (blocks_close_tcp_ops _ c), ?_⟩
      rw [weight_cons, weight_close_tcp_ops, add_zero]
      rfl
    | udp handle => cases ok
  · cases ok
    exact ⟨.answer .nil, by simp [Op.tokens, OperationEvent.tokens,
      OperationEvent.buffer, result_tx]⟩

/-- Handling a Close takes what its event holds. -/
theorem takes_close {t : TcpStack S} {h : TypedSocketHandle} {ops : List (Op S)}
    (ok : t.handle_close_event_ops h = .ok ops) : Takes (.close h) ops := by
  have paired : (OperationEvent.close h).Paired := fun b hb => by cases hb
  have nothing : (OperationEvent.close h).tokens = 0 := rfl
  unfold handle_close_event_ops at ok
  split at ok
  · cases h with
    | tcp handle =>
      obtain ⟨c, -, ok⟩ := except_bind_eq_ok.mp ok
      have hb := blocks_close_tcp_ops handle.index c
      split at ok
      · cases ok
        refine ⟨hb.append (.plain trivial (.plain trivial .nil)), ?_⟩
        simp [weight_close_tcp_ops, remove_tcp_socket_ops, Op.tokens, nothing]
      · cases ok
        refine ⟨hb.append (.plain paired .nil), ?_⟩
        simp [weight_close_tcp_ops, Op.tokens, nothing]
    | udp handle =>
      obtain ⟨u, -, ok⟩ := except_bind_eq_ok.mp ok
      dsimp only at ok
      split at ok
      · cases ok
      · cases ok
        refine ⟨.plain trivial (.plain trivial (.plain trivial (.plain trivial (.plain trivial
          (.plain trivial .nil))))), ?_⟩
        simp [close_udp_ops, remove_udp_socket_ops, Op.tokens, nothing]
  · cases ok
    exact ⟨.nil, rfl⟩

/-- Handling a Ready takes what its event holds. -/
theorem takes_ready {t : TcpStack S} {h : TypedSocketHandle} {ops : List (Op S)}
    (ok : t.handle_ready_wake_event_ops h = .ok ops) : Takes (.ready h) ops := by
  have paired : (OperationEvent.ready h).Paired := fun b hb => by cases hb
  unfold handle_ready_wake_event_ops at ok
  cases h with
  | tcp handle =>
    obtain ⟨c, -, ok⟩ := except_bind_eq_ok.mp ok
    split at ok
    · cases ok
      exact takes_register paired _ _
    · split at ok
      · cases ok
      · cases ok
      · cases ok
        exact ⟨.plain trivial .nil, by simp [Op.tokens]; rfl⟩
  | udp handle =>
    obtain ⟨u, -, ok⟩ := except_bind_eq_ok.mp ok
    dsimp only at ok
    split at ok
    · cases ok
    · cases ok
      exact ⟨.plain trivial .nil, by simp [Op.tokens]; rfl⟩

/-- The operations of a handler take over what its event holds. -/
theorem takes_handle_ops {t : TcpStack S} {e : OperationEvent} {ops : List (Op S)}
    (paired : e.Paired) (ok : t.handle_ops e = .ok ops) : Takes e ops := by
  cases e with
  | ready h => exact takes_ready ok
  | read handle buffer tx => exact takes_tcp_wake paired ok
  | write handle buffer tx => exact takes_tcp_wake paired ok
  | recv handle buffer tx => exact takes_udp_wake paired ok
  | send handle src buffer tx => exact takes_udp_wake paired ok
  | shutdown h tx => exact takes_shutdown ok
  | close h => exact takes_close ok

end TcpStack

end L3Extract
