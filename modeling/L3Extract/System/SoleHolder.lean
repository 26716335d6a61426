import L3Extract.System.Holders
import L3Extract.Smoltcp.Reference

/-!
# Every buffer comes back with one holder

`sound_step` shows that every turn of `Concurrent` keeps `Sound`: what the parties do among
themselves moves no tokens, an event goes from the batch into the operations of its handler, and
events that are dropped go into the operations that drop their fields. A call makes new tokens,
under a number that no other request has. `sole_holder` is the result: when a call learns its
outcome, by an answer, by the loss of the last sender, or by a failing send, it is the only holder
of its buffer, and the `expect` in `cast_dyn_io_buf` and `cast_dyn_io_buf_mut` finds the count at 1.
-/

namespace L3Extract

open OperationEvent Transition Threads TcpStack

variable {S : Smoltcp}

namespace Concurrent

/-! ## Each turn -/

/-- Events that hold nothing: a socket is ready, or to be closed. -/
def Empty (events : Multiset OperationEvent) : Prop :=
  ∀ e ∈ events, e.result_tx = none ∧ e.buffer = none

/-- Events that hold nothing have no tokens. -/
theorem tokens_of_empty {events : Multiset OperationEvent} (empty : Empty events) :
    events.bind OperationEvent.tokens = 0 := by
  have none : ∀ e ∈ events, e.tokens = 0 := fun e he => by
    simp [OperationEvent.tokens, empty e he]
  rw [Multiset.bind_congr none]
  simp

/-- An action of the parties that leaves all tokens where they are. -/
theorem Sound.of_quiet {s : Concurrent S} {sys : System S} (h : Sound s)
    {new : Multiset OperationEvent} (empty : Empty new)
    (pending : sys.pending = new + s.sys.pending)
    (issued : sys.issued = s.sys.issued) (answers : sys.stack.answers = s.sys.stack.answers) :
    Sound { s with sys } := by
  refine h.of_transfer _ .nil (.inl ⟨rfl, rfl⟩) ?_ ?_ issued answers rfl rfl rfl rfl
  · rw [weight_nil, add_zero, System.tokens, System.tokens, pending, Multiset.add_bind,
      tokens_of_empty empty, zero_add]
  · intro e he
    rw [pending] at he
    rcases Multiset.mem_add.mp he with he | he
    · intro b hb
      rw [(empty e he).2] at hb
      cases hb
    · exact h.paired e he

/-- Sending an event that holds nothing. -/
theorem pending_send_empty (t : TcpStack S) {e : OperationEvent} (empty : Empty {e}) :
    ∃ new, Empty new ∧ (t.send_event e).pending = new + t.pending := by
  cases hc : t.operation_event.connected with
  | true => exact ⟨{e}, empty, pending_send_event hc e⟩
  | false =>
    have hs : t.send_event e = t := by simp [send_event, Channel.send, hc]
    exact ⟨0, by simp [Empty], by rw [hs, zero_add]⟩

/-- A Close holds nothing. -/
theorem empty_close (h : TypedSocketHandle) : Empty {.close h} := by
  intro e he
  rw [Multiset.mem_singleton.mp he]
  exact ⟨rfl, rfl⟩

/-- A Ready holds nothing. -/
theorem empty_ready (h : TypedSocketHandle) : Empty {.ready h} := by
  intro e he
  rw [Multiset.mem_singleton.mp he]
  exact ⟨rfl, rfl⟩

/-- The actions that only the parties themselves take part in. -/
def quiet : Action → Bool
  | .finish => true
  | .generate => true
  | .accept_tcp => true
  | .accept_udp => true
  | .drop_tcp_acceptor => true
  | .drop_udp_acceptor => true
  | .drop_tcp_stream _ => true
  | .drop_udp_socket _ => true
  | _ => false

/-- A quiet action makes at most a Close pending. -/
theorem pending_of_quiet {s s' : System S} {a : Action} (quiet : quiet a = true)
    (steps : s.step a = some s') : ∃ new, Empty new ∧ s'.pending = new + s.pending ∧
      s'.issued = s.issued ∧ s'.stack.answers = s.stack.answers := by
  have none : Empty 0 := by simp [Empty]
  cases System.steps_of_step steps with
  | finished action driving eq =>
    subst eq
    refine ⟨0, none, ?_, rfl, rfl⟩
    rw [zero_add, System.pending, System.pending, System.collected, System.collected, driving]
    rfl
  | generated action connected eq =>
    subst eq
    refine ⟨0, none, ?_, rfl, rfl⟩
    have hp : ({ s.stack with operation_event := s.stack.operation_event.drain } :
      TcpStack S).parked = s.stack.parked := rfl
    have hq : s.stack.operation_event.drain.queue = [] := rfl
    simp only [System.pending, TcpStack.pending, System.collected, hp, hq, List.flatten_append,
      List.flatten_singleton, ← Multiset.coe_add, Multiset.coe_nil]
    abel
  | accepted_tcp info rest action queue eq =>
    subst eq
    exact ⟨0, none, by rw [zero_add]; rfl, rfl, rfl⟩
  | accepted_udp info rest action queue eq =>
    subst eq
    exact ⟨0, none, by rw [zero_add]; rfl, rfl, rfl⟩
  | tcp_acceptor_dropped action eq =>
    subst eq
    exact ⟨0, none, by rw [zero_add]; rfl, rfl, rfl⟩
  | udp_acceptor_dropped action eq =>
    subst eq
    exact ⟨0, none, by rw [zero_add]; rfl, rfl, rfl⟩
  | tcp_stream_dropped stream action held idle eq =>
    subst eq
    obtain ⟨new, empty, hp⟩ := pending_send_empty s.stack (empty_close (.tcp stream.handle))
    refine ⟨new, empty, ?_, rfl, rfl⟩
    rw [System.pending, System.pending, hp, add_assoc]
    rfl
  | udp_socket_dropped socket action held idle eq =>
    subst eq
    obtain ⟨new, empty, hp⟩ := pending_send_empty s.stack (empty_close (.udp socket.handle))
    refine ⟨new, empty, ?_, rfl, rfl⟩
    rw [System.pending, System.pending, hp, add_assoc]
    rfl
  | started packet now batch events batches stack res action => subst action; cases quiet
  | handled e events stack action => subst action; cases quiet
  | batch_dropped i action => subst action; cases quiet
  | generator_dropped action => subst action; cases quiet
  | called c action => subst action; cases quiet
  | refused c action => subst action; cases quiet
  | returned futures action =>
    rcases action with ⟨rx, rfl⟩ | ⟨rx, rfl⟩
    · cases quiet
    · cases quiet

/-- The packet adds at most a Ready. -/
theorem pending_arrive {t t' : TcpStack S} {packet : Option Packet} {res : Except DriveError Unit}
    (ok : t.arrive packet = .ok (t', res)) :
    ∃ new, Empty new ∧ t'.pending = new + t.pending ∧ t'.answers = t.answers := by
  have none : Empty 0 := by simp [Empty]
  cases packet with
  | none =>
    cases ok
    exact ⟨0, none, by rw [zero_add], rfl⟩
  | some p =>
    simp only [arrive, receive, bind, Except.bind, pure, Except.pure] at ok
    cases hparse : parse_packet p with
    | error panic =>
      simp only [hparse] at ok
      cases ok
    | ok ty =>
      rcases ty with _ | ⟨src, dst⟩ | ⟨src, dst⟩
      · simp only [hparse] at ok
        cases ok
        exact ⟨0, none, by rw [zero_add]; rfl, rfl⟩
      · rcases init_tcp_cases t dst with ⟨err, -, hi⟩ | ⟨c, u, -, hi, adds⟩
        · simp only [hparse, hi] at ok
          cases ok
          exact ⟨0, none, by rw [zero_add], rfl⟩
        · simp only [hparse, hi] at ok
          cases ok
          exact ⟨_, empty_ready _, adds.pending, adds.answers⟩
      · rcases try_init_udp_cases t dst with ⟨-, hi⟩ | ⟨-, ⟨err, -, hi⟩ |
          ⟨u, v, -, ⟨-, hi, adds⟩ | ⟨-, hi, adds⟩⟩⟩
        · simp only [hparse, hi, Except.map] at ok
          cases ok
          exact ⟨0, none, by rw [zero_add]; rfl, rfl⟩
        · simp only [hparse, hi, Except.map] at ok
          cases ok
          exact ⟨0, none, by rw [zero_add], rfl⟩
        · simp only [hparse, hi, Except.map] at ok
          cases ok
          exact ⟨0, none, adds.pending, adds.answers⟩
        · simp only [hparse, hi, Except.map] at ok
          cases ok
          exact ⟨_, empty_ready _, adds.pending, adds.answers⟩

/-- The driving thread is idle when no operation is left to it. -/
theorem idle_iff {s : Concurrent S} : s.idle = true ↔ s.threads[0]? = some [] := by
  rw [idle, Option.any_eq_true]
  constructor
  · rintro ⟨ops, hops, he⟩
    rw [hops, List.isEmpty_iff.mp he]
  · exact fun h => ⟨[], h, rfl⟩

/-- A poll runs its wakers in this form. -/
theorem blocks_poll_ops (t : TcpStack S) (now : ℕ) : Blocks (t.poll_ops now) := by
  refine .plain trivial ?_
  induction (t.poll_result now).woken with
  | nil => exact .nil
  | cons w woken ih => exact .plain trivial ih

/-- A poll gives up nothing but what the wakers hold that it runs. -/
theorem weight_poll_ops (t : TcpStack S) (now : ℕ) : weight Op.tokens (t.poll_ops now) = 0 := by
  rw [poll_ops, weight_cons]
  induction (t.poll_result now).woken with
  | nil => rfl
  | cons w woken ih => simpa [Op.tokens] using ih

/-- What is pending after the packet arrived, with the events that stay collected. -/
theorem tokens_of_arrive {s : System S} {stack : TcpStack S} {packet : Option Packet}
    {res : Except DriveError Unit} (ok : s.stack.arrive packet = .ok (stack, res))
    (paired : ∀ e ∈ s.pending, e.Paired) :
    stack.tokens = s.stack.tokens ∧ (∀ e ∈ stack.pending, e.Paired) ∧
      stack.answers = s.stack.answers := by
  obtain ⟨new, empty, pending, answers⟩ := pending_arrive ok
  refine ⟨?_, fun e he => ?_, answers⟩
  · rw [TcpStack.tokens, TcpStack.tokens, pending, Multiset.add_bind,
      tokens_of_empty empty, zero_add]
  · rw [pending] at he
    rcases Multiset.mem_add.mp he with he | he
    · intro b hb
      rw [(empty e he).2] at hb
      cases hb
    · exact paired e (Multiset.mem_add.mpr (.inl he))

/-- A call of `drive_once` begins in a sound state. -/
theorem Sound.start {s s' : Concurrent S} (h : Sound s) {packet : Option Packet} {now : ℕ}
    {batch : Option ℕ} (steps : s.start packet now batch = some s') : Sound s' := by
  unfold Concurrent.start at steps
  split at steps
  · cases steps
  rename_i free
  simp only [Bool.or_eq_true, not_or, Bool.not_eq_true, Option.isSome_eq_false_iff,
    Option.isNone_iff_eq_none, Bool.not_eq_false'] at free
  obtain ⟨⟨-, rest⟩, idle⟩ := free
  have idle := idle_iff.mp idle
  cases took : s.sys.take_batch batch with
  | none => simp [took] at steps
  | some r =>
    obtain ⟨events, batches⟩ := r
    have collected := System.coe_flatten_of_take took
    have mine : (↑s.sys.collected : Multiset OperationEvent) = ↑events + ↑batches.flatten := by
      rw [System.collected, rest, Option.getD_none, List.append_nil, collected]
    have paired : ∀ e ∈ (↑events + ↑batches.flatten : Multiset OperationEvent), e.Paired := by
      intro e he
      rw [← mine] at he
      exact h.paired e (Multiset.mem_add.mpr (.inr he))
    simp only [took] at steps
    split at steps
    · cases steps
    · -- The error drops the batch.
      rename_i stack err ok
      obtain rfl := Option.some.inj steps
      obtain ⟨tokens, stack_paired, answers⟩ := tokens_of_arrive ok h.paired
      have left : ({ s.sys with stack, batches } : System S).collected = batches.flatten := by
        rw [System.collected, rest, Option.getD_none, List.append_nil]
      refine h.of_transfer _ (blocks_drop_events fun e he => paired e (Multiset.mem_add.mpr
        (.inl (Multiset.mem_coe.mpr he)))) (.inr (.inr ⟨idle, rfl⟩)) ?_ ?_
        rfl answers rfl rfl rfl rfl
      · have hs : (s.sys.tokens : Multiset Token) = s.sys.stack.tokens +
            ((↑events : Multiset OperationEvent).bind OperationEvent.tokens +
              (↑batches.flatten : Multiset OperationEvent).bind OperationEvent.tokens) := by
          rw [System.tokens_eq, mine, Multiset.add_bind]
        rw [weight_drop_events, hs]
        dsimp only [load]
        rw [System.tokens_eq, left, tokens]
        abel
      · intro e he
        dsimp only [load] at he
        rw [System.pending, left] at he
        rcases Multiset.mem_add.mp he with he | he
        · exact stack_paired e he
        · exact paired e (Multiset.mem_add.mpr (.inr he))
    · rename_i stack ok
      split at steps
      · cases steps
      obtain rfl := Option.some.inj steps
      obtain ⟨tokens, stack_paired, answers⟩ := tokens_of_arrive ok h.paired
      have same : (↑({ s.sys with stack, batches, driving := some (passes events) } :
          System S).collected : Multiset OperationEvent) = ↑s.sys.collected :=
        System.coe_collected_of_start rest took
      refine h.of_transfer _ (blocks_poll_ops stack now) (.inr (.inr ⟨idle, rfl⟩)) ?_ ?_ rfl answers
        rfl rfl rfl rfl
      · rw [weight_poll_ops, add_zero, System.tokens_eq s.sys]
        dsimp only [load]
        rw [System.tokens_eq, same, tokens]
      · intro e he
        dsimp only [load] at he
        rw [System.pending, same] at he
        rcases Multiset.mem_add.mp he with he | he
        · exact stack_paired e he
        · exact h.paired e (Multiset.mem_add.mpr (.inr he))

/-- Loading the operations of a handler keeps the state sound. -/
theorem Sound.event {s s' : Concurrent S} (h : Sound s) (steps : s.event = some s') : Sound s' := by
  unfold Concurrent.event at steps
  split at steps
  · rename_i e events driving
    split at steps
    · rename_i idle
      split at steps
      · cases steps
      · rename_i ops ok
        obtain rfl := Option.some.inj steps
        have collected := System.coe_collected_of_driving driving
        have left : ({ s.sys with driving := some events } : System S).collected =
            s.sys.batches.flatten ++ events := rfl
        have own : e.Paired := h.paired e (Multiset.mem_add.mpr (.inr (by rw [collected]; simp)))
        -- What the event holds is in the operations of its handler.
        have takes := takes_handle_ops own ok
        refine h.of_transfer _ takes.blocks (.inr (.inr ⟨idle_iff.mp idle, rfl⟩)) ?_ ?_ rfl rfl rfl
          rfl rfl rfl
        · rw [takes.tokens, System.tokens_eq s.sys, collected, Multiset.add_bind,
            Multiset.singleton_bind]
          dsimp only [load]
          rw [System.tokens_eq, left]
          abel
        · intro e' he
          dsimp only [load] at he
          rw [System.pending, left] at he
          refine h.paired e' (Multiset.mem_add.mpr ((Multiset.mem_add.mp he).imp id fun he => ?_))
          rw [collected]
          exact Multiset.mem_add.mpr (.inr he)
    · cases steps
  · cases steps

/-- Collected events are dropped by another thread. -/
theorem Sound.drop_batch {s s' : Concurrent S} (h : Sound s) {i : ℕ}
    (steps : s.act (.drop_batch i) = some s') : Sound s' := by
  obtain ⟨sys, hsys, rfl⟩ := Option.map_eq_some_iff.mp steps
  have hi : i < s.sys.batches.length ∧
      { s.sys with batches := s.sys.batches.eraseIdx i } = sys := by
    simp only [System.step] at hsys
    split at hsys
    · rename_i hi
      exact ⟨hi, Option.some.inj hsys⟩
    · cases hsys
  obtain ⟨hi, rfl⟩ := hi
  have took : s.sys.take_batch (some i) =
      some (s.sys.batches.getD i [], s.sys.batches.eraseIdx i) := by
    simp [System.take_batch, List.getD, hi]
  -- The batch is one part of what is collected.
  have all : (↑s.sys.collected : Multiset OperationEvent) = ↑(s.sys.batches.getD i []) +
      ↑((s.sys.batches.eraseIdx i).flatten ++ s.sys.driving.getD []) := by
    rw [System.collected, ← Multiset.coe_add, System.coe_flatten_of_take took, ← Multiset.coe_add,
      add_assoc]
  have left : ({ s.sys with batches := s.sys.batches.eraseIdx i } : System S).collected =
      (s.sys.batches.eraseIdx i).flatten ++ s.sys.driving.getD [] := rfl
  refine h.of_transfer ((s.sys.batches.getD i []).flatMap drop_ops)
    (blocks_drop_events fun e he => ?_) (.inr (.inl rfl)) ?_ ?_ rfl rfl rfl rfl rfl rfl
  · refine h.paired e (Multiset.mem_add.mpr (.inr ?_))
    rw [all]
    exact Multiset.mem_add.mpr (.inl (Multiset.mem_coe.mpr he))
  · rw [weight_drop_events, System.tokens_eq s.sys, all, Multiset.add_bind]
    dsimp only [spawn]
    rw [System.tokens_eq, left]
    abel
  · intro e he
    dsimp only [spawn] at he
    rw [System.pending, left] at he
    refine h.paired e (Multiset.mem_add.mpr ((Multiset.mem_add.mp he).imp id fun he => ?_))
    rw [all]
    exact Multiset.mem_add.mpr (.inr he)

/-- What is in the channel is dropped by another thread. -/
theorem Sound.drop_queue {s : Concurrent S} (h : Sound s) {ch : Channel OperationEvent}
    (empty : ch.queue = []) :
    Sound ({ s with
      sys := { s.sys with stack := { s.sys.stack with operation_event := ch } } }.spawn
        (s.sys.stack.operation_event.queue.flatMap drop_ops)) := by
  have pending : ({ s.sys.stack with operation_event := ch } : TcpStack S).pending =
      s.sys.stack.parked := by
    rw [TcpStack.pending, empty, Multiset.coe_nil, zero_add]
    rfl
  refine h.of_transfer (s.sys.stack.operation_event.queue.flatMap drop_ops)
    (blocks_drop_events fun e he => ?_) (.inr (.inl rfl)) ?_ ?_ rfl rfl rfl rfl rfl rfl
  · exact h.paired e (Multiset.mem_add.mpr (.inl (mem_pending_of_queue he)))
  · rw [weight_drop_events, System.tokens_eq s.sys, TcpStack.tokens, TcpStack.pending,
      Multiset.add_bind]
    dsimp only [spawn]
    rw [System.tokens_eq, TcpStack.tokens, pending]
    change _ + (↑s.sys.collected : Multiset OperationEvent).bind OperationEvent.tokens + _ = _
    abel
  · intro e he
    dsimp only [spawn] at he
    rw [System.pending, pending] at he
    refine h.paired e (Multiset.mem_add.mpr ((Multiset.mem_add.mp he).imp (fun he => ?_) id))
    exact Multiset.mem_add.mpr (.inr he)

/-- A socket is dropped with its wakers, which give up what their events hold. -/
theorem drop_item (item : Item S) (paired : ∀ e ∈ item.parked, e.Paired) :
    Blocks item.drop_ops ∧ weight Op.tokens item.drop_ops =
      item.parked.bind OperationEvent.tokens := by
  have waker : ∀ o : Option OperationEvent, (∀ e, o = some e → e.Paired) →
      Blocks (o.elim [] drop_ops : List (Op S)) ∧
        weight Op.tokens (o.elim [] drop_ops : List (Op S)) =
        (↑o.toList : Multiset OperationEvent).bind OperationEvent.tokens := by
    intro o own
    cases o with
    | none => exact ⟨.nil, by simp⟩
    | some e => exact ⟨blocks_drop_ops (own e rfl), by simp⟩
  have recv := waker (item.wakers .recv) fun e he =>
    paired e (Multiset.mem_add.mpr (.inl (by simp [he])))
  have send := waker (item.wakers .send) fun e he =>
    paired e (Multiset.mem_add.mpr (.inr (by simp [he])))
  refine ⟨recv.1.append send.1, ?_⟩
  rw [Item.drop_ops, weight_append, recv.2, send.2, Item.parked, Multiset.add_bind]

/-- The wakers of all sockets, slot by slot. -/
theorem drop_slots (slots : List (Option (ℕ × Item S)))
    (paired : ∀ e ∈ Slots.sum (fun p : ℕ × Item S => p.2.parked) slots, e.Paired) :
    Blocks (slots.flatMap fun slot => slot.elim [] fun p => p.2.drop_ops) ∧
      weight Op.tokens (slots.flatMap fun slot => slot.elim [] fun p => p.2.drop_ops) =
        (Slots.sum (fun p : ℕ × Item S => p.2.parked) slots).bind OperationEvent.tokens := by
  induction slots with
  | nil => exact ⟨.nil, rfl⟩
  | cons slot slots ih =>
    simp only [Slots.sum, List.map_cons, List.sum_cons, Multiset.mem_add] at paired
    have rest := ih fun e he => paired e (.inr he)
    have first : Blocks (slot.elim [] fun p => p.2.drop_ops) ∧
        weight Op.tokens (slot.elim [] fun p => p.2.drop_ops) =
          (slot.elim 0 fun p => p.2.parked).bind OperationEvent.tokens := by
      cases slot with
      | none => exact ⟨.nil, by simp⟩
      | some p => exact drop_item p.2 fun e he => paired e (.inl he)
    refine ⟨first.1.append rest.1, ?_⟩
    rw [List.flatMap_cons, weight_append, first.2, rest.2, Slots.sum, Slots.sum, List.map_cons,
      List.sum_cons, Multiset.add_bind]

/-- Dropping the stack keeps the state sound. -/
theorem Sound.drop_stack {s s' : Concurrent S} (h : Sound s)
    (steps : s.step .drop_stack = some s') : Sound s' := by
  simp only [Concurrent.step] at steps
  split at steps
  · cases steps
  rename_i free
  simp only [Bool.or_eq_true, not_or, Bool.not_eq_true, Bool.not_eq_false'] at free
  obtain rfl := Option.some.inj steps
  -- The wakers go with their sockets, and the channel stays.
  have pending : ({ s.sys.stack with socket_set := .empty } : TcpStack S).pending =
      ↑s.sys.stack.operation_event.queue := by
    have hp : ({ s.sys.stack with socket_set := .empty } : TcpStack S).parked = 0 := rfl
    rw [TcpStack.pending, hp, add_zero]
  have parked : ∀ e ∈ s.sys.stack.parked, e.Paired := fun e he =>
    h.paired e (Multiset.mem_add.mpr (.inl (Multiset.mem_add.mpr (.inr he))))
  obtain ⟨blocks, weight⟩ := drop_slots s.sys.stack.socket_set.slots parked
  refine h.of_transfer s.sys.stack.drop_stack_ops blocks
    (.inr (.inr ⟨idle_iff.mp free.2, rfl⟩)) ?_ ?_ rfl rfl rfl rfl rfl rfl
  · rw [drop_stack_ops, weight, System.tokens_eq s.sys, TcpStack.tokens, TcpStack.pending,
      Multiset.add_bind]
    dsimp only [load]
    rw [System.tokens_eq, TcpStack.tokens, pending]
    change _ + (↑s.sys.collected : Multiset OperationEvent).bind OperationEvent.tokens +
      s.sys.stack.parked.bind OperationEvent.tokens = _
    abel
  · intro e he
    dsimp only [load] at he
    rw [System.pending, pending] at he
    refine h.paired e (Multiset.mem_add.mpr ((Multiset.mem_add.mp he).imp (fun he => ?_) id))
    exact Multiset.mem_add.mpr (.inl he)

/-! ## Calls -/

/-- The tokens of a new request, as they are when it was made. -/
theorem Sound.of_fresh {s s' : Concurrent S} (h : Sound s) {fresh : Multiset Token}
    (nodup : fresh.Nodup) (ids : ∀ x ∈ fresh, x.id = s.sys.issued.length)
    (held : s'.held = fresh + s.held) (issued : s'.sys.issued.length = s.sys.issued.length + 1)
    (paired : ∀ e ∈ s'.sys.pending, e.Paired) (threads : ∀ ops ∈ s'.threads, Tidy ops)
    (strong_count : ∀ b, s'.strong_count b = if b = s.sys.issued.length then
      fresh.count (.caller b) + fresh.count (.buffer b) else s.strong_count b)
    (senders : ∀ tx, s'.senders tx =
      if tx = s.sys.issued.length then fresh.count (.sender tx) else s.senders tx)
    (answers : s'.sys.stack.answers = s.sys.stack.answers)
    (casting : ∀ b ops, .cast b :: ops ∈ s'.threads → .cast b :: ops ∈ s.threads)
    (casts : s'.casts = s.casts) : Sound s' := by
  set n := s.sys.issued.length with hn
  -- The tokens have a number that no other token has.
  have old : ∀ x : Token, x.id = n → s.held.count x = 0 := fun x hx =>
    Multiset.count_eq_zero_of_notMem fun hm => absurd (h.issued x hm) (by omega)
  have new : ∀ x : Token, x.id ≠ n → fresh.count x = 0 := fun x hx =>
    Multiset.count_eq_zero_of_notMem fun hm => hx (ids x hm)
  have count : ∀ x, s'.held.count x = fresh.count x + s.held.count x := fun x => by
    rw [held, Multiset.count_add]
  exact {
    nodup := by
      rw [held, Multiset.nodup_add]
      refine ⟨nodup, h.nodup, Multiset.disjoint_left.mpr fun {x} hx hm => ?_⟩
      exact absurd (h.issued x hm) (by rw [ids x hx]; omega)
    issued := fun x hx => by
      rw [held] at hx
      rcases Multiset.mem_add.mp hx with hx | hx
      · rw [ids x hx]
        omega
      · have := h.issued x hx
        omega
    paired := paired
    threads := threads
    strong_count := fun b => by
      rw [strong_count, count, count]
      split_ifs with hb
      · rw [old (.caller b) hb, old (.buffer b) hb]
        omega
      · rw [new (.caller b) hb, new (.buffer b) hb, h.strong_count]
        omega
    senders := fun tx => by
      rw [senders, count]
      split_ifs with htx
      · rw [old (.sender tx) htx, add_zero]
      · rw [new (.sender tx) htx, h.senders, zero_add]
    answered := fun a ha => by
      obtain ⟨lt, gone⟩ := h.answered a (answers ▸ ha)
      refine ⟨by rw [issued]; exact Nat.lt_succ_of_lt lt, fun hb => ?_⟩
      rw [held] at hb
      rcases Multiset.mem_add.mp hb with hb | hb
      · exact Nat.ne_of_lt lt (ids _ hb)
      · exact gone hb
    casting := fun b ops hops hb => by
      have hops := casting b ops hops
      have hc : .caller b ∈ s.held := by
        refine Multiset.mem_add.mpr (.inr (mem_weigh hops ?_))
        simp [Op.tokens]
      have lt : b < n := h.issued _ hc
      rw [held] at hb
      rcases Multiset.mem_add.mp hb with hb | hb
      · exact Nat.ne_of_lt lt (ids _ hb)
      · exact h.casting b ops hops hb
    casts := casts ▸ h.casts }

/-- The reference of the call, and what its event holds. -/
def call_tokens (c : Call) (id : ℕ) : Multiset Token :=
  ↑((c.event id).buffer.toList.map Token.caller) + (c.event id).tokens

/-- The tokens of a call are different ones. -/
theorem call_tokens_nodup (c : Call) (id : ℕ) : (call_tokens c id).Nodup := by
  cases c <;> simp [call_tokens, Call.event, OperationEvent.tokens, buffer, result_tx]

/-- The tokens of a call bear its number. -/
theorem id_of_call_tokens {c : Call} {id : ℕ} {x : Token} (h : x ∈ call_tokens c id) :
    x.id = id := by
  cases c <;> simp [call_tokens, Call.event, OperationEvent.tokens, buffer, result_tx] at h <;>
    rcases h with rfl | rfl | rfl <;> rfl

/-- A call that is refused has all its tokens itself. -/
theorem weight_refused_ops (c : Call) (id : ℕ) :
    weight Op.tokens (c.refused_ops id : List (Op S)) = call_tokens c id := by
  cases c <;> simp [Call.refused_ops, call_tokens, Call.event, Op.tokens, OperationEvent.tokens,
    buffer, result_tx, Multiset.cons_swap (Token.buffer id)]

/-- The event of a call holds its buffer together with its sender. -/
theorem call_event_paired (c : Call) (id : ℕ) : (c.event id).Paired := by
  intro b hb
  cases c <;> simp_all [Call.event, buffer, result_tx]

/-- The counts of the new request's references and senders. -/
theorem counts_call (s : Concurrent S) (c : Call) :
    (∀ b, (s.call c).strong_count b = if b = s.sys.issued.length ∧ (c.event b).buffer.isSome then 2
      else s.strong_count b) ∧
    ∀ tx, (s.call c).senders tx = if tx = s.sys.issued.length then 1 else s.senders tx := by
  cases hc : s.sys.stack.operation_event.connected <;> cases c <;>
    simp [call, Call.event, buffer, hc, Function.update_apply, spawn]

/-- The counts of the new request are those of its tokens, as its number is new. -/
theorem Sound.counts_call_tokens {s : Concurrent S} (h : Sound s) (c : Call) :
    (∀ b, (s.call c).strong_count b = if b = s.sys.issued.length then
      (call_tokens c s.sys.issued.length).count (.caller b) +
        (call_tokens c s.sys.issued.length).count (.buffer b)
      else s.strong_count b) ∧
    ∀ tx, (s.call c).senders tx = if tx = s.sys.issued.length then
      (call_tokens c s.sys.issued.length).count (.sender tx) else s.senders tx := by
  obtain ⟨strong, sends⟩ := counts_call s c
  set n := s.sys.issued.length with hn
  have unused : ∀ x : Token, x.id = n → s.held.count x = 0 := fun x hx =>
    Multiset.count_eq_zero_of_notMem fun hm => absurd (h.issued x hm) (by omega)
  refine ⟨fun b => ?_, fun tx => ?_⟩
  · rw [strong]
    by_cases hb : b = n
    · subst hb
      have zero : s.strong_count n = 0 := by rw [h.strong_count, unused _ rfl, unused _ rfl]
      cases c <;> simp [call_tokens, Call.event, OperationEvent.tokens, buffer, result_tx, zero]
    · simp [hb]
  · rw [sends]
    by_cases htx : tx = n
    · subst htx
      cases c <;> simp [call_tokens, Call.event, OperationEvent.tokens, buffer, result_tx]
    · simp [htx]

/-- A call keeps the state sound: its tokens are new. -/
theorem Sound.call {s : Concurrent S} (h : Sound s) (c : Call) : Sound (s.call c) := by
  obtain ⟨strong_count, senders⟩ := h.counts_call_tokens c
  set n := s.sys.issued.length with hn
  cases hc : s.sys.stack.operation_event.connected with
  | true =>
    -- The event is pending, and the caller keeps a reference of its own.
    have eq : (s.call c).sys = s.sys.issue c ∧ (s.call c).threads = s.threads ∧
        (s.call c).callers = s.callers ++ (c.event n).buffer.toList ∧
          (s.call c).casts = s.casts := by
      simp [Concurrent.call, hc, hn]
    obtain ⟨sys, threads, callers, casts⟩ := eq
    have pending : (s.sys.issue c).pending = {c.event n} + s.sys.pending := by
      have hp := pending_send_event (t := { s.sys.stack with
        memory := Function.update s.sys.stack.memory n c.buf }) hc (c.event n)
      rw [System.pending, System.pending, ← add_assoc]
      exact congrArg (· + _) hp
    refine h.of_fresh (call_tokens_nodup c n) (fun x => id_of_call_tokens) ?_
      (by simp [sys, System.issue])
      ?_ (threads ▸ h.threads) strong_count senders (by rw [sys]; rfl) (by simp [threads]) casts
    · rw [held, held, sys, threads, callers, System.tokens, pending, Multiset.add_bind,
        Multiset.singleton_bind, call_tokens, List.map_append, ← Multiset.coe_add, System.tokens]
      abel
    · intro e he
      rw [sys, pending] at he
      rcases Multiset.mem_add.mp he with he | he
      · rw [Multiset.mem_singleton.mp he]
        exact call_event_paired c n
      · exact h.paired e he
  | false =>
    -- The send failed: the request is all in the operations of a new thread.
    have eq : (s.call c).sys = { s.sys with issued := s.sys.issued ++ [c.handle] } ∧
        (s.call c).threads = s.threads ++ [c.refused_ops n] ∧
        (s.call c).callers = s.callers ∧ (s.call c).casts = s.casts := by
      simp [Concurrent.call, hc, hn, spawn]
    obtain ⟨sys, threads, callers, casts⟩ := eq
    refine h.of_fresh (call_tokens_nodup c n) (fun x => id_of_call_tokens) ?_ (by simp [sys])
      ?_ ?_ strong_count senders (by rw [sys]) ?_ casts
    · rw [held, held, sys, threads, callers, weigh_concat, weight_refused_ops]
      change _ + s.sys.tokens + _ = _
      abel
    · rw [sys]
      exact h.paired
    · intro ops hops
      rw [threads, List.mem_append, List.mem_singleton] at hops
      rcases hops with hops | rfl
      · exact h.threads ops hops
      · cases c with
        | shutdown stream => exact .blocks (.close .nil)
        | _ => exact .refused
    · intro b ops hops
      rw [threads, List.mem_append, List.mem_singleton] at hops
      rcases hops with hops | hops
      · exact hops
      · cases c <;> cases hops

/-- Taking a call's reference away from the others. -/
theorem map_erase_callers {callers : List BufferId} {rx : ResultTx} (h : rx ∈ callers) :
    (↑((callers.erase rx).map Token.caller) : Multiset Token) + {.caller rx} =
      ↑(callers.map Token.caller) := by
  rw [← Multiset.map_coe, ← Multiset.map_coe, add_comm, System.map_erase h]

/-- A call that has learned its outcome casts its reference. -/
theorem Sound.returned {s s' : Concurrent S} (h : Sound s) {rx : ResultTx}
    (steps : s.act (.return_ rx) = some s') : Sound s' := by
  simp only [act] at steps
  split at steps
  · rename_i hr
    obtain rfl := Option.some.inj steps
    have gone := h.released_of_learns hr.2
    have threads : ∀ ops ∈ s.threads ++ [if rx ∈ s.callers then [.cast rx] else []],
        ops ∈ s.threads ∨ ops = [] ∨ ops = [.cast rx] := by
      intro ops hops
      rw [List.mem_append, List.mem_singleton] at hops
      rcases hops with hops | rfl
      · exact .inl hops
      · split_ifs
        · exact .inr (.inr rfl)
        · exact .inr (.inl rfl)
    -- The reference of the call is in the thread that casts it.
    have held :
        ((s.forget rx).spawn (if rx ∈ s.callers then [.cast rx] else [])).held = s.held := by
      have tokens : ((s.forget rx).spawn (if rx ∈ s.callers then [.cast rx] else [])).sys.tokens =
          s.sys.tokens := rfl
      rw [Concurrent.held, Concurrent.held, tokens]
      dsimp only [spawn, forget]
      rw [weigh_concat]
      split_ifs with hrx
      · rw [← map_erase_callers hrx, weight_cons, weight_nil, Op.tokens]
        abel
      · rw [List.erase_of_not_mem hrx, weight_nil, add_zero]
    refine h.of_move 0 (by rw [held, add_zero]) rfl h.paired ?_ (fun b => by simp [spawn, forget])
      (fun tx => by simp [spawn, forget]) ⟨[], by simp [spawn, forget], by simp⟩ ?_ h.casts
    · intro ops hops
      rcases threads ops hops with hops | rfl | rfl
      · exact h.threads ops hops
      · exact .blocks .nil
      · exact .casting .nil
    · intro b ops hops
      rcases threads _ hops with hops | hops | hops
      · exact .inl hops
      · cases hops
      · cases hops
        rw [held]
        exact .inr gone
  · cases steps

/-- The future of a call is dropped with its reference. -/
theorem Sound.future_dropped {s s' : Concurrent S} (h : Sound s) {rx : ResultTx}
    (steps : s.act (.drop_future rx) = some s') : Sound s' := by
  simp only [act] at steps
  split at steps
  · obtain rfl := Option.some.inj steps
    split_ifs with hrx
    · refine h.of_move {.caller rx} ?_ rfl h.paired h.threads (fun b => ?_) (fun tx => ?_)
        ⟨[], by simp [drop_ref, forget], by simp⟩ (fun b ops hops => .inl hops) h.casts
      · have tokens : ((s.forget rx).drop_ref rx).sys.tokens = s.sys.tokens := rfl
        rw [held, held, tokens, ← map_erase_callers hrx]
        dsimp only [drop_ref, forget]
        abel
      · simp [drop_ref, forget, update_sub_one, Multiset.count_singleton]
      · simp [drop_ref, forget]
    · -- The call of a Shutdown has no reference.
      refine h.of_move 0 ?_ rfl h.paired h.threads (fun b => by simp [forget])
        (fun tx => by simp [forget]) ⟨[], by simp [forget], by simp⟩
        (fun b ops hops => .inl hops) h.casts
      have tokens : (s.forget rx).sys.tokens = s.sys.tokens := rfl
      rw [held, held, tokens, add_zero]
      dsimp only [forget]
      rw [List.erase_of_not_mem hrx]
  · cases steps

/-! ## Every turn -/

/-- An action keeps the state sound. -/
theorem Sound.act {s s' : Concurrent S} (h : Sound s) {a : Action} (steps : s.act a = some s') :
    Sound s' := by
  have of_quiet : quiet a = true →
      (s.sys.step a).map (fun sys => { s with sys }) = some s' → Sound s' := by
    intro hq steps
    obtain ⟨sys, hsys, rfl⟩ := Option.map_eq_some_iff.mp steps
    obtain ⟨new, empty, pending, issued, answers⟩ := pending_of_quiet hq hsys
    exact h.of_quiet empty pending issued answers
  cases a with
  | start packet now batch => exact h.start steps
  | event => exact h.event steps
  | finish =>
    simp only [Concurrent.act] at steps
    split at steps
    · exact of_quiet rfl steps
    · cases steps
  | drop_batch i => exact h.drop_batch steps
  | drop_generator =>
    obtain rfl := Option.some.inj steps
    exact h.drop_queue rfl
  | call c =>
    simp only [Concurrent.act] at steps
    split at steps
    · obtain rfl := Option.some.inj steps
      exact h.call c
    · cases steps
  | return_ rx => exact h.returned steps
  | drop_future rx => exact h.future_dropped steps
  | generate => exact of_quiet rfl steps
  | accept_tcp => exact of_quiet rfl steps
  | accept_udp => exact of_quiet rfl steps
  | drop_tcp_acceptor => exact of_quiet rfl steps
  | drop_udp_acceptor => exact of_quiet rfl steps
  | drop_tcp_stream stream => exact of_quiet rfl steps
  | drop_udp_socket socket => exact of_quiet rfl steps

/-- Every turn keeps the state sound. -/
theorem sound_step {s s' : Concurrent S} {turn : Turn} (h : Sound s)
    (steps : s.step turn = some s') : Sound s' := by
  cases turn with
  | run i => exact h.run steps
  | drop_stack => exact h.drop_stack steps
  | generate_failed =>
    simp only [Concurrent.step] at steps
    split at steps
    · obtain rfl := Option.some.inj steps
      exact h.drop_queue rfl
    · cases steps
  | act a => exact h.act steps

/-- `Sound` holds in every state that is reached. -/
theorem sound_of_run {size : ℕ} {interface : S.Interface} {s : Concurrent S}
    (run : Reachable step (new size interface) s) : Sound s :=
  run.invariant (sound_new size interface) fun _ _ _ _ _ steps sound => sound_step sound steps

/-! ## Sole holders -/

/-- The caller is the only holder when the request has no reference but in the call's own thread. -/
theorem holders_eq {s : Concurrent S} {b : BufferId}
    (caller : b ∈ s.callers ∨ ∃ ops ∈ s.threads, .cast b ∈ ops) (stack : .buffer b ∉ s.sys.tokens)
    (threads : ∀ ops ∈ s.threads, .buffer b ∈ weight Op.tokens ops → .cast b ∈ ops) :
    s.holders b = {.caller} := by
  have pending : ∀ e ∈ s.sys.pending, e.buffer ≠ some b := by
    intro e he hb
    refine stack (Multiset.mem_bind.mpr ⟨e, he, ?_⟩)
    simp [OperationEvent.tokens, hb]
  ext x
  cases x with
  | caller => exact ⟨fun _ => rfl, fun _ => caller⟩
  | channel =>
    refine ⟨?_, fun h => by cases h⟩
    rintro ⟨e, he, hb⟩
    exact absurd hb (pending e (Multiset.mem_add.mpr (.inl (mem_pending_of_queue he))))
  | batch =>
    refine ⟨?_, fun h => by cases h⟩
    rintro ⟨e, he, hb⟩
    exact absurd hb (pending e (Multiset.mem_add.mpr (.inr (Multiset.mem_coe.mpr he))))
  | waker i side =>
    refine ⟨?_, fun h => by cases h⟩
    rintro ⟨e, hw, hb⟩
    exact absurd hb (pending e (Multiset.mem_add.mpr (.inl (mem_pending_of_waker hw))))
  | thread i =>
    refine ⟨?_, fun h => by cases h⟩
    rintro ⟨ops, hi, no_cast, op, hop, hb⟩
    exact absurd (threads ops (List.mem_of_getElem? hi) (mem_weight hop hb)) no_cast

/-- A call that can learn its outcome is the only holder of its buffer. -/
theorem Sound.holders_of_learns {s : Concurrent S} (h : Sound s) {b : BufferId}
    (waits : b ∈ s.callers) (learns : s.learns b = true) :
    s.holders b = {.caller} ∧ s.strong_count b = 1 := by
  have gone := h.released_of_learns learns
  have none := mt buffer_mem_held.mpr gone
  rw [Multiset.mem_add, not_or] at none
  constructor
  · refine holders_eq (.inl waits) none.1 fun ops hops hb => ?_
    exact absurd (mem_weigh hops hb) none.2
  · have own : .caller b ∈ s.held := by
      rw [held, add_assoc]
      exact Multiset.mem_add.mpr (.inl (by simpa using waits))
    rw [h.strong_count, Multiset.count_eq_one_of_mem h.nodup own,
      Multiset.count_eq_zero_of_notMem gone]

/-- A call that has learned its outcome is the only holder until its cast. -/
theorem Sound.holders_of_cast {s : Concurrent S} (h : Sound s) {b : BufferId} {ops : List (Op S)}
    (hops : ops ∈ s.threads) (cast : .cast b ∈ ops) : s.holders b = {.caller} := by
  obtain ⟨i, hi⟩ := List.mem_iff_getElem?.mp hops
  have at_cast : .buffer b ∉ s.held → s.holders b = {.caller} := by
    intro gone
    have none := mt buffer_mem_held.mpr gone
    rw [Multiset.mem_add, not_or] at none
    refine holders_eq (.inr ⟨ops, hops, cast⟩) none.1 fun ops' hops' hb => ?_
    exact absurd (mem_weigh hops' hb) none.2
  cases h.threads ops hops with
  | blocks blocks => exact absurd cast (blocks.not_mem_cast b)
  | @casting c rest blocks =>
    rcases List.mem_cons.mp cast with eq | cast
    · cases eq
      exact at_cast (h.casting b rest hops)
    · exact absurd cast (blocks.not_mem_cast b)
  | @refused c =>
    obtain rfl : b = c := by simpa using cast
    obtain ⟨-, apart⟩ := h.apart hi
    have own : .buffer b ∈ weight Op.tokens [(.release b : Op S), .cast b, .close b] := by
      simp [Op.tokens]
    have elsewhere : .buffer b ∉ s.sys.tokens + weigh Op.tokens (s.threads.set i []) :=
      fun hb => Multiset.disjoint_left.mp apart hb own
    rw [Multiset.mem_add, not_or] at elsewhere
    refine holders_eq (.inr ⟨_, hops, cast⟩) elsewhere.1 fun ops' hops' hb => ?_
    obtain ⟨j, hj⟩ := List.mem_iff_getElem?.mp hops'
    by_cases hji : j = i
    · rw [hji, hi] at hj
      rw [← Option.some.inj hj]
      exact cast
    · have hset : (s.threads.set i [])[j]? = some ops' := by
        rw [List.getElem?_set_ne (Ne.symm hji), hj]
      exact absurd (mem_weigh (List.mem_of_getElem? hset) hb) elsewhere.2

/-- In every run of callers, stack, generator, and acceptors, a call that waits and whose outcome
can be seen, and a call that has learned its outcome, is the only holder of its buffer, and every
cast finds the reference count at 1. -/
theorem sole_holder {size : ℕ} {interface : S.Interface} {s : Concurrent S}
    (run : Reachable step (new size interface) s) :
    (∀ b ∈ s.callers, s.learns b = true → s.holders b = {.caller} ∧ s.strong_count b = 1) ∧
      (∀ ops ∈ s.threads, ∀ b, .cast b ∈ ops → s.holders b = {.caller}) ∧
      ∀ n ∈ s.casts, n = 1 := by
  have sound := sound_of_run run
  exact ⟨fun b waits learns => sound.holders_of_learns waits learns,
    fun ops hops b cast => sound.holders_of_cast hops cast, sound.casts⟩

open Reference in
/-- Two recvs on one socket, of which the first returns while the thread that answered it has not
yet dropped the sender. The second is parked, and the stack is dropped with its waker; then the
generator is dropped, and a send is refused. -/
def three_outcomes : List Turn := [
  .act (.start (some (udp_packet 1 2 [7])) 0 none), .run 0, .run 0, .act .finish, .act .generate,
  .act (.start none 0 (some 0)), .run 0, .act .event, .run 0, .act .finish, .act .accept_udp,
  .act (.call (.recv ⟨⟨0, 0⟩, server_addr 2⟩ ⟨[1, 2], 0⟩)),
  .act (.call (.recv ⟨⟨0, 0⟩, server_addr 2⟩ ⟨[1, 2], 0⟩)), .act .generate,
  .act (.start none 0 (some 0)), .run 0, .act .event, .run 0, .run 0, .run 0, .run 0,
  .act (.return_ 0), .run 1, .run 0, .act .event, .run 0, .act .finish,
  .drop_stack, .run 0, .run 0, .act .drop_generator,
  .act (.call (.send ⟨⟨0, 0⟩, server_addr 2⟩ ⟨[3], 1⟩ (client_addr 1))), .run 3, .run 3]

/-- The first recv and the send cast their buffers, and the second recv can see that no sender is
left. -/
theorem sole_holder_three_outcomes : ∃ s : Concurrent reference,
    Reachable step (new 64 ()) s ∧ s.casts = [1, 1] ∧ s.callers = [1] ∧ s.learns 1 = true ∧
    s.holders 1 = {.caller} ∧ s.strong_count 1 = 1 := by
  obtain ⟨s, hs, ht⟩ := exists_of_exec_any step (new 64 () : Concurrent reference) three_outcomes
    (fun s => s.casts = [1, 1] ∧ s.callers = [1] ∧ s.learns 1 = true) (by decide +kernel)
  obtain ⟨casts, callers, learns⟩ := of_decide_eq_true ht
  have run : Reachable step (new 64 ()) s := .of_exec hs
  obtain ⟨alone, one⟩ := (sole_holder run).1 1 (by simp [callers]) learns
  exact ⟨s, run, casts, callers, learns, alone, one⟩

end Concurrent

end L3Extract
