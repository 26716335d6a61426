import L3Extract.Smoltcp.Transmit
import L3Extract.Stack.Account
import L3Extract.Stack.Batch
import Mathlib.Algebra.Order.BigOperators.Group.Finset

/-!
# What is left to do

An event that cannot be handled waits in a waker, and comes back when the waker runs. `unrest` is a
measure of the events that there are and of those that may still come back: a waker runs when the
state of its TCP socket changes, which happens at most twice more without a packet, or when a
datagram leaves its UDP socket.

An event counts three where it is queued and two where it is parked, a TCP socket counts two for
each change of its state, and a UDP socket one for each datagram.
-/

namespace L3Extract

open OperationEvent

variable {S : Smoltcp}

/-- Twice the changes of state that are left without a packet. -/
def TcpState.rank : TcpState → ℕ
  | closed => 0
  | listen | syn_sent | syn_received | established | close_wait => 4
  | _ => 2

/-- A `close` that changes the state makes a socket count less. -/
theorem TcpState.rank_after_close {state : TcpState} (changes : state.after_close ≠ state) :
    state.after_close.rank + 2 ≤ state.rank := by
  cases state <;> simp_all [after_close, rank]

/-- A socket that is not closed counts. -/
theorem TcpState.two_le_rank {state : TcpState} (open_ : state ≠ closed) : 2 ≤ state.rank := by
  cases state <;> simp_all [rank]

/-- What a socket counts. -/
def Smoltcp.rank (S : Smoltcp) : S.Socket → ℕ
  | .tcp c => (S.tcp.state c).rank
  | .udp u => (S.udp.tx_buffer u).length

namespace TcpStack

/-- What the sockets count. -/
def rank (t : TcpStack S) : ℕ := t.socket_set.sum fun item => S.rank item.socket

/-- What the stack counts. -/
def unrest (t : TcpStack S) : ℕ :=
  2 * t.pending.card + t.operation_event.queue.length + t.rank

/-- The stack counts no more than before, and two for each event that is new. -/
theorem unrest_le {t t' : TcpStack S} {n : ℕ} (pending : t'.pending.card ≤ t.pending.card + n)
    (rest : t'.operation_event.queue.length + t'.rank ≤
      t.operation_event.queue.length + t.rank) : t'.unrest ≤ t.unrest + 2 * n := by
  unfold unrest
  omega

/-- An event is pending in the channel or parked. -/
theorem card_pending (t : TcpStack S) :
    t.pending.card = t.operation_event.queue.length + t.parked.card := by
  rw [pending, Multiset.card_add, Multiset.coe_card]

/-- The stack after `generate` took what is in the channel. -/
def generated (t : TcpStack S) : TcpStack S :=
  { t with operation_event := t.operation_event.drain }

/-- What is taken out of the channel counts three there. -/
theorem unrest_generated (t : TcpStack S) :
    t.generated.unrest + 3 * t.operation_event.queue.length = t.unrest := by
  have left : t.generated.unrest = 2 * t.parked.card + t.rank := by
    rw [unrest, card_pending]
    show 2 * (0 + t.parked.card) + 0 + t.rank = _
    omega
  rw [left, unrest, card_pending]
  omega

/-! ## Sockets -/

/-- The entry behind a socket. -/
theorem exists_item {t : TcpStack S} {i : ℕ} {s : S.Socket} (h : t.socket_at i = some s) :
    ∃ item, t.socket_set.val i = some item ∧ item.socket = s := Option.map_eq_some_iff.mp h

/-- A socket that becomes another one exchanges what it counts. -/
theorem rank_put {t : TcpStack S} {i : ℕ} {s : S.Socket} (h : t.socket_at i = some s)
    (s' : S.Socket) : S.rank s + (t.put i s').rank = S.rank s' + t.rank := by
  obtain ⟨item, hi, rfl⟩ := exists_item h
  exact Arena.sum_modify (fun item => S.rank item.socket) hi (.put s')

/-- A socket that is removed counts no more. -/
theorem rank_remove {t : TcpStack S} {i : ℕ} {s : S.Socket} (h : t.socket_at i = some s) :
    S.rank s + ({ t with socket_set := t.socket_set.remove i } : TcpStack S).rank = t.rank := by
  obtain ⟨item, hi, rfl⟩ := exists_item h
  exact Arena.sum_remove (fun item => S.rank item.socket) hi

/-- Wakers count nothing here. -/
theorem rank_modify (t : TcpStack S) (i : ℕ) {f : Item S → Item S}
    (same : ∀ item, (f item).socket = item.socket) :
    ({ t with socket_set := t.socket_set.modify i f } : TcpStack S).rank = t.rank := by
  cases hi : t.socket_set.val i with
  | none => exact Arena.sum_modify_of_none _ hi f
  | some item =>
    have sum := Arena.sum_modify (fun item : Item S => S.rank item.socket) hi f
    rw [same] at sum
    exact add_left_cancel sum

/-- Registering a waker leaves what the sockets count. -/
theorem rank_register (t : TcpStack S) (i : ℕ) (side : Side) (e : OperationEvent) :
    (t.register i side e).rank = t.rank := rank_modify t i fun _ => rfl

/-- Waking leaves what the sockets count. -/
theorem rank_wake (t : TcpStack S) (i : ℕ) (side : Side) : (t.wake i side).rank = t.rank := by
  cases h : t.waker i side with
  | none => rw [wake_of_none h]
  | some e =>
    rw [wake_of_some h, run_waker_eq]
    exact rank_modify t i fun _ => rfl

/-- A waker sends at most one event. -/
theorem queue_wake_le (t : TcpStack S) (i : ℕ) (side : Side) :
    (t.wake i side).operation_event.queue.length ≤ t.operation_event.queue.length + 1 := by
  rw [queue_wake, List.length_append]
  refine Nat.add_le_add_left ((List.length_filter_le _ _).trans ?_) _
  cases t.waker i side <;> simp

/-- Waking both sides of a socket sends two events at most. -/
theorem queue_wake_both_le (t : TcpStack S) (i : ℕ) :
    (t.wake_both i).operation_event.queue.length ≤ t.operation_event.queue.length + 2 :=
  (queue_wake_le _ i .send).trans (Nat.add_le_add_right (queue_wake_le t i .recv) 1)

/-- Closing a TCP socket wakes its wakers only if the state changes. -/
theorem rest_close_tcp (spec : S.Spec) {t : TcpStack S} {i : ℕ} {c : S.Tcp}
    (socket : t.socket_at i = some (.tcp c)) :
    (t.close_tcp i c).operation_event.queue.length + (t.close_tcp i c).rank ≤
      t.operation_event.queue.length + t.rank := by
  have put : (S.tcp.state c).rank + (t.put i (.tcp (S.tcp.close c))).rank =
      (S.tcp.state (S.tcp.close c)).rank + t.rank := rank_put socket _
  rw [close_tcp]
  split_ifs with same
  · rw [same] at put
    exact (congrArg (t.operation_event.queue.length + ·) (add_left_cancel put)).le
  · rw [spec.close_state] at put same
    have drop := TcpState.rank_after_close same
    have queue := queue_wake_both_le (t.put i (.tcp (S.tcp.close c))) i
    have rank : ((t.put i (.tcp (S.tcp.close c))).wake_both i).rank =
        (t.put i (.tcp (S.tcp.close c))).rank := (rank_wake _ _ _).trans (rank_wake _ _ _)
    have same : (t.put i (.tcp (S.tcp.close c))).operation_event = t.operation_event := rfl
    rw [same] at queue
    omega

/-! ## Events -/

/-- A Close may be parked, or send what is parked at the socket that it removes. -/
theorem unrest_close (spec : S.Spec) {t t' : TcpStack S} {h : TypedSocketHandle}
    (ok : t.handle_close_event h = .ok t') : t'.unrest ≤ t.unrest + 2 := by
  have parked : t'.pending.card ≤ t.pending.card + 1 := by
    have pending := Multiset.card_le_card (close_outcome ok).pending_le
    rwa [Multiset.card_add, Multiset.card_singleton, add_comm] at pending
  cases close_cases ok with
  | unknown gone => exact Nat.le_add_right _ _
  | @active handle c found socket active =>
    refine unrest_le parked (le_trans (Nat.add_le_add_left ?_ _) (rest_close_tcp spec socket))
    exact (rank_register _ _ _ _).le
  | @inactive handle c found socket inactive =>
    have there : (t.close_tcp handle.index c).socket_at handle.index =
        some (.tcp (S.tcp.close c)) := by
      rw [(wakes_close_tcp t handle.index c).socket_at, socket_at_put, socket]
      simp
    refine unrest_le parked (le_trans (Nat.add_le_add_left ?_ _) (rest_close_tcp spec socket))
    exact (Nat.le_add_left _ _).trans_eq (rank_remove there)
  | @udp handle u ip found socket bound =>
    -- Nothing is parked; what was parked at the socket may be in the channel.
    have wakes := wakes_close_udp t handle.index u
    have there : (t.close_udp handle.index u).socket_at handle.index =
        some (.udp (S.udp.close u)) := by
      rw [wakes.socket_at, socket_at_put, socket]
      simp
    have put := rank_put socket (.udp (S.udp.close u))
    have woken : (t.close_udp handle.index u).rank =
        (t.put handle.index (.udp (S.udp.close u))).rank :=
      (rank_wake _ _ _).trans (rank_wake _ _ _)
    have removed := rank_remove there
    have pending := Multiset.card_le_card
      ((Multiset.le_add_right _ _).trans (pending_remove (Option.isSome_of_eq_some there)).le)
    have kept := Multiset.card_le_card (wakes.pending.trans (pending_put _ _ _).le)
    have queue : (t.close_udp handle.index u).operation_event.queue.length ≤
        t.operation_event.queue.length + 2 := queue_wake_both_le _ _
    have bound : ({ t.close_udp handle.index u with
        socket_set := (t.close_udp handle.index u).socket_set.remove handle.index } :
          TcpStack S).unrest ≤ t.unrest + 2 := by
      unfold unrest
      dsimp only at queue ⊢
      omega
    exact bound

/-- A socket that serves a request counts at most one more. -/
theorem rank_serves (spec : S.Spec) {t : TcpStack S} {e : OperationEvent} {s s' : S.Socket}
    {memory : BufferId → IoBuf} {a : Answer} (serves : t.Serves e s s' memory a) :
    S.rank s' ≤ S.rank s + 1 := by
  cases serves with
  | @write _ buffer _ c can_send =>
    have state := (spec.send_slice c (t.memory buffer).as_slice).1
    exact (congrArg TcpState.rank state).le.trans (Nat.le_succ _)
  | @read _ buffer _ c queued =>
    have state := (spec.recv_slice c (t.memory buffer).capacity).1
    exact (congrArg TcpState.rank state).le.trans (Nat.le_succ _)
  | @send _ src buffer _ u can_send =>
    have sends := spec.udp_send_slice u (t.memory buffer).as_slice (.from src)
    unfold Smoltcp.rank
    cases res : (S.udp.send_slice u (t.memory buffer).as_slice (.from src)).2 with
    | ok done =>
      have queued := sends.ok res
      dsimp only
      rw [queued, List.length_append]
      exact le_rfl
    | error err =>
      have same := sends.error err res
      dsimp only
      rw [same]
      exact Nat.le_succ _
  | @recv _ buffer _ u can_recv =>
    have same := (spec.udp_recv_slice u (t.memory buffer).capacity).tx_buffer
    exact (congrArg List.length same).le.trans (Nat.le_succ _)

/-- A handled event counts at most two, and not three as it did in the channel. -/
theorem unrest_handle (spec : S.Spec) {t t' : TcpStack S} {e : OperationEvent}
    (ok : t.handle e = .ok t') : t'.unrest ≤ t.unrest + 2 := by
  have outcome := handle_outcome ok
  -- A handler adds at most its own event to what is pending.
  have parked : t'.pending.card ≤ t.pending.card + 1 := by
    have pending := Multiset.card_le_card outcome.pending_le
    rwa [Multiset.card_add, Multiset.card_singleton, add_comm] at pending
  cases outcome with
  | answered tx a result_tx refuses eq =>
    rw [eq]
    exact Nat.le_add_right _ _
  | served tx a s s' memory result_tx found socket serves eq =>
    have put := rank_put socket s'
    have more := rank_serves spec serves
    have pending : t'.pending = t.pending := by
      rw [eq]
      exact pending_put t e.index s'
    have rank : t'.rank = (t.put e.index s').rank := by rw [eq]; rfl
    have queue : t'.operation_event = t.operation_event := by rw [eq]; rfl
    unfold unrest
    rw [pending, rank, queue]
    omega
  | parked side parks eq =>
    refine unrest_le parked ?_
    rw [eq, rank_register]
    exact le_rfl
  | shutdown handle tx c event found socket eq =>
    refine unrest_le parked ?_
    rw [eq]
    refine (rest_close_tcp spec ?_).trans ?_
    · rw [socket_at_register, socket]
    · rw [rank_register]
      exact le_rfl
  | closing handle c event found socket active eq =>
    subst event
    exact unrest_close spec ok
  | removed h s s' accepted u event found socket closes wakes others woken eq =>
    subst event
    exact unrest_close spec ok
  | delivered_tcp handle c remote local_ event socket may_recv remote_eq local_eq eq =>
    rw [eq]
    exact Nat.le_add_right _ _
  | delivered_udp handle u ip event socket bound eq =>
    rw [eq]
    exact Nat.le_add_right _ _
  | ignored h event gone eq =>
    rw [eq]
    exact Nat.le_add_right _ _

/-- Handling a batch makes less of it, as long as there is an event in it. -/
theorem unrest_handle_in_order (spec : S.Spec) {t t' : TcpStack S} {events : List OperationEvent}
    (ok : t.handle_in_order events = .ok t') : t'.unrest ≤ t.unrest + 2 * events.length := by
  induction events generalizing t with
  | nil =>
    cases ok
    exact le_rfl
  | cons e events ih =>
    obtain ⟨u, handled, ok⟩ := except_bind_eq_ok.mp ok
    have first := unrest_handle spec handled
    have others := ih ok
    rw [List.length_cons]
    omega

/-- Handling a list of events does not disconnect the event channel. -/
theorem connected_handle_in_order {t t' : TcpStack S} {events : List OperationEvent}
    (ok : t.handle_in_order events = .ok t') :
    t'.operation_event.connected = t.operation_event.connected := by
  induction events generalizing t with
  | nil =>
    cases ok
    rfl
  | cons e events ih =>
    obtain ⟨u, handled, ok⟩ := except_bind_eq_ok.mp ok
    exact (ih ok).trans (handle_outcome handled).connected

/-! ## The poll -/

/-- The number of events that are parked at the socket in slot `i`. -/
def parked_at (t : TcpStack S) (i : ℕ) : ℕ :=
  (t.waker i .recv).toList.length + (t.waker i .send).toList.length

/-- What is parked, slot by slot. -/
theorem parked_eq_sum {t : TcpStack S} {n : ℕ} (h : t.socket_set.slots.length ≤ n) :
    t.parked.card = ∑ i ∈ Finset.range n, t.parked_at i := by
  rw [parked, Arena.sum_eq_range Item.parked h, Multiset.card_sum]
  refine Finset.sum_congr rfl fun i _ => ?_
  unfold parked_at waker
  cases t.socket_set.val i with
  | none => rfl
  | some item => simp [Item.parked]

/-- What the sockets count, slot by slot. -/
theorem rank_eq_sum {t : TcpStack S} {n : ℕ} (h : t.socket_set.slots.length ≤ n) :
    t.rank = ∑ i ∈ Finset.range n, (t.socket_at i).elim 0 S.rank := by
  rw [rank, Arena.sum_eq_range _ h]
  refine Finset.sum_congr rfl fun i _ => ?_
  unfold socket_at
  cases t.socket_set.val i <;> rfl

/-- Whatever leaves the wakers of a socket in a poll without a packet, the socket pays for. -/
theorem parked_at_poll (rests : S.Rests) (flushes : S.Flushes) {t : TcpStack S}
    (drained : t.virtual_iface.rx_queue = []) (now i : ℕ) :
    t.parked_at i + ((t.poll now).socket_at i).elim 0 S.rank ≤
      (t.poll now).parked_at i + (t.socket_at i).elim 0 S.rank := by
  have result : t.poll_result now = S.poll t.interface now [] t.sockets := by
    rw [poll_result, drained]
  -- A waker is woken at a socket that changes.
  have kept : ∀ side, (i, side) ∉ (t.poll_result now).woken →
      (t.poll now).waker i side = t.waker i side := fun side h =>
    (waker_foldl_of_not_mem h (t.advance now)).trans (waker_advance t now i side)
  have woken : ∀ side, (i, side) ∈ (t.poll_result now).woken →
      (∃ c, t.socket_at i = some (.tcp c) ∧
        S.tcp.state ((t.poll_result now).tcp i c) ≠ S.tcp.state c) ∨
      side = .send ∧ ∃ u, t.socket_at i = some (.udp u) ∧ S.udp.tx_buffer u ≠ [] := by
    intro side h
    rw [result] at h ⊢
    simpa only [get_sockets] using rests.poll_woken _ _ _ _ _ h
  have one : ∀ side, (t.waker i side).toList.length ≤ 1 := fun side => by
    cases t.waker i side <;> simp
  rw [socket_at_poll]
  cases hs : t.socket_at i with
  | none =>
    have none : ∀ side, t.waker i side = none := fun side => by
      have slot : t.socket_set.val i = none := by simpa [socket_at] using hs
      simp [waker, slot]
    simp [parked_at, none]
  | some s =>
    cases s with
    | tcp c =>
      have state : S.tcp.state ((t.poll_result now).tcp i c) = S.tcp.state c ∨
          S.tcp.state ((t.poll_result now).tcp i c) = .closed := by
        rw [result]
        exact (rests.poll_state _ _ _ _ _).imp_right And.left
      show t.parked_at i + (S.tcp.state ((t.poll_result now).tcp i c)).rank ≤
        (t.poll now).parked_at i + (S.tcp.state c).rank
      by_cases same : S.tcp.state ((t.poll_result now).tcp i c) = S.tcp.state c
      · have stays : ∀ side, (t.poll now).waker i side = t.waker i side := by
          refine fun side => kept side fun mem => ?_
          rcases woken side mem with ⟨c', hc', changed⟩ | ⟨-, u, hu, -⟩
          · cases hs.symm.trans hc'
            exact changed same
          · cases hs.symm.trans hu
        simp only [parked_at, stays, same]
        exact le_rfl
      · have closed := state.resolve_left same
        have paid := TcpState.two_le_rank fun was => same (closed.trans was.symm)
        have recv := one .recv
        have send := one .send
        rw [closed]
        show _ + 0 ≤ _
        unfold parked_at
        omega
    | udp u =>
      have emptied : S.udp.tx_buffer ((t.poll_result now).udp i u) = [] :=
        flushes.poll_tx_buffer _ _ _ _ _ _ ((get_sockets t i).trans hs)
      have recv : (t.poll now).waker i .recv = t.waker i .recv := by
        refine kept .recv fun mem => ?_
        rcases woken .recv mem with ⟨c, hc, -⟩ | ⟨side, -⟩
        · cases hs.symm.trans hc
        · cases side
      show t.parked_at i + (S.udp.tx_buffer ((t.poll_result now).udp i u)).length ≤
        (t.poll now).parked_at i + (S.udp.tx_buffer u).length
      rw [emptied, parked_at, parked_at, recv]
      by_cases mem : (i, Side.send) ∈ (t.poll_result now).woken
      · have queued : 1 ≤ (S.udp.tx_buffer u).length := by
          rcases woken .send mem with ⟨c, hc, -⟩ | ⟨-, u', hu', queued⟩
          · cases hs.symm.trans hc
          · cases hs.symm.trans hu'
            exact List.length_pos_iff.mpr queued
        have send := one .send
        show _ + 0 ≤ _
        omega
      · rw [kept .send mem]
        exact Nat.le_add_right _ _

/-- Without a packet, a poll makes nothing more of what there is. -/
theorem unrest_poll (rests : S.Rests) (flushes : S.Flushes) {t : TcpStack S}
    (drained : t.virtual_iface.rx_queue = []) (now : ℕ) : (t.poll now).unrest ≤ t.unrest := by
  obtain ⟨n, before, after⟩ : ∃ n, t.socket_set.slots.length ≤ n ∧
      (t.poll now).socket_set.slots.length ≤ n := ⟨_, le_max_left _ _, le_max_right _ _⟩
  have paid : t.parked.card + (t.poll now).rank ≤ (t.poll now).parked.card + t.rank := by
    rw [parked_eq_sum before, parked_eq_sum after, rank_eq_sum before, rank_eq_sum after,
      ← Finset.sum_add_distrib, ← Finset.sum_add_distrib]
    exact Finset.sum_le_sum fun i _ => parked_at_poll rests flushes drained now i
  have pending := Multiset.card_le_card (pending_poll_le t now)
  have le : (t.poll now).unrest ≤ t.unrest + 2 * 0 := by
    refine unrest_le pending ?_
    rw [card_pending, card_pending] at pending
    omega
  exact le

/-- What a round takes out of the channel is what it has to spend. -/
theorem unrest_begin_round (rests : S.Rests) (flushes : S.Flushes)
    {t : TcpStack S} (drained : t.virtual_iface.rx_queue = []) (now : ℕ) :
    (t.generated.poll now).unrest + 3 * t.operation_event.queue.length ≤ t.unrest := by
  have polled : (t.generated.poll now).unrest ≤ t.generated.unrest :=
    unrest_poll rests flushes (t := t.generated) drained now
  exact (Nat.add_le_add_right polled _).trans_eq (unrest_generated t)

end TcpStack

end L3Extract
