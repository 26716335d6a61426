import L3Extract.System.Retention

/-!
# The Close of a TCP socket

A Close that finds its TCP socket still active waits for the next change of state in the socket's
receive waker. A Read that waits there when the stream is dropped goes back into the channel when
the Close shuts the socket; when it is handled and still finds no data, it registers its own waker
over that of the Close, and nothing will remove the socket (`close_forgotten`).

`close_kept` says that nothing else makes the stack forget a Close: as long as no Read is parked
where a Close waits, the Close is in the channel, in a batch, or in the receive waker, until the
socket is gone.
-/

namespace L3Extract

open OperationEvent Transition TcpStack

variable {S : Smoltcp}

/-- The event is a Close. -/
def OperationEvent.closes : OperationEvent → Bool
  | close _ => true
  | _ => false

namespace System

/-- Besides `Retains`: the handler does not park a Read where a Close waits. -/
def KeepsClose (s : System S) : Action → Prop
  | .event =>
    match s.next_event with
    | some (.read h buffer tx) => s.stack.parks (.read h buffer tx) = some .recv →
        (s.stack.waker h.index .recv).any closes = false
    | _ => True
  | a => s.Retains a

instance (s : System S) (a : Action) : Decidable (s.KeepsClose a) := by
  unfold KeepsClose
  split
  · split <;> infer_instance
  · infer_instance

/-- What keeps the Close retains the events. -/
theorem KeepsClose.retains {s : System S} {a : Action} (guard : s.KeepsClose a) : s.Retains a := by
  cases a with
  | event => trivial
  | _ => exact guard

/-- Two pending events that own the same socket are the same. -/
theorem Owned.eq_of_pending {s : System S} (owned : Owned s) {e e' : OperationEvent}
    {h : TypedSocketHandle} (he : e ∈ s.pending) (he' : e' ∈ s.pending) (owner : e.owner = some h)
    (owner' : e'.owner = some h) : e = e' := by
  by_contra hne
  have hle : {e} + {e'} ≤ s.pending := by
    rw [Multiset.singleton_add]
    refine (Multiset.le_iff_subset ?_).mpr ?_
    · simpa using hne
    · intro x hx
      rcases Multiset.mem_cons.mp hx with rfl | hx
      · exact he
      · rwa [Multiset.mem_singleton.mp hx]
  exact owned.not_both hle owner owner'

/-- The Close of the socket is pending for as long as the socket is there. -/
structure Closing (handle : SocketHandle) (s : System S) : Prop where
  old : handle.incarnation < s.stack.socket_set.next
  pending : s.stack.socket_set.gen handle.index = some handle.incarnation →
    .close (.tcp handle) ∈ s.pending

/-- A Close that is handled waits in the receive waker, or its socket is gone. -/
theorem pending_of_closed {t t' : TcpStack S} {handle : SocketHandle}
    (outcome : Outcome t (.close (.tcp handle)) t') (found : t.contains (.tcp handle) = true)
    (live : (t'.socket_set.gen handle.index).isSome) : .close (.tcp handle) ∈ t'.pending := by
  cases outcome with
  | closing handle' c event found' socket active eq =>
    -- The Close waits for the socket to become inactive.
    cases event
    have hs : ((t.close_tcp handle.index c).socket_at handle.index).isSome := by
      rw [(wakes_close_tcp t handle.index c).socket_at, socket_at_put, socket]
      rfl
    have hw : t'.waker handle.index .recv = some (.close (.tcp handle)) := by
      rw [eq, waker_register, if_pos ⟨rfl, rfl, hs⟩]
    exact mem_pending_of_waker hw
  | removed h s s' accepted u event found' socket closes wakes others woken eq =>
    -- The socket is gone.
    cases event
    rw [eq] at live
    have hg : (u.socket_set.remove handle.index).gen handle.index = none := by
      rw [Arena.gen_remove, if_pos rfl]
    exact absurd live (by rw [Option.not_isSome_iff_eq_none]; exact hg)
  | ignored h event gone eq =>
    cases event
    rw [found] at gone
    cases gone
  | answered tx a result_tx => cases result_tx
  | served tx a s s' memory result_tx => cases result_tx
  | parked side parks => cases parks
  | shutdown handle' tx c event => cases event
  | delivered_tcp handle' c remote local_ event => cases event
  | delivered_udp handle' u ip event => cases event

/-- Handling another event does not lose a Close, unless a Read is parked over it. -/
theorem not_loses_close {s : System S} {e : OperationEvent} {handle : SocketHandle}
    (sound : Sound s) (placed : s.stack.Placed) (guard : s.KeepsClose .event)
    (next : s.next_event = some e) (hne : e ≠ .close (.tcp handle))
    (he : .close (.tcp handle) ∈ s.pending) : ¬ s.stack.Loses e (.close (.tcp handle)) := by
  have refers : s.stack.Refers (.tcp handle) :=
    sound.owned.refers _ (mem_owners_of_pending he rfl)
  -- No other event that owns a socket is for this slot.
  have other : ∀ {e' : OperationEvent} {h : TypedSocketHandle}, e' ∈ s.pending →
      e'.owner = some h → h.handle.index = handle.index → e' = .close (.tcp handle) := by
    intro e' h he' howner hi
    have := (sound.owned.refers h (mem_owners_of_pending he' howner)).unique refers hi
    exact sound.owned.eq_of_pending he' he howner (by rw [this]; rfl)
  have pending := mem_pending_of_next next
  rintro (⟨side, parks, hw⟩ | ⟨h, side, rfl, hw⟩)
  · obtain ⟨hi, hside, -⟩ := placed _ _ _ hw
    have hi : e.index = handle.index := hi.symm
    obtain rfl : side = .recv := of_decide_eq_true hside
    cases e with
    | ready h => exact hne (other pending rfl hi)
    | read handle' buffer tx =>
      rw [KeepsClose, next] at guard
      have hany := guard parks
      rw [show s.stack.waker handle'.index .recv = _ from hw] at hany
      cases hany
    | recv handle' buffer tx =>
      -- The slot holds a TCP socket.
      obtain ⟨c, hc⟩ := tcp_of_kind refers.2
      have hu : s.stack.udp_at handle'.index = none := by
        rw [show handle'.index = handle.index from hi, udp_at, show s.stack.socket_at handle.index =
          some (.tcp c) from hc]
      simp [TcpStack.parks, hu] at parks
    | write handle' buffer tx => cases waits_of_parks parks
    | send handle' src buffer tx => cases waits_of_parks parks
    | shutdown h tx => cases waits_of_parks parks
    | close h => cases parks
  · exact hne (other pending rfl (placed _ _ _ hw).1.symm)

/-- A step that keeps the Close leaves it pending, or the socket is gone. -/
theorem Closing.step {s s' : System S} {a : Action} {handle : SocketHandle} (sound : Sound s)
    (placed : s.stack.Placed) (connected : s.stack.operation_event.connected = true)
    (guard : s.KeepsClose a) (h : s.step a = some s') (closing : Closing handle s) :
    Closing handle s' := by
  have ownership := ownership_of_effect (effect_of_steps (steps_of_step h))
  refine ⟨closing.old.trans_le (next_le_of_ownership ownership), fun live => ?_⟩
  have he := closing.pending (gen_of_ownership ownership closing.old live).1
  rcases mem_pending_step h guard.retains connected he rfl with he' | ⟨e, rfl, next, hl⟩
  · exact he'
  by_cases hne : e = .close (.tcp handle)
  · subst hne
    obtain ⟨events, stack, driving, ok, eq⟩ := handled_of_step h next
    have hp : s'.pending = stack.pending + ↑(s.batches.flatten ++ events) := by rw [eq]; rfl
    rw [hp]
    rw [eq] at live
    exact Multiset.mem_add.mpr (.inl (pending_of_closed (handle_outcome ok)
      (sound.contains_of_next next rfl).2 (by rw [live]; rfl)))
  · exact absurd (hl.resolve_left hne) (not_loses_close sound placed guard next hne he)

/-- After the Close of a TCP socket was handled, and as long as no Read is parked over a Close, the
Close is in the event channel, in a batch, or in the socket's receive waker, until the socket is
removed. -/
theorem close_kept {size : ℕ} {interface : S.Interface} {s t u : System S} {handle : SocketHandle}
    (run : Run step KeepsClose (new size interface) s)
    (next : s.next_event = some (.close (.tcp handle))) (handled : s.step .event = some t)
    (later : Run step KeepsClose t u)
    (live : u.stack.socket_set.gen handle.index = some handle.incarnation) :
    .close (.tcp handle) ∈ u.stack.operation_event.queue ∨ .close (.tcp handle) ∈ u.collected ∨
      u.stack.waker handle.index .recv = some (.close (.tcp handle)) := by
  have guard : s.KeepsClose .event := by rw [KeepsClose, next]; trivial
  -- The Close is pending until it is handled, and stays so from there on.
  have start : Closing handle s := by
    have pending := mem_pending_of_next next
    have refers := (sound_of_run run).owned.refers _ (mem_owners_of_pending pending rfl)
    exact ⟨Arena.gen_lt_next refers.1, fun _ => pending⟩
  have keeps : ∀ {v w : System S} {a : Action}, Run step KeepsClose (new size interface) v →
      v.KeepsClose a → v.step a = some w → Closing handle v → Closing handle w :=
    fun hv guard h closing => closing.step (sound_of_run hv) (placed_of_run hv)
      (connected_of_run (fun _ _ => KeepsClose.retains) hv) guard h
  have first : Run step KeepsClose (new size interface) t := .tail run guard handled
  have closing : Closing handle u := later.invariant (keeps run guard handled start)
    fun _ _ _ hr guard h closing => keeps (first.trans hr) guard h closing
  rcases Multiset.mem_add.mp (closing.pending live) with he | he
  · rcases Multiset.mem_add.mp he with he | he
    · exact .inl (Multiset.mem_coe.mp he)
    · obtain ⟨i, side, hw⟩ := exists_waker_of_mem_parked he
      obtain ⟨rfl, hside, -⟩ := placed_of_run (first.trans later) _ _ _ hw
      obtain rfl : side = .recv := of_decide_eq_true hside
      exact .inr (.inr hw)
  · exact .inr (.inl (Multiset.mem_coe.mp he))

open Reference in
/-- A connection whose stream is dropped while a Read waits: the actions up to the handling of its
Close. -/
def dropped_while_reading : List Action := [
  .start (some (syn 1 2)) 0 none, .finish, .start (some (ack 1 2 [])) 0 none, .finish,
  .generate, .start none 0 (some 0), .event, .finish, .accept_tcp,
  .call (.read ⟨⟨0, 0⟩, client_addr 1, server_addr 2⟩ ⟨[0, 0], 0⟩), .generate,
  .start none 0 (some 0), .event, .finish,
  .drop_future 0, .drop_tcp_stream ⟨⟨0, 0⟩, client_addr 1, server_addr 2⟩, .generate,
  .start none 0 (some 0)]

/-- The Read that waited is parked over the Close, which is then pending nowhere, while the socket
is still there. -/
theorem close_forgotten : ∃ s t u : System reference,
    execIf step (fun s a => s.Retains a) (new 64 ()) dropped_while_reading = some s ∧
    s.next_event = some (.close (.tcp ⟨0, 0⟩)) ∧ s.step .event = some t ∧
    execIf step (fun s a => s.Retains a) t
      [.finish, .generate, .start none 0 (some 0), .event, .finish] = some u ∧
    u.stack.socket_set.gen 0 = some 0 ∧ u.stack.operation_event.queue = [] ∧ u.collected = [] ∧
    u.stack.waker 0 .recv = some (.read ⟨0, 0⟩ 0 0) := by
  obtain ⟨s, hs, ht⟩ := exists_of_execIf_any step (new 64 () : System reference)
    (fun s a => s.Retains a) dropped_while_reading
    (fun s => s.next_event = some (.close (.tcp ⟨0, 0⟩)) ∧ (s.step .event).any fun t =>
      (execIf step (fun s a => s.Retains a) t
        [.finish, .generate, .start none 0 (some 0), .event, .finish]).any fun u =>
          u.stack.socket_set.gen 0 = some 0 ∧ u.stack.operation_event.queue = [] ∧
          u.collected = [] ∧ u.stack.waker 0 .recv = some (.read ⟨0, 0⟩ 0 0))
    (by decide +kernel)
  obtain ⟨next, ht⟩ := of_decide_eq_true ht
  obtain ⟨t, handled, hu⟩ := (Option.any_eq_true _ _).mp ht
  obtain ⟨u, later, hu⟩ := (Option.any_eq_true _ _).mp hu
  exact ⟨s, t, u, hs, next, handled, later, of_decide_eq_true hu⟩

open Reference in
/-- The stream is dropped while no Read waits: its Close waits in the receive waker. -/
theorem close_kept_dropped : ∃ s t : System reference,
    Run step KeepsClose (new 64 ()) s ∧ s.next_event = some (.close (.tcp ⟨0, 0⟩)) ∧
    s.step .event = some t ∧ (.close (.tcp ⟨0, 0⟩) ∈ t.stack.operation_event.queue ∨
      .close (.tcp ⟨0, 0⟩) ∈ t.collected ∨
      t.stack.waker 0 .recv = some (.close (.tcp ⟨0, 0⟩))) := by
  obtain ⟨s, hs, ht⟩ := exists_of_execIf_any step (new 64 () : System reference)
    (fun s a => s.KeepsClose a)
    [
      .start (some (syn 1 2)) 0 none, .finish, .start (some (ack 1 2 [])) 0 none, .finish,
      .generate, .start none 0 (some 0), .event, .finish, .accept_tcp,
      .drop_tcp_stream ⟨⟨0, 0⟩, client_addr 1, server_addr 2⟩, .generate,
      .start none 0 (some 0)]
    (fun s => s.next_event = some (.close (.tcp ⟨0, 0⟩)) ∧ (s.step .event).any fun t =>
      t.stack.socket_set.gen 0 = some 0)
    (by decide +kernel)
  obtain ⟨next, ht⟩ := of_decide_eq_true ht
  obtain ⟨t, handled, live⟩ := (Option.any_eq_true _ _).mp ht
  have run : Run step KeepsClose (new 64 ()) s := .of_execIf (fun _ _ h => of_decide_eq_true h) hs
  exact ⟨s, t, run, next, handled, close_kept run next handled .refl (of_decide_eq_true live)⟩

end System

end L3Extract
