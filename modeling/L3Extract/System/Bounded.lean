import L3Extract.System.Answers
import L3Extract.System.Shutdown

/-!
# The channels are bounded after all

The event channel and those of the acceptors are unbounded. What can be in them is not: every Ready,
every Close, and every entry for an acceptor is the one owner of a socket, and every other event is
a request of a user that was not answered yet. `pending_bounded` counts them against the sockets and
the requests.
-/

namespace L3Extract

open OperationEvent Transition TcpStack

variable {S : Smoltcp}

/-- One more element counts if it is mapped to something. -/
theorem card_filterMap_cons {α β : Type} (f : α → Option β) (a : α) (l : Multiset α) :
    ((a ::ₘ l).filterMap f).card = (f a).toList.length + (l.filterMap f).card := by
  cases h : f a with
  | none => rw [Multiset.filterMap_cons_none _ _ h]; simp
  | some b =>
    rw [Multiset.filterMap_cons_some _ _ _ h, Multiset.card_cons]
    exact add_comm _ _

/-- Every event is an owner or a request. -/
theorem OperationEvent.card_owner_add_card_request (events : Multiset OperationEvent) :
    (events.filterMap owner).card + (events.filterMap result_tx).card = events.card := by
  induction events using Multiset.induction with
  | empty => rfl
  | cons e events ih =>
    have one : e.owner.toList.length + e.result_tx.toList.length = 1 := by cases e <;> rfl
    rw [card_filterMap_cons, card_filterMap_cons, Multiset.card_cons]
    omega

namespace System

/-- There are no more owners than sockets. -/
theorem Sound.card_owners {s : System S} (sound : Sound s) :
    s.owners.card ≤ s.stack.socket_handles.card := by
  have keys : (s.owners.map TypedSocketHandle.key).Nodup := by
    refine sound.owned.nodup.map_on fun h hh h' hh' same => ?_
    have index : h.handle.index = h'.handle.index := congrArg Prod.snd same
    exact (sound.owned.refers h hh).unique (sound.owned.refers h' hh') index
  have mem : (s.owners.map TypedSocketHandle.key).toFinset ⊆ s.stack.socket_handles := by
    intro key hkey
    obtain ⟨h, hh, rfl⟩ := Multiset.mem_map.mp (Multiset.mem_toFinset.mp hkey)
    exact (sound.owned.refers h hh).mem sound.tables
  calc s.owners.card = (s.owners.map TypedSocketHandle.key).card := (Multiset.card_map _ _).symm
    _ = (s.owners.map TypedSocketHandle.key).toFinset.card :=
      (Multiset.toFinset_card_of_nodup keys).symm
    _ ≤ s.stack.socket_handles.card := Finset.card_le_card mem

/-- There are no more requests, pending or answered, than were issued. -/
theorem Tracked.card_requests {s : System S} {r : Record} (tracked : Tracked s r) :
    s.requests.card ≤ s.issued.length := by
  have below : s.requests.toFinset ⊆ Finset.range s.issued.length := by
    intro id hid
    rw [← tracked.length]
    exact Finset.mem_range.mpr (tracked.below id (Multiset.mem_toFinset.mp hid))
  calc s.requests.card = s.requests.toFinset.card :=
      (Multiset.toFinset_card_of_nodup tracked.once).symm
    _ ≤ (Finset.range s.issued.length).card := Finset.card_le_card below
    _ = s.issued.length := Finset.card_range _

/-- In every state that is reached, the events that were sent and not handled, in the channel, in
wakers, and in batches, together with what waits for the acceptors and what the users hold, are no
more than there are sockets and requests without an answer. -/
theorem pending_bounded (spec : S.Spec) {size : ℕ} {interface : S.Interface} {s : System S}
    (run : Reachable step (new size interface) s) :
    s.stack.answers.length ≤ s.issued.length ∧
    s.pending.card + s.infos.length + s.streams.length ≤
      s.stack.socket_handles.card + (s.issued.length - s.stack.answers.length) := by
  obtain ⟨r, recorded⟩ := run.exists_recording Record.note Record.empty
  have owners := (sound_of_run run).card_owners
  have requests := (faithful_of_run spec recorded).tracked.card_requests
  have pending := card_owner_add_card_request s.pending
  rw [System.owners, Multiset.card_add, Multiset.card_add, Multiset.coe_card, Multiset.coe_card]
    at owners
  rw [requests_eq, Multiset.card_add, Multiset.coe_card, List.length_map] at requests
  omega

open Reference in
/-- A Read waits on the stream of the only connection: there are as many as there can be. -/
theorem pending_bounded_read : ∃ s : System reference,
    exec step (new 64 ()) (accepted_connection ++
      [.call (.read ⟨⟨0, 0⟩, client_addr 1, server_addr 2⟩ ⟨[0, 0], 0⟩)]) = some s ∧
    s.pending.card + s.infos.length + s.streams.length = 2 ∧
    s.pending.card + s.infos.length + s.streams.length ≤ s.stack.socket_handles.card + (1 - 0) ∧
    s.stack.socket_handles.card = 1 := by
  obtain ⟨s, run, test⟩ := exists_of_exec_any step (new 64 () : System reference)
    (accepted_connection ++ [.call (.read ⟨⟨0, 0⟩, client_addr 1, server_addr 2⟩ ⟨[0, 0], 0⟩)])
    (fun s => s.pending.card + s.infos.length + s.streams.length = 2 ∧
      s.stack.socket_handles.card = 1 ∧ s.issued.length = 1 ∧ s.stack.answers.length = 0)
    (by decide +kernel)
  obtain ⟨count, sockets, issued, answers⟩ := of_decide_eq_true test
  have bound := (pending_bounded reference_spec (Run.of_exec run)).2
  rw [issued, answers] at bound
  exact ⟨s, run, count, bound, sockets⟩

end System

end L3Extract
