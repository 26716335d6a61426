import L3Extract.System.Ownership

/-!
# Requests and the sockets they are for

A request names its socket by a slot. It can outlive the socket: its future is dropped while it
waits in a waker, in the channel, or in a batch, the stream is dropped after it, and the Close of
the stream is handled first. The check `socket_handles.contains` then refuses it, unless a packet
has opened another socket of the same kind in the slot. In that case the request is carried out on
that socket (`cross_talk`).

`no_cross_talk` says that this is the only way: in a run in which no socket is opened in a slot
while a request of its kind for that slot is pending, every request leaves all sockets but its own
alone.
-/

namespace L3Extract

open OperationEvent Transition TcpStack

variable {S : Smoltcp}

/-- The kind of socket that the packet path of `drive_once` adds for a packet, if it adds one. -/
def TcpStack.opening (t : TcpStack S) (packet : Option Packet) : Option Protocol :=
  match packet.map parse_packet with
  | some (.ok (some (.tcp _ dst))) =>
    match S.tcp.listen (S.tcp.new t.tcp_socket_buf_size) (.from dst) with
    | .ok _ => some .tcp
    | .error _ => none
  | some (.ok (some (.udp _ dst))) =>
    if dst ∈ t.accepted_udp_sockets then none
    else match S.udp.bind (S.udp.new socket_buf_size) (.from dst) with
      | .ok _ => some .udp
      | .error _ => none
  | _ => none

/-- `opening` is what `drive_once` does. -/
theorem TcpStack.Opens.opening {t : TcpStack S} {packet : Packet} {h : TypedSocketHandle}
    {s : S.Socket} {accepted : Finset SocketAddr} (opens : t.Opens packet h s accepted) :
    t.opening (some packet) = some h.protocol := by
  cases opens with
  | tcp parsed listens => simp [TcpStack.opening, parsed, listens, TypedSocketHandle.protocol]
  | udp parsed fresh binds =>
    simp [TcpStack.opening, parsed, fresh, binds, TypedSocketHandle.protocol]

namespace System

/-- The action adds no socket in a slot that a pending Read, Write, Recv, or Send of the same kind
is for. -/
def NoReuse (s : System S) : Action → Prop
  | .start packet _ _ => ∀ e ∈ s.pending, e.deferred.isSome = true →
      s.stack.opening packet = some e.handle.protocol → e.index ≠ s.stack.socket_set.free
  | _ => True

instance (s : System S) (a : Action) : Decidable (s.NoReuse a) := by
  cases a <;> unfold NoReuse <;> infer_instance

/-- A pending Read, Write, Recv, or Send whose handle is in the table is for the socket that is in
its slot. -/
def Meets (s : System S) : Prop := ∀ e ∈ s.pending, e.deferred.isSome = true →
  s.stack.contains e.handle = true →
    s.stack.socket_set.gen e.index = some e.handle.handle.incarnation

/-- A step that reuses no slot leaves every request with its own socket or none. -/
theorem meets_step {s s' : System S} {a : Action} (sound : Sound s) (meets : Meets s)
    (guard : s.NoReuse a) (effect : Effect s a s') : Meets s' := by
  -- The tables change in none of these cases.
  have same_case : SameTables s.stack s'.stack →
      (∀ e ∈ s'.pending, e.deferred.isSome = true → e ∈ s.pending ∨
        s.stack.socket_set.gen e.index = some e.handle.handle.incarnation) → Meets s' := by
    intro same hp e he hd hc
    rw [same.gen]
    rcases hp e he hd with he | hg
    · refine meets e he hd ?_
      rwa [contains, ← same.socket_handles]
    · exact hg
  cases effect with
  | kept same pending infos streams delivered =>
    exact same_case same fun e he _ => .inl (Multiset.mem_of_le pending he)
  | delivered h next same pending infos streams delivered =>
    exact same_case same fun e he _ =>
      .inl (Multiset.mem_of_le pending (Multiset.mem_add.mpr (.inr he)))
  | accepted h same pending infos streams delivered =>
    exact same_case same fun e he _ => .inl (by rwa [pending] at he)
  | requested c action held same pending infos streams delivered =>
    refine same_case same fun e he _ => ?_
    rcases Multiset.mem_add.mp (Multiset.mem_of_le pending he) with he | he
    · -- The user holds the stream, so its handle refers to the socket.
      have refers := sound.owned.refers _ (mem_owners_of_streams held)
      rw [Multiset.mem_singleton.mp he, index, c.event_handle]
      exact .inr refers.1
    · exact .inl he
  | dropped h same pending infos streams delivered =>
    refine same_case same fun e he hd => ?_
    rcases Multiset.mem_add.mp (Multiset.mem_of_le pending he) with he | he
    · rw [Multiset.mem_singleton.mp he] at hd
      cases hd
    · exact .inl he
  | admitted packet now batch h socket accepted action opens admits pending infos streams
      delivered =>
    intro e he hd hc
    have hold : e ∈ s.pending := by
      rcases Multiset.mem_add.mp (Multiset.mem_of_le pending he) with he | he
      · rw [Multiset.mem_singleton.mp he] at hd
        cases hd
      · exact he
    have hindex : h.handle.index = s.stack.socket_set.free := by
      rw [admits.handle]
      rfl
    rw [action] at guard
    have hne : e.handle.key ≠ h.key := by
      intro hk
      obtain ⟨hp, hi⟩ := Prod.ext_iff.mp hk
      refine guard e hold hd ?_ (hi.trans hindex)
      rw [opens.opening]
      exact congrArg some hp.symm
    have hc' : s.stack.contains e.handle = true := by
      have hm := of_decide_eq_true hc
      rw [admits.socket_handles, Finset.mem_insert] at hm
      exact decide_eq_true (hm.resolve_left hne)
    have hg := meets e hold hd hc'
    have hi : e.index ≠ h.handle.index := by
      intro hi
      rw [hi, admits.gen_free] at hg
      cases hg
    rw [admits.gen, if_neg hi]
    exact hg
  | removed h next removes pending infos streams delivered =>
    intro e he hd hc
    have hold : e ∈ s.pending := Multiset.mem_of_le pending (Multiset.mem_add.mpr (.inr he))
    have hm := of_decide_eq_true hc
    rw [removes.socket_handles, Finset.mem_erase] at hm
    have hi : e.index ≠ h.handle.index := by
      intro hi
      -- The slot holds a socket of one kind only, so the keys would be the same.
      have hk := (sound.tables _ _).mp hm.2
      rw [show e.handle.handle.index = h.handle.index from hi, removes.was] at hk
      exact hm.1 (Prod.ext (Option.some.inj hk).symm hi)
    rw [removes.gen, if_neg hi]
    exact meets e hold hd (decide_eq_true hm.2)

/-- In every run that reuses no slot a request meets its own socket or none. -/
theorem meets_of_run {size : ℕ} {interface : S.Interface} {s : System S}
    (run : Run step NoReuse (new size interface) s) : Meets s := by
  refine run.invariant (I := Meets) ?_ fun t a u hr guard h meets =>
    meets_step (sound_of_run hr) meets guard (effect_of_steps (steps_of_step h))
  intro e he
  have hp : (new size interface).pending = 0 := rfl
  rw [hp] at he
  exact absurd he (Multiset.notMem_zero e)

/-- A request whose handle is not in the table changes no socket. -/
theorem val_of_not_contains {t t' : TcpStack S} {e : OperationEvent}
    (outcome : Outcome t e t') (deferred : e.deferred.isSome = true)
    (gone : t.contains e.handle = false) : t'.socket_set = t.socket_set := by
  cases outcome with
  | answered tx a result_tx refuses eq =>
    rw [eq]
    rfl
  | served tx a s s' memory result_tx found socket serves eq =>
    rw [gone] at found
    cases found
  | parked side parks eq =>
    cases parks with
    | ready socket may_recv => cases deferred
    | read found => cases found.symm.trans gone
    | write found => cases found.symm.trans gone
    | recv found => cases found.symm.trans gone
    | send found => cases found.symm.trans gone
  | shutdown handle tx c event => subst event; cases deferred
  | closing handle c event => subst event; cases deferred
  | removed h s s' accepted u event => subst event; cases deferred
  | delivered_tcp handle c remote local_ event => subst event; cases deferred
  | delivered_udp handle u ip event => subst event; cases deferred
  | ignored h event => subst event; cases deferred

/-- In a run in which no socket is added in a slot that a pending request of its kind is for, the
handling of a Read, Write, Recv, or Send leaves every socket, with its data and its wakers, as it
is, but for the one that the request's handle was made for. -/
theorem no_cross_talk {size : ℕ} {interface : S.Interface} {s s' : System S} {e : OperationEvent}
    (run : Run step NoReuse (new size interface) s) (next : s.next_event = some e)
    (request : e.deferred.isSome = true) (handled : s.step .event = some s') (i g : ℕ)
    (socket : s.stack.socket_set.gen i = some g) (other : g ≠ e.handle.handle.incarnation) :
    s'.stack.socket_set.val i = s.stack.socket_set.val i := by
  have meets := meets_of_run run
  obtain ⟨events, stack, driving, ok, eq⟩ := handled_of_step handled next
  have outcome : Outcome s.stack e s'.stack := by
    rw [eq]
    exact handle_outcome ok
  by_cases hi : i = e.index
  · subst hi
    cases hc : s.stack.contains e.handle with
    | false => rw [val_of_not_contains outcome request hc]
    | true =>
      have hg := meets e (mem_pending_of_next next) request hc
      rw [socket] at hg
      exact absurd (Option.some.inj hg) other
  · exact outcome.val_of_ne hi

open Reference in
/-- The run of `cross_talk`: a Recv waits at slot 0 and outlives its future and its socket. The
Close puts it back into the channel, and a packet opens a socket in slot 0 again before it is
handled. -/
def stale_recv : List Action := [
  .start (some (udp_packet 1 2 [7])) 0 none, .finish, .generate, .start none 0 (some 0), .event,
  .finish, .accept_udp,
  .call (.recv ⟨⟨0, 0⟩, server_addr 2⟩ ⟨[0, 0], 0⟩), .generate, .start none 0 (some 0), .event,
  .finish, .return_ 0,
  .call (.recv ⟨⟨0, 0⟩, server_addr 2⟩ ⟨[0, 0], 0⟩), .generate, .start none 0 (some 0), .event,
  .finish, .drop_future 1, .drop_udp_socket ⟨⟨0, 0⟩, server_addr 2⟩, .generate,
  .start none 0 (some 0), .event, .finish, .generate,
  .start (some (udp_packet 3 4 [8])) 0 (some 0)]

/-- The number of datagrams in the receive queue of the UDP socket in a slot. -/
def datagrams (s : System reference) (i : ℕ) : Option ℕ :=
  (s.stack.udp_at i).map fun u => u.rx.length

open Reference in
/-- A request takes a datagram out of another socket than the one it was issued for. -/
theorem cross_talk : ∃ s s' : System reference,
    exec step (new 64 ()) stale_recv = some s ∧ s.next_event = some (.recv ⟨0, 0⟩ 1 1) ∧
    s.stack.socket_set.gen 0 = some 1 ∧ s.step .event = some s' ∧
    s'.stack.socket_set.gen 0 = some 1 ∧ s.datagrams 0 = some 1 ∧ s'.datagrams 0 = some 0 ∧
    s'.stack.answers.getLast? = some (1, .ok (.datagram 1 (client_addr 3))) := by
  obtain ⟨s, hs, ht⟩ := exists_of_exec_any step (new 64 () : System reference)
    stale_recv (fun s => (s.step .event).any fun s' =>
      s.next_event = some (.recv ⟨0, 0⟩ 1 1) ∧ s.stack.socket_set.gen 0 = some 1 ∧
      s'.stack.socket_set.gen 0 = some 1 ∧ s.datagrams 0 = some 1 ∧ s'.datagrams 0 = some 0 ∧
      s'.stack.answers.getLast? = some (1, .ok (.datagram 1 (client_addr 3))))
    (by decide +kernel)
  obtain ⟨s', hs', ht⟩ := (Option.any_eq_true _ _).mp ht
  obtain ⟨next, gen, gen', before, after, answer⟩ := of_decide_eq_true ht
  exact ⟨s, s', hs, next, gen, hs', gen', before, after, answer⟩

open Reference in
/-- Two UDP sockets are open, and no slot is used again: the Recv at slot 0 leaves slot 1 alone. -/
theorem no_cross_talk_two_sockets : ∃ s s' : System reference,
    Run step NoReuse (new 64 ()) s ∧ s.next_event = some (.recv ⟨0, 0⟩ 0 0) ∧
    s.step .event = some s' ∧ s'.stack.socket_set.val 1 = s.stack.socket_set.val 1 := by
  obtain ⟨s, hs, ht⟩ := exists_of_execIf_any step (new 64 () : System reference)
    (fun s a => s.NoReuse a)
    [
      .start (some (udp_packet 1 2 [7])) 0 none, .finish, .start (some (udp_packet 1 3 [7])) 0 none,
      .finish, .generate, .start none 0 (some 0), .event, .event, .finish, .accept_udp,
      .call (.recv ⟨⟨0, 0⟩, server_addr 2⟩ ⟨[0, 0], 0⟩), .generate, .start none 0 (some 0)]
    (fun s => (s.step .event).isSome ∧ s.next_event = some (.recv ⟨0, 0⟩ 0 0) ∧
      s.stack.socket_set.gen 1 = some 1)
    (by decide +kernel)
  obtain ⟨some_step, next, gen⟩ := of_decide_eq_true ht
  obtain ⟨s', hs'⟩ := Option.isSome_iff_exists.mp some_step
  have run : Run step NoReuse (new 64 ()) s := .of_execIf (fun _ _ h => of_decide_eq_true h) hs
  exact ⟨s, s', run, next, hs', no_cross_talk run next rfl hs' 1 1 gen (by decide)⟩

end System

end L3Extract
