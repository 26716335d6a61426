import L3Extract.Lib.Transition
import L3Extract.Stack.Arrival
import L3Extract.Stack.Batch
import L3Extract.Stack.Outcome
import L3Extract.Smoltcp.Reference

/-!
# The handle table and the socket set

`socket_handles` and `socket_set` are two tables that are updated in separate statements. `Tables`
says that they agree: a handle is in the one exactly when its slot of the other holds a socket of
its kind. Every step of the stack keeps this, whatever packets and events it is given, so that a
handler whose `contains` check passed finds a socket of the right kind.

The steps of this module are whole calls of `drive_once` with arbitrary packets and batches. Between
them, the other parties may do anything to the channels and the buffers (`Move.outside`).
-/

namespace L3Extract

open OperationEvent Transition

variable {S : Smoltcp}

namespace TcpStack

/-- The handle table agrees with the slots. -/
def Tables (t : TcpStack S) : Prop := ∀ p i, (p, i) ∈ t.socket_handles ↔ t.kind_at i = some p

/-- `t'` has lost the socket with the handle `h`. -/
structure Removes (t : TcpStack S) (h : TypedSocketHandle) (t' : TcpStack S) : Prop where
  gen : ∀ i, t'.socket_set.gen i = if i = h.handle.index then none else t.socket_set.gen i
  next : t'.socket_set.next = t.socket_set.next
  kind : ∀ i, t'.kind_at i = if i = h.handle.index then none else t.kind_at i
  was : t.kind_at h.handle.index = some h.protocol
  socket_handles : t'.socket_handles = t.socket_handles.erase h.key
  connected : t'.operation_event.connected = t.operation_event.connected
  tcp_stream : t'.tcp_stream = t.tcp_stream
  udp_stream : t'.udp_stream = t.udp_stream

/-- `t'` has one socket more than `t`, with the handle `h`. -/
structure Admits (t : TcpStack S) (h : TypedSocketHandle) (t' : TcpStack S) : Prop where
  handle : h.handle = t.next_handle
  gen : ∀ i, t'.socket_set.gen i =
    if i = h.handle.index then some h.handle.incarnation else t.socket_set.gen i
  next : t'.socket_set.next = t.socket_set.next + 1
  kind : ∀ i, t'.kind_at i = if i = h.handle.index then some h.protocol else t.kind_at i
  socket_handles : t'.socket_handles = insert h.key t.socket_handles

/-- A socket that was added is admitted, whatever is woken then. -/
theorem Adds.admits {t u : TcpStack S} {h : TypedSocketHandle} {s : S.Socket}
    {new : Multiset OperationEvent} {accepted : Finset SocketAddr}
    (adds : Adds t h s new accepted u) {t' : TcpStack S} (same : SameTables u t') :
    Admits t h t' where
  handle := adds.handle
  gen i := by rw [same.gen, adds.gen]
  next := by rw [same.next, adds.next]
  kind i := by rw [same.kind, adds.kind]
  socket_handles := by rw [same.socket_handles, adds.socket_handles]

/-- A slot that is removed holds no socket. -/
theorem socket_at_remove (t : TcpStack S) (i j : ℕ) :
    ({ t with socket_set := t.socket_set.remove i } : TcpStack S).socket_at j =
      if j = i then none else t.socket_at j := by
  simp only [socket_at, Arena.val_remove]
  split_ifs <;> rfl

/-- The socket that a Close finds is of the kind of the handle, also when it is closed. -/
theorem Closes.protocol {t : TcpStack S} {h : TypedSocketHandle} {s s' : S.Socket}
    {accepted : Finset SocketAddr} (closes : t.Closes h s s' accepted) :
    s.protocol = h.protocol ∧ s'.protocol = h.protocol := by
  cases closes <;> exact ⟨rfl, rfl⟩

/-- A request is served by a socket of the same kind as before. -/
theorem Serves.protocol {t : TcpStack S} {e : OperationEvent} {s s' : S.Socket}
    {memory : BufferId → IoBuf} {a : Answer} (serves : t.Serves e s s' memory a) :
    s'.protocol = s.protocol := by
  cases serves <;> rfl

/-- Handling an event closes and removes the socket of a Close, or keeps the tables. -/
theorem Outcome.tables_closes {t t' : TcpStack S} {e : OperationEvent} (outcome : Outcome t e t') :
    SameTables t t' ∨ ∃ h s s', e = .close h ∧ t.socket_at h.handle.index = some s ∧
      t.Closes h s s' t'.accepted_udp_sockets ∧ Removes t h t' := by
  cases outcome with
  | answered tx a result_tx refuses eq =>
    subst eq
    exact .inl (same_answer t tx a)
  | served tx a s s' memory result_tx found socket serves eq =>
    subst eq
    have hk : t.kind_at e.index = some s'.protocol := by
      rw [serves.protocol, kind_at, socket]
      rfl
    have same := same_put s' hk
    exact .inl ⟨same.gen, same.next, same.kind, rfl, rfl⟩
  | parked side parks eq =>
    subst eq
    exact .inl (same_register t _ side e)
  | shutdown handle tx c event found socket eq =>
    subst eq
    have hk : (t.register handle.index .send e).kind_at handle.index = some .tcp :=
      kind_of_tcp (c := c) (by rw [socket_at_register, socket])
    exact .inl ((same_register t _ _ _).trans
      ((same_put (.tcp (S.tcp.close c)) hk).trans (wakes_close_tcp _ _ c).same))
  | closing handle c event found socket active eq =>
    subst eq
    have same := same_put (.tcp (S.tcp.close c)) (kind_of_tcp socket)
    exact .inl ((same.trans (wakes_close_tcp _ _ c).same).trans (same_register _ _ _ _))
  | removed h s s' accepted u event found socket closes wakes others woken eq =>
    -- The handle names the protocol of the socket in its slot.
    subst eq
    have was : t.kind_at h.handle.index = some h.protocol := by
      rw [kind_at, socket, ← closes.protocol.1]
      rfl
    have same := (same_put s' (was.trans (congrArg some closes.protocol.2.symm))).trans wakes.same
    refine .inr ⟨h, s, s', event, socket, closes, ?_⟩
    exact {
      gen := fun i => by rw [← same.gen]; exact Arena.gen_remove _ _ _
      next := same.next
      kind := fun i => by
        rw [← same.kind, kind_at, kind_at]
        have := socket_at_remove u h.handle.index i
        simp only [socket_at] at this ⊢
        rw [this]
        split_ifs <;> rfl
      was := was
      socket_handles := by rw [← same.socket_handles]
      connected := wakes.connected
      tcp_stream := wakes.tcp_stream
      udp_stream := wakes.udp_stream }
  | delivered_tcp handle c remote local_ event socket may_recv remote_eq local_eq eq =>
    subst eq
    exact .inl ⟨rfl, rfl, rfl, rfl, rfl⟩
  | delivered_udp handle u ip event socket bound eq =>
    subst eq
    exact .inl ⟨rfl, rfl, rfl, rfl, rfl⟩
  | ignored h event gone eq =>
    subst eq
    exact .inl (.refl _)

/-- Handling an event removes the socket of a Close, or keeps the tables. -/
theorem Outcome.tables {t t' : TcpStack S} {e : OperationEvent} (outcome : Outcome t e t') :
    SameTables t t' ∨ ∃ h, e = .close h ∧ Removes t h t' :=
  outcome.tables_closes.imp_right fun ⟨h, _, _, event, _, _, removes⟩ => ⟨h, event, removes⟩

/-! ## Each step keeps the tables in agreement -/

/-- The tables of a new stack agree. -/
theorem tables_new (size : ℕ) (interface : S.Interface) : (new size interface).Tables := by
  intro p i
  simp [new, kind_at, socket_at]

/-- Tables that stay the same agree on. -/
theorem SameTables.keeps {t t' : TcpStack S} (same : SameTables t t') (tables : t.Tables) :
    t'.Tables := by
  intro p i
  rw [same.socket_handles, same.kind]
  exact tables p i

/-- The tables are about the sockets and the handle table only. -/
theorem Tables.of_same {t t' : TcpStack S} (set : t'.socket_set = t.socket_set)
    (handles : t'.socket_handles = t.socket_handles) (tables : t.Tables) : t'.Tables := by
  intro p i
  rw [handles, tables, kind_at, kind_at, TcpStack.socket_at, TcpStack.socket_at, set]

/-- The key of a handle is its protocol and its slot. -/
theorem key_eq_iff (h : TypedSocketHandle) (p : Protocol) (i : ℕ) :
    (p, i) = h.key ↔ p = h.protocol ∧ i = h.handle.index := Prod.ext_iff

/-- The tables agree when a socket was removed. -/
theorem Removes.keeps {t t' : TcpStack S} {h : TypedSocketHandle} (removes : Removes t h t')
    (tables : t.Tables) : t'.Tables := by
  intro p i
  rw [removes.socket_handles, removes.kind, Finset.mem_erase, Ne, key_eq_iff, tables p i]
  split_ifs with hi
  · subst hi
    rw [removes.was, Option.some.injEq]
    simp only [and_true, iff_false, not_and]
    tauto
  · simp [hi]

/-- The slot of an added socket was free. -/
theorem Admits.gen_free {t t' : TcpStack S} {h : TypedSocketHandle} (admits : Admits t h t') :
    t.socket_set.gen h.handle.index = none := by
  rw [admits.handle]
  exact t.socket_set.gen_free

/-- A new socket is in a slot that held none. -/
theorem Admits.kind_free {t t' : TcpStack S} {h : TypedSocketHandle} (admits : Admits t h t') :
    t.kind_at h.handle.index = none := by
  have hn := t.gen_isSome h.handle.index
  rw [admits.gen_free] at hn
  simpa [kind_at] using hn

/-- The tables agree when a socket was added. -/
theorem Admits.keeps {t t' : TcpStack S} {h : TypedSocketHandle} (admits : Admits t h t')
    (tables : t.Tables) : t'.Tables := by
  intro p i
  rw [admits.socket_handles, admits.kind, Finset.mem_insert, key_eq_iff, tables p i]
  split_ifs with hi
  · subst hi
    rw [admits.kind_free]
    simp [eq_comm]
  · simp [hi]

/-- The tables agree when an event was handled. -/
theorem tables_handle {t t' : TcpStack S} {e : OperationEvent} (tables : t.Tables)
    (ok : t.handle e = .ok t') : t'.Tables := by
  rcases (handle_outcome ok).tables with same | ⟨h, -, removes⟩
  · exact same.keeps tables
  · exact removes.keeps tables

/-- The tables agree when a call has begun. -/
theorem tables_begin {t t' : TcpStack S} {packet : Option Packet} {now : ℕ}
    {res : Except DriveError Unit} (tables : t.Tables)
    (ok : t.begin_drive packet now = .ok (t', res)) : t'.Tables := by
  cases begin_drive_cases ok with
  | failed => exact tables
  | unready arrived opens adds => exact (adds.admits (.refl _)).keeps tables
  | polled quiet => exact (same_poll (t.push packet) now).keeps tables
  | opened arrived opens adds =>
    exact (adds.admits ((same_push _ _).trans (same_poll _ now))).keeps tables

/-- What every handler keeps, a list of events keeps. -/
theorem in_order_keeps {I : TcpStack S → Prop}
    (handles : ∀ u e u', I u → u.handle e = .ok u' → I u') {t t' : TcpStack S}
    {events : List OperationEvent} (start : I t)
    (ok : t.handle_in_order events = .ok t') : I t' := by
  induction events generalizing t with
  | nil => cases ok; exact start
  | cons e events ih =>
    obtain ⟨u, hu, ok⟩ := except_bind_eq_ok.mp ok
    exact ih (handles t e u start hu) ok

/-- The tables agree when a list of events was handled. -/
theorem tables_in_order {t t' : TcpStack S} {events : List OperationEvent} (tables : t.Tables)
    (ok : t.handle_in_order events = .ok t') : t'.Tables :=
  in_order_keeps (fun _ _ _ tables ok => tables_handle tables ok) tables ok

/-- What `drive_once` does, when it returns: it begins, and unless that failed it handles its events
in the order of its passes. -/
theorem drive_once_eq_ok {t t' : TcpStack S} {packet : Option Packet} {now : ℕ}
    {events : Option (List OperationEvent)} {res : Except DriveError (List Packet × Option ℕ)}
    (ok : t.drive_once packet now events = .ok (t', res)) :
    (∃ err, t.begin_drive packet now = .ok (t', .error err) ∧ res = .error err) ∨
    ∃ u v, t.begin_drive packet now = .ok (u, .ok ()) ∧
      u.handle_in_order (passes (events.getD [])) = .ok v ∧ t' = v.pop_all_send_packets ∧
      res = .ok (v.virtual_iface.tx_queue, S.poll_delay v.interface now v.sockets) := by
  obtain ⟨⟨u, _ | ⟨⟩⟩, hb, ok⟩ := except_bind_eq_ok.mp ok
  · cases ok
    exact .inl ⟨_, hb, rfl⟩
  · cases events with
    | none =>
      cases ok
      exact .inr ⟨u, u, hb, rfl, rfl, rfl⟩
    | some events =>
      obtain ⟨v, hv, ok⟩ := except_bind_eq_ok.mp ok
      cases ok
      exact .inr ⟨u, v, hb, by rw [← hv]; exact (handle_events_eq u events).symm, rfl, rfl⟩

/-! ## Handlers after their check -/

/-- A TCP handle in the table leads to a TCP socket. -/
theorem exists_get_tcp {t : TcpStack S} {handle : SocketHandle} (tables : t.Tables)
    (found : t.contains (.tcp handle) = true) :
    ∃ c, t.get_tcp handle = .ok c ∧ t.socket_at handle.index = some (.tcp c) := by
  obtain ⟨c, hc⟩ := tcp_of_kind ((tables _ _).mp (of_decide_eq_true found))
  exact ⟨c, get_tcp_eq_ok.mpr hc, hc⟩

/-- A UDP handle in the table leads to a UDP socket. -/
theorem exists_get_udp {t : TcpStack S} {handle : SocketHandle} (tables : t.Tables)
    (found : t.contains (.udp handle) = true) :
    ∃ u, t.get_udp handle = .ok u ∧ t.socket_at handle.index = some (.udp u) := by
  obtain ⟨u, hu⟩ := udp_of_kind ((tables _ _).mp (of_decide_eq_true found))
  exact ⟨u, get_udp_eq_ok.mpr hu, hu⟩

/-- Removing a socket that is there succeeds. -/
theorem remove_tcp_socket_ok {t : TcpStack S} {handle : SocketHandle}
    (h : (t.socket_at handle.index).isSome) : ∃ t', t.remove_tcp_socket handle = .ok t' := by
  obtain ⟨s, hs⟩ := Option.isSome_iff_exists.mp h
  exact ⟨_, by simp only [remove_tcp_socket, remove, hs]; rfl⟩

/-- Removing a socket that is there succeeds. -/
theorem remove_udp_socket_ok {t : TcpStack S} {handle : SocketHandle} (dst : SocketAddr)
    (h : (t.socket_at handle.index).isSome) : ∃ t', t.remove_udp_socket handle dst = .ok t' := by
  obtain ⟨s, hs⟩ := Option.isSome_iff_exists.mp h
  exact ⟨_, by simp only [remove_udp_socket, remove, hs]; rfl⟩

/-- A Read or Write does not panic. -/
theorem handle_tcp_wake_event_ok {t : TcpStack S} {e : OperationEvent} (tables : t.Tables)
    (deferred : e.deferred = some .tcp) : ∃ t', t.handle_tcp_wake_event e = .ok t' := by
  cases e with
  | read handle buffer tx =>
    simp only [handle_tcp_wake_event]
    by_cases hc : t.contains (.tcp handle) = true
    · obtain ⟨c, hget, -⟩ := exists_get_tcp tables hc
      simp only [hc, hget, Bool.not_true, Bool.false_eq_true, if_false, bind, Except.bind]
      split_ifs
      · exact ⟨_, rfl⟩
      · exact ⟨_, rfl⟩
      · split <;> exact ⟨_, rfl⟩
    · simp only [hc, Bool.not_false, if_true]
      exact ⟨_, rfl⟩
  | write handle buffer tx =>
    simp only [handle_tcp_wake_event]
    by_cases hc : t.contains (.tcp handle) = true
    · obtain ⟨c, hget, -⟩ := exists_get_tcp tables hc
      simp only [hc, hget, Bool.not_true, Bool.false_eq_true, if_false, bind, Except.bind]
      split_ifs
      · exact ⟨_, rfl⟩
      · exact ⟨_, rfl⟩
      · split <;> exact ⟨_, rfl⟩
    · simp only [hc, Bool.not_false, if_true]
      exact ⟨_, rfl⟩
  | _ => simp [OperationEvent.deferred] at deferred

/-- A Recv or Send does not panic. -/
theorem handle_udp_wake_event_ok {t : TcpStack S} {e : OperationEvent} (tables : t.Tables)
    (deferred : e.deferred = some .udp) : ∃ t', t.handle_udp_wake_event e = .ok t' := by
  cases e with
  | recv handle buffer tx =>
    simp only [handle_udp_wake_event]
    by_cases hc : t.contains (.udp handle) = true
    · obtain ⟨u, hget, -⟩ := exists_get_udp tables hc
      simp only [hc, hget, Bool.not_true, Bool.false_eq_true, if_false, bind, Except.bind]
      split_ifs
      · exact ⟨_, rfl⟩
      · split <;> exact ⟨_, rfl⟩
    · simp only [hc, Bool.not_false, if_true]
      exact ⟨_, rfl⟩
  | send handle src buffer tx =>
    simp only [handle_udp_wake_event]
    by_cases hc : t.contains (.udp handle) = true
    · obtain ⟨u, hget, -⟩ := exists_get_udp tables hc
      simp only [hc, hget, Bool.not_true, Bool.false_eq_true, if_false, bind, Except.bind]
      split_ifs
      · exact ⟨_, rfl⟩
      · split <;> exact ⟨_, rfl⟩
    · simp only [hc, Bool.not_false, if_true]
      exact ⟨_, rfl⟩
  | _ => simp [OperationEvent.deferred] at deferred

/-- A Shutdown of a TCP socket does not panic. -/
theorem handle_shutdown_event_ok {t : TcpStack S} {h : TypedSocketHandle} (tx : ResultTx)
    (tables : t.Tables) (tcp : h.protocol = .tcp) :
    ∃ t', t.handle_shutdown_event h tx = .ok t' := by
  simp only [handle_shutdown_event]
  by_cases hc : t.contains h = true
  · rw [if_pos hc]
    cases h with
    | tcp handle =>
      obtain ⟨c, hget, -⟩ := exists_get_tcp tables hc
      exact ⟨_, by simp only [hget]; rfl⟩
    | udp handle => cases tcp
  · rw [if_neg hc]
    exact ⟨_, rfl⟩

/-- A Close panics at most because a UDP socket is not bound. -/
theorem handle_close_event_ok {t : TcpStack S} {h : TypedSocketHandle} (tables : t.Tables)
    (bound : ∀ u, t.socket_at h.handle.index = some (.udp u) →
      (S.udp.endpoint u).addr.isSome = true) : ∃ t', t.handle_close_event h = .ok t' := by
  simp only [handle_close_event]
  by_cases hc : t.contains h = true
  · rw [if_pos hc]
    cases h with
    | tcp handle =>
      obtain ⟨c, hget, hs⟩ := exists_get_tcp tables hc
      have hsome : ((t.close_tcp handle.index c).socket_at handle.index).isSome := by
        rw [(wakes_close_tcp t handle.index c).socket_at, socket_at_put, hs]
        rfl
      simp only [hget, bind, Except.bind]
      split_ifs
      · exact remove_tcp_socket_ok hsome
      · exact ⟨_, rfl⟩
    | udp handle =>
      obtain ⟨u, hget, hs⟩ := exists_get_udp tables hc
      obtain ⟨ip, hip⟩ := Option.isSome_iff_exists.mp (bound u hs)
      have hsome : ((t.close_udp handle.index u).socket_at handle.index).isSome := by
        rw [(wakes_close_udp t handle.index u).socket_at, socket_at_put, hs]
        rfl
      simp only [hget, hip, bind, Except.bind]
      exact remove_udp_socket_ok _ hsome
  · rw [if_neg hc]
    exact ⟨_, rfl⟩

/-- A handler with a `contains` check does not panic for a reason that is the socket set's. -/
theorem handle_checked {t : TcpStack S} {e : OperationEvent} {panic : Panic} (tables : t.Tables)
    (checked : ∀ h, e ≠ .ready h) (err : t.handle e = .error panic) :
    panic ≠ .empty_slot ∧ panic ≠ .wrong_kind := by
  have absurd_ok : ∀ {t'}, t.handle e = .ok t' → panic ≠ .empty_slot ∧ panic ≠ .wrong_kind :=
    fun h => by rw [err] at h; cases h
  cases e with
  | ready h => exact absurd rfl (checked h)
  | read handle buffer tx =>
    obtain ⟨t', h⟩ := handle_tcp_wake_event_ok (e := .read handle buffer tx) tables rfl
    exact absurd_ok h
  | write handle buffer tx =>
    obtain ⟨t', h⟩ := handle_tcp_wake_event_ok (e := .write handle buffer tx) tables rfl
    exact absurd_ok h
  | recv handle buffer tx =>
    obtain ⟨t', h⟩ := handle_udp_wake_event_ok (e := .recv handle buffer tx) tables rfl
    exact absurd_ok h
  | send handle src buffer tx =>
    obtain ⟨t', h⟩ := handle_udp_wake_event_ok (e := .send handle src buffer tx) tables rfl
    exact absurd_ok h
  | shutdown h tx =>
    cases h with
    | tcp handle =>
      obtain ⟨t', h⟩ := handle_shutdown_event_ok (h := .tcp handle) tx tables rfl
      exact absurd_ok h
    | udp handle =>
      -- The handler has `unreachable!()` for a UDP handle that is in the table.
      simp only [TcpStack.handle, handle_shutdown_event] at err
      split_ifs at err
      · cases err
        exact ⟨by decide, by decide⟩
      · cases err
  | close h =>
    by_cases bound : ∀ u, t.socket_at h.handle.index = some (.udp u) →
        (S.udp.endpoint u).addr.isSome = true
    · obtain ⟨t', h⟩ := handle_close_event_ok tables bound
      exact absurd_ok h
    · push Not at bound
      obtain ⟨u, hs, hu⟩ := bound
      have hnone : (S.udp.endpoint u).addr = none := by simpa using hu
      simp only [handle, handle_close_event] at err
      split_ifs at err with hc
      · cases h with
        | tcp handle =>
          obtain ⟨c, -, hs'⟩ := exists_get_tcp tables hc
          rw [show (TypedSocketHandle.tcp handle).handle.index = handle.index from rfl] at hs
          rw [hs] at hs'
          cases hs'
        | udp handle =>
          have hget : t.get_udp handle = .ok u := get_udp_eq_ok.mpr hs
          simp only [hget, hnone, bind, Except.bind] at err
          cases err
          exact ⟨by decide, by decide⟩
      · cases err

/-! ## Runs of `drive_once` -/

/-- A step in the life of a stack. -/
inductive Move
  /-- A call of `drive_once` with any packet and any batch, which may return an error. -/
  | drive_once (packet : Option Packet) (now : ℕ) (events : Option (List OperationEvent))
  /-- What the other parties do: they send and take events, take what is in the acceptors'
  channels, drop their ends, and use their buffers. -/
  | outside (operation_event : Channel OperationEvent) (tcp_stream : Channel TcpInfo)
      (udp_stream : Channel UdpInfo) (memory : BufferId → IoBuf)

/-- The stack after a step, unless the step panics. -/
def move (t : TcpStack S) : Move → Option (TcpStack S)
  | .drive_once packet now events =>
    match t.drive_once packet now events with
    | .ok (t', _) => some t'
    | .error _ => none
  | .outside operation_event tcp_stream udp_stream memory =>
    some { t with operation_event, tcp_stream, udp_stream, memory }

/-- What holds when `drive_once` comes to its events, and what every handler keeps, holds after the
step, when it is about the sockets, their handles, and the packets to be received. -/
theorem move_keeps {I : TcpStack S → Prop} {t t' : TcpStack S} {m : Move}
    (step : t.move m = some t')
    (begins : ∀ packet now events u res, m = .drive_once packet now events →
      t.begin_drive packet now = .ok (u, res) → I u)
    (handles : ∀ u e u', I u → u.handle e = .ok u' → I u')
    (same : ∀ u u' : TcpStack S, u'.socket_set = u.socket_set →
      u'.socket_handles = u.socket_handles →
      u'.accepted_udp_sockets = u.accepted_udp_sockets →
      u'.virtual_iface.rx_queue = u.virtual_iface.rx_queue → I u → I u')
    (start : I t) : I t' := by
  cases m with
  | drive_once packet now events =>
    cases hd : t.drive_once packet now events with
    | error panic => simp [move, hd] at step
    | ok r =>
      obtain ⟨u, res⟩ := r
      obtain rfl : u = t' := by simpa [move, hd] using step
      rcases drive_once_eq_ok hd with ⟨err, hb, -⟩ | ⟨v, w, hb, hw, rfl, -⟩
      · exact begins packet now events u _ rfl hb
      · exact same w _ rfl rfl rfl rfl
          (in_order_keeps handles (begins packet now events v _ rfl hb) hw)
  | outside operation_event tcp_stream udp_stream memory =>
    cases step
    exact same t _ rfl rfl rfl rfl start

/-- The tables agree in every run. -/
theorem tables_run {size : ℕ} {interface : S.Interface} {guard : TcpStack S → Move → Prop}
    {t : TcpStack S} (run : Run move guard (new size interface) t) : t.Tables :=
  run.invariant (I := Tables) (tables_new size interface) fun _ _ _ _ _ step tables =>
    move_keeps step (fun _ _ _ _ _ _ hb => tables_begin tables hb)
      (fun _ _ _ tables ok => tables_handle tables ok)
      (fun _ _ set handles _ _ tables => tables.of_same set handles) tables

/-- In every state that calls of `drive_once` with any packets and batches reach, and in every state
within such a call, the handle table says which slots hold sockets of which kind. A handler with a
`contains` check then never meets an empty slot or a socket of the other kind, whatever event it is
given. -/
theorem handle_table_agrees {size : ℕ} {interface : S.Interface} {t : TcpStack S}
    (run : Reachable move (new size interface) t) :
    (∀ i, ((.tcp, i) ∈ t.socket_handles ↔ ∃ c, t.socket_at i = some (.tcp c)) ∧
      ((.udp, i) ∈ t.socket_handles ↔ ∃ u, t.socket_at i = some (.udp u))) ∧
    ∀ packet now u res events v, t.begin_drive packet now = .ok (u, res) →
      u.handle_in_order events = .ok v →
      (∀ i, ((.tcp, i) ∈ v.socket_handles ↔ ∃ c, v.socket_at i = some (.tcp c)) ∧
        ((.udp, i) ∈ v.socket_handles ↔ ∃ u, v.socket_at i = some (.udp u))) ∧
      ∀ e panic, (∀ h, e ≠ .ready h) → v.handle e = .error panic →
        panic ≠ .empty_slot ∧ panic ≠ .wrong_kind := by
  have slots : ∀ {v : TcpStack S}, v.Tables → ∀ i,
      ((.tcp, i) ∈ v.socket_handles ↔ ∃ c, v.socket_at i = some (.tcp c)) ∧
      ((.udp, i) ∈ v.socket_handles ↔ ∃ u, v.socket_at i = some (.udp u)) := by
    intro v tables i
    rw [tables, tables]
    exact ⟨⟨tcp_of_kind, fun ⟨_, h⟩ => kind_of_tcp h⟩, udp_of_kind, fun ⟨_, h⟩ => kind_of_udp h⟩
  have tables := tables_run run
  refine ⟨slots tables, fun packet now u res events v hb hv => ?_⟩
  have tables' := tables_in_order (tables_begin tables hb) hv
  exact ⟨slots tables', fun e panic checked err => handle_checked tables' checked err⟩

open Reference in
/-- A UDP socket takes slot 0, is closed, and a TCP listener takes the slot: a stale Recv then finds
no UDP handle in the table. -/
theorem handle_table_agrees_reused_slot : ∃ t : TcpStack reference,
    exec move (new 64 ()) [
      .drive_once (some (udp_packet 1 2 [7])) 0 none,
      .drive_once none 0 (some [.close (.udp ⟨0, 0⟩)]),
      .drive_once (some (syn 1 2)) 0 (some [.recv ⟨0, 0⟩ 0 0])] = some t ∧
    (.tcp, 0) ∈ t.socket_handles ∧ ∃ c, t.socket_at 0 = some (.tcp c) := by
  obtain ⟨t, ht, hm⟩ := exists_of_exec_any move (new 64 () : TcpStack reference)
    [.drive_once (some (udp_packet 1 2 [7])) 0 none,
      .drive_once none 0 (some [.close (.udp ⟨0, 0⟩)]),
      .drive_once (some (syn 1 2)) 0 (some [.recv ⟨0, 0⟩ 0 0])]
    (fun t => (.tcp, 0) ∈ t.socket_handles) (by decide +kernel)
  have hm : (.tcp, 0) ∈ t.socket_handles := of_decide_eq_true hm
  exact ⟨t, ht, hm, ((handle_table_agrees (Run.of_exec ht)).1 0).1.mp hm⟩

end TcpStack

end L3Extract
