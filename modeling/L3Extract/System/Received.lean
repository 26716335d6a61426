import L3Extract.Lib.Flow
import L3Extract.System.Answers

/-!
# What is received and what is taken

From the record of a run one reads what arrived at a socket and what requests took out of its
receive buffer, byte by byte or datagram by datagram (`Record.arrived`, `Record.taken`). `Stored`
shows that nothing gets lost in between, but for what smoltcp discards itself when the TIME-WAIT of
a connection is over (`Record.Discarded`).

`returned` is what the answered reads of a stream have returned, and `returned_by` what those of
them have that are told apart by their numbers. As long as these take from their own sockets only,
this is what they took from the stream's socket (`returned_step`).
-/

namespace L3Extract

open OperationEvent Transition TcpStack Flow

variable {S : Smoltcp}

/-! ## Reading the record -/

/-- The bytes in the receive buffer of a TCP socket. -/
def Buffers.received : Option Buffers → Bytes
  | some (.tcp rx _ _) => rx
  | _ => []

/-- The datagrams in the receive buffer of a UDP socket. -/
def Buffers.queued : Option Buffers → List Datagram
  | some (.udp rx _) => rx
  | _ => []

/-- The peer's FIN was received. -/
def Buffers.finished : Option Buffers → Bool
  | some (.tcp _ _ fin) => fin
  | _ => false

section View

variable {α : Type} (view : Option Buffers → List α)

/-- What came into the receive buffer in a change that no request made. -/
def Change.arrived (ch : Change) : List α :=
  if ch.cause = none then gained (view ch.before) (view ch.after) else []

/-- What a request took out of the receive buffer. -/
def Change.taken (ch : Change) : List α :=
  if ch.cause = none then [] else lost (view ch.before) (view ch.after)

/-- All that came into a socket's receive buffer. -/
def Record.arrived (r : Record) (h : SocketHandle) : List α :=
  (r.changes h).flatMap (Change.arrived view)

/-- All that requests took out of a socket's receive buffer. -/
def Record.taken (r : Record) (h : SocketHandle) : List α :=
  (r.changes h).flatMap (Change.taken view)

/-- What arrives in a step comes after what arrived before. -/
theorem Record.arrived_note (r : Record) (s : System S) (a : Action) (s' : System S)
    (h : SocketHandle) : (r.note s a s').arrived view h = r.arrived view h ++
      (Change.mk (s.cause a) (s.stack.buffers h) (s'.stack.buffers h)).arrived view := by
  simp only [arrived, note, List.flatMap_append]
  split_ifs with heq
  · simp [Change.arrived, heq]
  · simp

/-- What is taken in a step comes after what was taken before. -/
theorem Record.taken_note (r : Record) (s : System S) (a : Action) (s' : System S)
    (h : SocketHandle) : (r.note s a s').taken view h = r.taken view h ++
      (Change.mk (s.cause a) (s.stack.buffers h) (s'.stack.buffers h)).taken view := by
  simp only [taken, note, List.flatMap_append]
  split_ifs with heq
  · simp [Change.taken, heq]
  · simp

end View

/-- The bytes that requests took out of a socket's receive buffer, of the requests whose numbers are
counted. -/
def Record.taken_by (r : Record) (counts : ResultTx → Bool) (h : SocketHandle) : Bytes :=
  (r.changes h).flatMap fun ch => if ch.cause.all counts then ch.taken Buffers.received else []

/-- What is taken in a step by a request that counts comes after what was taken before. -/
theorem Record.taken_by_note (r : Record) (counts : ResultTx → Bool) (s : System S) (a : Action)
    (s' : System S) (h : SocketHandle) : (r.note s a s').taken_by counts h =
      r.taken_by counts h ++ if (s.cause a).all counts
        then (Change.mk (s.cause a) (s.stack.buffers h) (s'.stack.buffers h)).taken Buffers.received
        else [] := by
  simp only [taken_by, note, List.flatMap_append]
  split_ifs with heq <;> simp_all [Change.taken]

/-- All requests are counted. -/
theorem Record.taken_by_all (r : Record) (h : SocketHandle) :
    r.taken_by (fun _ => true) h = r.taken Buffers.received h := by
  refine List.flatMap_congr fun ch _ => if_pos ?_
  cases ch.cause <;> rfl

/-- The other requests have taken nothing from the socket. -/
theorem Record.taken_by_of_rest {r : Record} {dropped : List ResultTx} {h : SocketHandle}
    (alone : ∀ ch ∈ r.changes h, ∀ id ∈ dropped, ch.cause = some id →
      ch.taken Buffers.received = []) :
    r.taken_by (· ∉ dropped) h = r.taken Buffers.received h := by
  refine List.flatMap_congr fun ch hch => ?_
  split_ifs with counted
  · rfl
  · obtain ⟨id, cause, other⟩ : ∃ id, ch.cause = some id ∧ id ∈ dropped := by
      cases cause : ch.cause with
      | none => simp [cause] at counted
      | some id => exact ⟨id, rfl, by simpa [cause] using counted⟩
    exact (alone ch hch id other cause).symm

/-- smoltcp cleared the receive buffer of a socket while there was data in it. -/
def Change.Discards (ch : Change) : Prop :=
  ch.cause = none ∧ Buffers.received ch.before ≠ [] ∧ ch.after.isSome = true ∧
    Buffers.received ch.after = []

/-- Some received data was discarded. -/
def Record.Discarded (r : Record) (h : SocketHandle) : Prop := ∃ ch ∈ r.changes h, ch.Discards

/-- The peer's FIN was received. -/
def Record.FinReceived (r : Record) (h : SocketHandle) : Prop :=
  ∃ ch ∈ r.changes h, Buffers.finished ch.after = true

instance (ch : Change) : Decidable ch.Discards := by
  unfold Change.Discards
  infer_instance

instance (r : Record) (h : SocketHandle) : Decidable (r.Discarded h) := by
  unfold Record.Discarded
  infer_instance

instance (r : Record) (h : SocketHandle) : Decidable (r.FinReceived h) := by
  unfold Record.FinReceived
  infer_instance

/-- A step adds a change for every socket whose buffers it changes. -/
theorem Record.mem_changes_note {r : Record} {s s' : System S} {a : Action} {h : SocketHandle}
    {ch : Change} : ch ∈ (r.note s a s').changes h ↔ ch ∈ r.changes h ∨
      s'.stack.buffers h ≠ s.stack.buffers h ∧
        ch = ⟨s.cause a, s.stack.buffers h, s'.stack.buffers h⟩ := by
  rw [note, List.mem_append]
  split_ifs with heq <;> simp [heq]

/-- What was discarded stays so. -/
theorem Record.Discarded.note {r : Record} {h : SocketHandle} (discarded : r.Discarded h)
    (s : System S) (a : Action) (s' : System S) : (r.note s a s').Discarded h := by
  obtain ⟨ch, hch, hd⟩ := discarded
  exact ⟨ch, mem_changes_note.mpr (.inl hch), hd⟩

/-- A FIN that was received stays in the record. -/
theorem Record.FinReceived.note {r : Record} {h : SocketHandle} (fin : r.FinReceived h)
    (s : System S) (a : Action) (s' : System S) : (r.note s a s').FinReceived h := by
  obtain ⟨ch, hch, hf⟩ := fin
  exact ⟨ch, mem_changes_note.mpr (.inl hch), hf⟩

/-- What was discarded before the step, unless the step discards it. -/
theorem Record.discarded_of_note {r : Record} {s s' : System S} {a : Action} {h : SocketHandle}
    (discarded : (r.note s a s').Discarded h)
    (keeps : ¬ Change.Discards ⟨s.cause a, s.stack.buffers h, s'.stack.buffers h⟩) :
    r.Discarded h := by
  obtain ⟨ch, hch, hd⟩ := discarded
  rcases mem_changes_note.mp hch with old | ⟨-, rfl⟩
  · exact ⟨ch, old, hd⟩
  · exact absurd hd keeps

/-! ## What is in the buffers -/

namespace TcpStack

/-- The socket that the handle was made for is the TCP socket `c`. -/
def IsTcp (t : TcpStack S) (h : SocketHandle) (c : S.Tcp) : Prop :=
  t.socket_set.gen h.index = some h.incarnation ∧ t.tcp_at h.index = some c

/-- The socket that the handle was made for is the UDP socket `u`. -/
def IsUdp (t : TcpStack S) (h : SocketHandle) (u : S.Udp) : Prop :=
  t.socket_set.gen h.index = some h.incarnation ∧ t.udp_at h.index = some u

/-- The buffers of a TCP socket. -/
theorem IsTcp.buffers {t : TcpStack S} {h : SocketHandle} {c : S.Tcp} (is : t.IsTcp h c) :
    t.buffers h = some (S.buffers (.tcp c)) :=
  buffers_eq_some.mpr ⟨is.1, _, tcp_at_eq_some.mp is.2, rfl⟩

/-- The buffers of a UDP socket. -/
theorem IsUdp.buffers {t : TcpStack S} {h : SocketHandle} {u : S.Udp} (is : t.IsUdp h u) :
    t.buffers h = some (S.buffers (.udp u)) :=
  buffers_eq_some.mpr ⟨is.1, _, udp_at_eq_some.mp is.2, rfl⟩

end TcpStack

namespace System

/-- What a step does to the data of a TCP socket that is there after it. -/
theorem tcp_flows_of_step (spec : S.Spec) {s s' : System S} {a : Action} (h : s.step a = some s')
    {hd : SocketHandle} {c' : S.Tcp} (is : s'.stack.IsTcp hd c') :
    (s.stack.socket_set.gen hd.index ≠ some hd.incarnation ∧ s.cause a = none) ∨
      ∃ c, s.stack.IsTcp hd c ∧ S.tcp.Flows (s.cause a) c c' := by
  cases stack_step h with
  | began packet now batch res action ok =>
    subst action
    rcases (begin_drive_cases ok).tcp_flows spec is.1 is.2 with new | ⟨hg, c, hc, flows⟩
    · exact .inl ⟨new, rfl⟩
    · exact .inr ⟨c, ⟨hg, hc⟩, flows⟩
  | handled e action next ok =>
    subst action
    obtain ⟨c, hc, flows⟩ := (handle_outcome ok).tcp_flows spec is.2
    have cause : s.cause .event = e.result_tx := by rw [cause, next]; rfl
    rcases (handle_outcome ok).gen hd.index with same | ⟨-, gone⟩
    · exact .inr ⟨c, ⟨same ▸ is.1, hc⟩, cause ▸ flows⟩
    · exact absurd (gone.symm.trans is.1) (by simp)
  | outside socket_set socket_handles accepted_udp_sockets rx_queue =>
    refine .inr ⟨c', ?_, .kept _ rfl id⟩
    rwa [IsTcp, TcpStack.tcp_at, TcpStack.socket_at, socket_set] at is

/-- What a step does to the datagrams of a UDP socket that is there after it. -/
theorem udp_flows_of_step (spec : S.Spec) {s s' : System S} {a : Action} (h : s.step a = some s')
    {hd : SocketHandle} {u' : S.Udp} (is : s'.stack.IsUdp hd u') :
    (s.stack.socket_set.gen hd.index ≠ some hd.incarnation ∧ s.cause a = none) ∨
      ∃ u, s.stack.IsUdp hd u ∧ S.udp.Flows (s.cause a) u u' := by
  cases stack_step h with
  | began packet now batch res action ok =>
    subst action
    rcases (begin_drive_cases ok).udp_flows spec is.1 is.2 with new | ⟨hg, u, hu, flows⟩
    · exact .inl ⟨new, rfl⟩
    · exact .inr ⟨u, ⟨hg, hu⟩, flows⟩
  | handled e action next ok =>
    subst action
    obtain ⟨u, hu, flows⟩ := (handle_outcome ok).udp_flows spec is.2
    have cause : s.cause .event = e.result_tx := by rw [cause, next]; rfl
    rcases (handle_outcome ok).gen hd.index with same | ⟨-, gone⟩
    · exact .inr ⟨u, ⟨same ▸ is.1, hu⟩, cause ▸ flows⟩
    · exact absurd (gone.symm.trans is.1) (by simp)
  | outside socket_set socket_handles accepted_udp_sockets rx_queue =>
    refine .inr ⟨u', ?_, .kept _ rfl⟩
    rwa [IsUdp, TcpStack.udp_at, TcpStack.socket_at, socket_set] at is

/-- What arrived at a socket was taken by requests or is in its buffer, and a FIN that it has is in
the record. -/
structure Stored (s : System S) (r : Record) : Prop where
  fresh : ∀ h : SocketHandle, s.stack.socket_set.next ≤ h.incarnation → r.changes h = []
  tcp : ∀ h c, s.stack.IsTcp h c →
    (¬ r.Discarded h ∧ Conserved (r.arrived Buffers.received h) (r.taken Buffers.received h)
      (S.tcp.rx_buffer c)) ∨
    r.Discarded h ∧ S.tcp.state c = .closed ∧ S.tcp.rx_buffer c = [] ∧
      r.taken Buffers.received h <+: r.arrived Buffers.received h
  udp : ∀ h u, s.stack.IsUdp h u → Conserved (r.arrived Buffers.queued h)
    (r.taken Buffers.queued h) (S.udp.rx_buffer u)
  fin : ∀ h c, s.stack.IsTcp h c → S.tcp.rx_fin_received c = true → r.FinReceived h

/-- Nothing has arrived at first. -/
theorem stored_new (size : ℕ) (interface : S.Interface) : Stored (new size interface) .empty where
  fresh h _ := rfl
  tcp h c is := by simp [IsTcp, new, TcpStack.new, TcpStack.tcp_at, TcpStack.socket_at] at is
  udp h u is := by simp [IsUdp, new, TcpStack.new, TcpStack.udp_at, TcpStack.socket_at] at is
  fin h c is := by simp [IsTcp, new, TcpStack.new, TcpStack.tcp_at, TcpStack.socket_at] at is

/-- A socket that a step makes has no record. -/
theorem Stored.changes_of_new {s s' : System S} {a : Action} {r : Record} (stored : Stored s r)
    (h : s.step a = some s') {hd : SocketHandle}
    (live : s'.stack.socket_set.gen hd.index = some hd.incarnation)
    (new : s.stack.socket_set.gen hd.index ≠ some hd.incarnation) : r.changes hd = [] := by
  refine stored.fresh hd (Nat.le_of_not_lt fun old => new ?_)
  exact (gen_of_ownership (ownership_of_effect (effect_of_steps (steps_of_step h))) old live).1

/-- What arrived at a TCP socket was taken or is in its buffer after a step, too, unless smoltcp
discards it. -/
theorem Stored.tcp_step (spec : S.Spec) {s s' : System S} {a : Action} {r : Record}
    (stored : Stored s r) (h : s.step a = some s') {hd : SocketHandle} {c' : S.Tcp}
    (is : s'.stack.IsTcp hd c') :
    (¬ (r.note s a s').Discarded hd ∧ Conserved ((r.note s a s').arrived Buffers.received hd)
      ((r.note s a s').taken Buffers.received hd) (S.tcp.rx_buffer c')) ∨
    (r.note s a s').Discarded hd ∧ S.tcp.state c' = .closed ∧ S.tcp.rx_buffer c' = [] ∧
      (r.note s a s').taken Buffers.received hd <+:
        (r.note s a s').arrived Buffers.received hd := by
  have after : Buffers.received (s'.stack.buffers hd) = S.tcp.rx_buffer c' := by
    rw [is.buffers]
    rfl
  rw [Record.arrived_note, Record.taken_note, Change.arrived, Change.taken]
  rcases tcp_flows_of_step spec h is with ⟨new, cause⟩ | ⟨c, was, flows⟩
  · -- The socket is new.
    have none : s.stack.buffers hd = none := buffers_eq_none.mpr new
    have hr := stored.changes_of_new h is.1 new
    refine .inl ⟨fun discarded => ?_, ?_⟩
    · obtain ⟨ch, hch, -⟩ := Record.discarded_of_note discarded
        fun hd => hd.2.1 (by rw [none]; rfl)
      simp [hr] at hch
    · simp only [cause, if_pos, Record.arrived, Record.taken, hr, List.flatMap_nil, after]
      simp [none, Buffers.received, Conserved]
  have before : Buffers.received (s.stack.buffers hd) = S.tcp.rx_buffer c := by
    rw [was.buffers]
    rfl
  rw [after, before]
  cases flows with
  | grew none data eq closed =>
    -- Data arrives: nothing is discarded.
    have keeps : ¬ Change.Discards ⟨s.cause a, s.stack.buffers hd, s'.stack.buffers hd⟩ := by
      rintro ⟨-, full, -, empty⟩
      rw [after, eq] at empty
      exact full (before.trans (List.append_eq_nil_iff.mp empty).1)
    rw [if_pos none, if_pos none, eq, gained_append, List.append_nil]
    rcases stored.tcp hd c was with ⟨hnd, conserved⟩ | ⟨hd', state, empty, le⟩
    · exact .inl ⟨fun discarded => hnd (Record.discarded_of_note discarded keeps),
        conserved.put data⟩
    · obtain ⟨state', rfl⟩ := closed state
      exact .inr ⟨hd'.note s a s', state', by simp [empty], by simpa using le⟩
  | took id some data eq closed =>
    -- A Read takes from the front of the buffer.
    have keeps : ¬ Change.Discards ⟨s.cause a, s.stack.buffers hd, s'.stack.buffers hd⟩ := by
      rintro ⟨none, -⟩
      simp [some] at none
    rw [if_neg (by simp [some]), if_neg (by simp [some]), eq, lost_append, List.append_nil]
    rcases stored.tcp hd c was with ⟨hnd, conserved⟩ | ⟨hd', state, empty, le⟩
    · rw [eq] at conserved
      exact .inl ⟨fun discarded => hnd (Record.discarded_of_note discarded keeps), conserved.get⟩
    · rw [eq] at empty
      obtain ⟨rfl, empty⟩ := List.append_eq_nil_iff.mp empty
      exact .inr ⟨hd'.note s a s', closed state, empty, by rwa [List.append_nil]⟩
  | cleared none notclosed state empty =>
    -- The socket closes and clears its buffer: what it had is discarded, if it had anything.
    rw [if_pos none, if_pos none, empty, gained_nil_right, List.append_nil, List.append_nil]
    rcases stored.tcp hd c was with ⟨hnd, conserved⟩ | ⟨-, closed, -⟩
    · by_cases full : S.tcp.rx_buffer c = []
      · rw [full] at conserved
        refine .inl ⟨fun discarded => hnd (Record.discarded_of_note discarded fun hd => ?_),
          conserved⟩
        exact hd.2.1 (before.trans full)
      · have changed : s'.stack.buffers hd ≠ s.stack.buffers hd := fun heq => full (by
          rw [← before, ← heq, after, empty])
        refine .inr ⟨⟨_, Record.mem_changes_note.mpr (.inr ⟨changed, rfl⟩), ?_⟩, state, rfl,
          conserved.prefix_put⟩
        exact ⟨none, by rwa [before], by rw [is.buffers]; rfl, by rw [after, empty]⟩
    · exact absurd closed notclosed

/-- What arrived at a UDP socket was taken or is in its buffer after a step, too. -/
theorem Stored.udp_step (spec : S.Spec) {s s' : System S} {a : Action} {r : Record}
    (stored : Stored s r) (h : s.step a = some s') {hd : SocketHandle} {u' : S.Udp}
    (is : s'.stack.IsUdp hd u') : Conserved ((r.note s a s').arrived Buffers.queued hd)
      ((r.note s a s').taken Buffers.queued hd) (S.udp.rx_buffer u') := by
  have after : Buffers.queued (s'.stack.buffers hd) = S.udp.rx_buffer u' := by
    rw [is.buffers]
    rfl
  rw [Record.arrived_note, Record.taken_note, Change.arrived, Change.taken]
  rcases udp_flows_of_step spec h is with ⟨new, cause⟩ | ⟨u, was, flows⟩
  · have none : s.stack.buffers hd = none := buffers_eq_none.mpr new
    have hr := stored.changes_of_new h is.1 new
    simp only [cause, if_pos, Record.arrived, Record.taken, hr, List.flatMap_nil, after]
    simp [none, Buffers.queued, Conserved]
  have before : Buffers.queued (s.stack.buffers hd) = S.udp.rx_buffer u := by
    rw [was.buffers]
    rfl
  have conserved := stored.udp hd u was
  rw [after, before]
  cases flows with
  | grew none new eq =>
    rw [if_pos none, if_pos none, eq, gained_append, List.append_nil]
    exact conserved.put new
  | took id some old eq =>
    rw [if_neg (by simp [some]), if_neg (by simp [some]), eq, lost_append, List.append_nil]
    rw [eq] at conserved
    exact conserved.get

/-- A step keeps the record of what arrived. -/
theorem Stored.step (spec : S.Spec) {s s' : System S} {a : Action} {r : Record}
    (stored : Stored s r) (h : s.step a = some s') : Stored s' (r.note s a s') where
  fresh hd new := by
    have next := next_le_of_ownership (ownership_of_effect (effect_of_steps (steps_of_step h)))
    have gone : ∀ t : TcpStack S, t.socket_set.next ≤ hd.incarnation → t.buffers hd = none :=
      fun t le => buffers_eq_none.mpr fun live => absurd (Arena.gen_lt_next live) (by omega)
    simp [Record.note, stored.fresh hd (next.trans new), gone _ new, gone _ (next.trans new)]
  tcp hd c is := stored.tcp_step spec h is
  udp hd u is := stored.udp_step spec h is
  fin hd c is fin := by
    by_cases same : s'.stack.buffers hd = s.stack.buffers hd
    · -- The socket had the FIN before.
      rw [is.buffers] at same
      obtain ⟨hg, socket, hs, hb⟩ := buffers_eq_some.mp same.symm
      cases socket with
      | udp u => cases hb
      | tcp c₀ =>
        have was : s.stack.IsTcp hd c₀ := ⟨hg, tcp_at_eq_some.mpr hs⟩
        refine (stored.fin hd c₀ was ?_).note s a s'
        rw [← fin]
        exact congrArg (fun b => Buffers.finished (some b)) hb
    · refine ⟨_, Record.mem_changes_note.mpr (.inr ⟨same, rfl⟩), ?_⟩
      rw [is.buffers]
      exact fin

/-- In every run the record of what arrived agrees with the buffers. -/
theorem stored_of_run (spec : S.Spec) {size : ℕ} {interface : S.Interface}
    {guard : System S × Record → Action → Prop} {s : System S} {r : Record}
    (run : Run (recording step Record.note) guard (new size interface, .empty) (s, r)) :
    Stored s r := by
  refine run.invariant (I := fun p => Stored p.1 p.2) (stored_new size interface)
    fun p a q _ _ h stored => ?_
  obtain ⟨step, note⟩ := recording_eq_some.mp h
  rw [note]
  exact stored.step spec step

end System

/-! ## What reads return -/

/-- The bytes that the caller of a read finds in its buffer. -/
def IoBuf.read_data (buf : IoBuf) : Answer → Bytes
  | .ok (.len n) => buf.bytes.take n
  | _ => []

namespace System

/-- The bytes that a request returns to its caller, if it is a read of the stream with the handle
`h`. -/
def gives (s : System S) (r : Record) (h : SocketHandle) (a : ResultTx × Answer) : Bytes :=
  match r.calls[a.1]? with
  | some (.read stream _) =>
    if stream.handle = h then (s.stack.memory a.1).read_data a.2 else []
  | _ => []

/-- What the reads of a stream have returned, in the order in which they were answered. -/
def returned (s : System S) (r : Record) (h : SocketHandle) : Bytes :=
  s.stack.answers.flatMap (s.gives r h)

/-- What the reads of a stream have returned, of those whose numbers are counted. -/
def returned_by (s : System S) (r : Record) (counts : ResultTx → Bool) (h : SocketHandle) : Bytes :=
  s.stack.answers.flatMap fun a => if counts a.1 then s.gives r h a else []

/-- All reads are counted. -/
theorem returned_by_all (s : System S) (r : Record) (h : SocketHandle) :
    s.returned_by r (fun _ => true) h = s.returned r h := rfl

/-- A request that is declined returns nothing. -/
theorem gives_of_declines {s : System S} {r : Record} {a : ResultTx × Answer} {c : Call}
    (call : r.calls[a.1]? = some c) (declines : Declines (c.event a.1) a) (h : SocketHandle) :
    s.gives r h a = [] := by
  cases c with
  | read stream buf =>
    obtain ⟨err, herr⟩ := declines.2 rfl
    simp [gives, call, herr, IoBuf.read_data]
  | _ => simp [gives, call]

/-- The buffer of a request that was answered is not touched again. -/
theorem Faithful.memory_step (spec : S.Spec) {s s' : System S} {a : Action} {r : Record}
    (faithful : Faithful s r) (h : s.step a = some s') {id : ℕ}
    (answered : id ∈ s.stack.answers.map Prod.fst) : s'.stack.memory id = s.stack.memory id := by
  cases traffic_of_step spec h with
  | silent silent cause issues issued => rw [silent.memory]
  | called c cause issues connected eq =>
    subst eq
    -- The new request has a number that is not in use.
    refine Function.update_of_ne (fun new => ?_) _ _
    obtain ⟨⟨i, a'⟩, hm, rfl⟩ := List.mem_map.mp answered
    obtain ⟨c', hc', -⟩ := faithful.answered i a' hm
    have := (List.getElem?_eq_some_iff.mp hc').1
    rw [faithful.tracked.length, ← new] at this
    exact lt_irrefl _ this
  | handled e action next dealt cause issues issued =>
    cases dealt with
    | silent silent buffers => rw [silent.memory]
    | eof handle buffer tx c event found socket drained shut eq => rw [eq]; rfl
    | served tx a' s₀ s₁ memory result_tx found socket serves eq =>
      have pending := mem_pending_of_next next
      obtain ⟨c, hc, heq⟩ := faithful.tracked.event e pending tx result_tx
      have unanswered := faithful.tracked.not_answered pending result_tx
      rw [eq]
      refine memory_of_serves (heq ▸ serves) ?_
      rintro rfl
      exact unanswered answered

/-- What a request has returned does not change. -/
theorem Faithful.gives_step (spec : S.Spec) {s s' : System S} {a : Action} {r : Record}
    (faithful : Faithful s r) (h : s.step a = some s') {ans : ResultTx × Answer}
    (ha : ans ∈ s.stack.answers) (hd : SocketHandle) :
    s'.gives (r.note s a s') hd ans = s.gives r hd ans := by
  obtain ⟨c, hc, -⟩ := faithful.answered ans.1 ans.2 ha
  simp only [gives, hc, call_note hc,
    faithful.memory_step spec h (List.mem_map_of_mem (f := Prod.fst) ha)]

/-- A Read that takes data is for the socket in its slot. -/
def OwnRead (s : System S) (a : Action) : Prop :=
  ∀ handle buffer tx, s.handles a = some (.read handle buffer tx) →
    s.stack.contains (.tcp handle) = true → 0 < (s.stack.memory buffer).capacity →
    ∀ c, s.stack.tcp_at handle.index = some c → S.tcp.recv_queue c ≠ 0 →
      s.stack.socket_set.gen handle.index = some handle.incarnation

/-- The reads of every stream have returned what requests took from its socket. -/
def Returned (s : System S) (r : Record) : Prop :=
  ∀ h, s.returned r h = r.taken Buffers.received h

/-- The caller of a Read that is served gets what is taken from its socket. -/
theorem read_data_of_served (spec : S.Spec) (t : TcpStack S) (id : BufferId) (c : S.Tcp) :
    (t.filled id (fun data => data) (S.tcp.recv_slice c (t.memory id).capacity).2 id).read_data
        (read_answer (S.tcp.recv_slice c (t.memory id).capacity).2) =
      lost (S.tcp.rx_buffer c)
        (S.tcp.rx_buffer (S.tcp.recv_slice c (t.memory id).capacity).1) := by
  have receives := spec.recv_slice_buffers c (t.memory id).capacity
  cases hres : (S.tcp.recv_slice c (t.memory id).capacity).2 with
  | ok data =>
    rw [(receives.moved hres).2, lost_append]
    simp [TcpStack.filled, fill, IoBuf.fill, IoBuf.read_data, read_answer]
  | error err =>
    rw [(receives.error err hres).1, lost_nil_left]
    cases err <;> rfl

/-- A served request takes something out of its own socket only. -/
theorem lost_of_served {t t' : TcpStack S} {h hd : SocketHandle} {s₀ s₁ : S.Socket}
    (before : t.buffers h = some (S.buffers s₀))
    (after : t'.buffers hd = if hd = h then some (S.buffers s₁) else t.buffers hd) :
    lost (Buffers.received (t.buffers hd)) (Buffers.received (t'.buffers hd)) =
      if hd = h then lost (Buffers.received (some (S.buffers s₀)))
        (Buffers.received (some (S.buffers s₁))) else [] := by
  rw [after]
  split_ifs with own
  · rw [own, before]
  · exact lost_self _

/-- The answer to a served request gives a stream what the request takes from its socket. -/
theorem gives_of_serves (spec : S.Spec) {s s' : System S} {r : Record} {a : Action}
    {e : OperationEvent} {tx : ℕ} {c' : Call} {ans : Answer} {s₀ s₁ : S.Socket}
    {memory : BufferId → IoBuf} (own : s.OwnRead a) (action : a = .event)
    (next : s.next_event = some e) (hc' : r.calls[tx]? = some c') (heq : e = c'.event tx)
    (found : s.stack.contains e.handle = true) (socket : s.stack.socket_at e.index = some s₀)
    (serves : s.stack.Serves e s₀ s₁ memory ans)
    (set : s'.stack.socket_set = (s.stack.put e.index s₁).socket_set)
    (hmem : s'.stack.memory tx = memory tx) (hd : SocketHandle) :
    s'.gives (r.note s a s') hd (tx, ans) =
      lost (Buffers.received (s.stack.buffers hd)) (Buffers.received (s'.stack.buffers hd)) := by
  obtain ⟨g, hg, before, after⟩ := buffers_of_served socket s₁
  have after : s'.stack.buffers hd =
      if hd = ⟨e.index, g⟩ then some (S.buffers s₁) else s.stack.buffers hd := by
    rw [buffers_of_socket_set set]
    exact after hd
  rw [lost_of_served before after]
  -- A request that is no Read takes nothing that a stream has received.
  have nothing : Buffers.received (some (S.buffers s₁)) = Buffers.received (some (S.buffers s₀)) →
      (if hd = ⟨e.index, g⟩ then lost (Buffers.received (some (S.buffers s₀)))
        (Buffers.received (some (S.buffers s₁))) else []) = [] := by
    intro same
    rw [same, lost_self, ite_self]
  subst heq
  cases c' with
  | read stream buf =>
    cases serves with
    | @read _ _ _ c queued =>
      have given := read_data_of_served spec s.stack tx c
      simp only [gives, call_note hc', hmem]
      by_cases room : (s.stack.memory tx).capacity = 0
      · -- Nothing moves into an empty buffer, whatever socket is in the slot.
        have receives := spec.recv_slice_buffers c (s.stack.memory tx).capacity
        rw [room] at receives
        rw [nothing (room ▸ receives.of_empty)]
        split_ifs with hh
        · exact given.trans (by rw [room, receives.of_empty, lost_self])
        · rfl
      · have live := own _ _ _ (by rw [action]; exact next) found (Nat.pos_of_ne_zero room) c
          (tcp_at_eq_some.mpr socket) queued
        obtain rfl : g = stream.handle.incarnation := Option.some.inj (hg.symm.trans live)
        have slot : (⟨(Call.event tx (.read stream buf)).index, stream.handle.incarnation⟩ :
            SocketHandle) = stream.handle := rfl
        rw [slot]
        by_cases hh : stream.handle = hd
        · rw [if_pos hh, if_pos hh.symm]
          exact given
        · rw [if_neg hh, if_neg (Ne.symm hh)]
  | write stream buf =>
    cases serves with
    | write can_send =>
      rw [nothing (spec.send_slice_buffers _ _).rx_buffer]
      simp [gives, call_note hc']
  | shutdown stream => cases serves
  | recv socket buf =>
    cases serves with
    | recv can_recv =>
      rw [nothing rfl]
      simp [gives, call_note hc']
  | send socket buf addr =>
    cases serves with
    | send can_send =>
      rw [nothing rfl]
      simp [gives, call_note hc']

/-- The reads whose numbers are counted have returned what they took from the socket. -/
def ReturnedBy (counts : ResultTx → Bool) (s : System S) (r : Record) : Prop :=
  ∀ h, s.returned_by r counts h = r.taken_by counts h

/-- All reads have returned what they took, when every number counts. -/
theorem returned_iff {s : System S} {r : Record} :
    Returned s r ↔ ReturnedBy (fun _ => true) s r := by
  simp only [Returned, ReturnedBy, returned_by_all, Record.taken_by_all]

/-- What a step adds to what the counted reads have returned is what it takes from the buffers, if
the request that it handles takes from its own socket or is not counted. -/
theorem returned_step (spec : S.Spec) {s s' : System S} {a : Action} {r : Record}
    {counts : ResultTx → Bool} (faithful : Faithful s r) (h : s.step a = some s')
    (own : ∀ id ∈ s.cause a, counts id = true → s.OwnRead a)
    (returned : ReturnedBy counts s r) : ReturnedBy counts s' (r.note s a s') := by
  intro hd
  rw [Record.taken_by_note, ← returned hd, Change.taken]
  have old : (s.stack.answers.flatMap fun a' =>
      if counts a'.1 then s'.gives (r.note s a s') hd a' else []) = s.returned_by r counts hd :=
    List.flatMap_congr fun ans ha => by rw [faithful.gives_step spec h ha hd]
  -- Answers that decline their requests.
  have silent : ∀ {pool}, Silent s.stack pool s'.stack → (∀ e ∈ pool, e ∈ s.pending) →
      s'.returned_by (r.note s a s') counts hd = s.returned_by r counts hd := by
    intro pool silent hpool
    obtain ⟨new, answers, declines⟩ := silent.answers
    rw [System.returned_by, answers, List.flatMap_append, old]
    refine (congrArg (_ ++ ·) (List.flatMap_eq_nil_iff.mpr fun ans ha => ?_)).trans
      (List.append_nil _)
    obtain ⟨e, he, hdec⟩ := declines ans ha
    obtain ⟨c, hc, rfl⟩ := faithful.tracked.event e (hpool e he) ans.1 hdec.1
    rw [gives_of_declines (call_note hc s a s') hdec hd, ite_self]
  cases traffic_of_step spec h with
  | silent quiet cause issues issued =>
    rw [silent quiet mem_pending_of_stack, if_pos cause, ite_self, List.append_nil]
  | called c cause issues connected eq =>
    rw [if_pos cause, ite_self, List.append_nil, ← old, eq]
    rfl
  | handled e action next dealt cause issues issued =>
    have pending := mem_pending_of_next next
    cases dealt with
    | silent quiet buffers =>
      rw [silent quiet (mem_pending_of_handled next)]
      rcases buffers hd with same | ⟨none, -⟩
      · rw [same, lost_self, ite_self, ite_self, List.append_nil]
      · rw [if_pos (cause.trans none), ite_self, List.append_nil]
    | eof handle buffer tx c event found socket drained shut eq =>
      have same : s'.stack.buffers hd = s.stack.buffers hd := by rw [eq]; rfl
      have answers : s'.stack.answers = s.stack.answers ++ [(tx, .ok (.len 0))] := by rw [eq]; rfl
      rw [System.returned_by, answers, List.flatMap_append, old, same, lost_self,
        ite_self, ite_self]
      obtain ⟨c', hc', -⟩ := faithful.tracked.event e pending tx (by rw [event]; rfl)
      simp only [List.flatMap_singleton, gives, call_note hc']
      cases c' <;> simp [IoBuf.read_data]
    | served tx ans s₀ s₁ memory result_tx found socket serves eq =>
      obtain ⟨c', hc', heq⟩ := faithful.tracked.event e pending tx result_tx
      have answers : s'.stack.answers = s.stack.answers ++ [(tx, ans)] := by rw [eq]; rfl
      have cause : s.cause a = some tx := cause.trans result_tx
      rw [System.returned_by, answers, List.flatMap_append, old, List.flatMap_singleton, cause,
        Option.all_some]
      refine congrArg (_ ++ ·) ?_
      cases counted : counts tx with
      | false => rfl
      | true =>
        simp only [if_true, reduceCtorEq, if_false]
        exact gives_of_serves spec (own tx cause counted) action next hc' heq found socket serves
          (by rw [eq]; rfl) (by rw [eq]) hd

end System

end L3Extract
