import L3Extract.Smoltcp.Transmit
import L3Extract.System.Delivery

/-!
# What is written and what leaves

The outgoing half of a connection, seen as a stream of bytes. From the record of a run one reads
what requests put into the transmit buffer of a socket (`Record.put`), and what left it again
(`Record.drained`). `Poured` says that smoltcp takes bytes out at the front only, so that nothing
that was put in is skipped, repeated, or overtaken.

`accepted` is what the answers tell the writers of a stream: for every write that was answered with
a count, that many bytes of its buffer. `written_in_order` shows that this is the stream that the
peer gets. It needs that the callers of `write` wait (`KeepsWrites`): a Write that is left behind by
its caller may find another socket in its slot.
-/

namespace L3Extract

open OperationEvent Transition TcpStack Flow

variable {S : Smoltcp}

/-! ## Reading the record -/

/-- The bytes in the transmit buffer of a TCP socket. -/
def Buffers.unsent : Option Buffers → Bytes
  | some (.tcp _ tx _) => tx
  | _ => []

/-- What a request put into the transmit buffer. -/
def Change.put (ch : Change) : Bytes :=
  if ch.cause = none then [] else gained (Buffers.unsent ch.before) (Buffers.unsent ch.after)

/-- What left the transmit buffer of a socket that stays, in a change that no request made. -/
def Change.drained (ch : Change) : Bytes :=
  match ch.after with
  | some (.tcp _ tx _) => if ch.cause = none then lost (Buffers.unsent ch.before) tx else []
  | _ => []

/-- All that requests put into the transmit buffer of a socket. -/
def Record.put (r : Record) (h : SocketHandle) : Bytes := (r.changes h).flatMap Change.put

/-- All that left the transmit buffer of a socket. -/
def Record.drained (r : Record) (h : SocketHandle) : Bytes := (r.changes h).flatMap Change.drained

/-- What is put in a step comes after what was put before. -/
theorem Record.put_note (r : Record) (s : System S) (a : Action) (s' : System S)
    (h : SocketHandle) : (r.note s a s').put h = r.put h ++
      (Change.mk (s.cause a) (s.stack.buffers h) (s'.stack.buffers h)).put := by
  simp only [put, note, List.flatMap_append]
  split_ifs with same
  · simp [Change.put, same]
  · simp

/-- What leaves in a step comes after what left before. -/
theorem Record.drained_note (r : Record) (s : System S) (a : Action) (s' : System S)
    (h : SocketHandle) : (r.note s a s').drained h = r.drained h ++
      (Change.mk (s.cause a) (s.stack.buffers h) (s'.stack.buffers h)).drained := by
  simp only [drained, note, List.flatMap_append]
  split_ifs with same
  · have nothing :
        (Change.mk (s.cause a) (s.stack.buffers h) (s'.stack.buffers h)).drained = [] := by
      rw [Change.drained, same]
      dsimp only
      split
      · rename_i eq
        rw [eq, Buffers.unsent, lost_self, ite_self]
      · rfl
    rw [nothing]
    rfl
  · simp

/-! ## Bytes in the transmit buffer -/

/-- What happens to the bytes that a TCP socket has to send, when the request `cause` is handled or,
without one, smoltcp may send. -/
inductive TcpApi.Pours {Socket : Type} (api : TcpApi Socket) (cause : Option ResultTx)
    (c c' : Socket) : Prop
  | wrote (id : ResultTx) (some : cause = some id) (data : Bytes)
      (eq : api.tx_buffer c' = api.tx_buffer c ++ data)
  | drained (none : cause = none) (old : Bytes) (eq : api.tx_buffer c = old ++ api.tx_buffer c')

/-- A transmit buffer that stays pours nothing. -/
theorem TcpApi.Pours.kept {api : TcpApi S.Tcp} {c c' : S.Tcp} (cause : Option ResultTx)
    (eq : api.tx_buffer c' = api.tx_buffer c) : api.Pours cause c c' := by
  cases cause with
  | none => exact .drained rfl [] eq.symm
  | some id => exact .wrote id rfl [] (by rw [eq, List.append_nil])

namespace TcpStack

/-- What happens to the bytes of a TCP socket that was there before `drive_once` began. -/
theorem Begins.tcp_pours (streams : S.Streams) {t t' : TcpStack S} {packet : Option Packet}
    {now : ℕ} {res : Except DriveError Unit} (begins : Begins t packet now t' res) {i g : ℕ}
    {c' : S.Tcp} (gen : t'.socket_set.gen i = some g) (hc' : t'.tcp_at i = some c') :
    t.socket_set.gen i ≠ some g ∨ t.socket_set.gen i = some g ∧
      ∃ c, t.tcp_at i = some c ∧ S.tcp.Pours none c c' := by
  rcases begins.slot gen (tcp_at_eq_some.mp hc') with new | ⟨hg, s, hs, hs'⟩
  · exact .inl new
  · refine .inr ⟨hg, ?_⟩
    cases s with
    | udp u => rcases hs' with hs' | ⟨u, hs'⟩ <;> cases hs'
    | tcp c =>
      refine ⟨c, tcp_at_eq_some.mpr hs, ?_⟩
      rcases hs' with hs' | ⟨u, hs'⟩
      · cases hs'
        exact .kept none rfl
      · cases hs'
        obtain ⟨old, eq⟩ := streams.poll u.interface now u.virtual_iface.rx_queue u.sockets i c
        exact .drained rfl old eq.symm

/-- A TCP socket that `drive_once` makes has nothing to send. -/
theorem Begins.tx_of_new (streams : S.Streams) {t t' : TcpStack S} {packet : Option Packet}
    {now : ℕ} {res : Except DriveError Unit} (begins : Begins t packet now t' res) {i g : ℕ}
    {c' : S.Tcp} (gen : t'.socket_set.gen i = some g) (hc' : t'.tcp_at i = some c')
    (new : t.socket_set.gen i ≠ some g) : S.tcp.tx_buffer c' = [] := by
  have socket := tcp_at_eq_some.mp hc'
  cases begins with
  | failed => exact absurd gen new
  | @unready p h s accepted u arrived opens adds disconnected protocol =>
    -- Only a UDP socket is added without its Ready.
    rw [adds.gen] at gen
    split_ifs at gen with hi
    · rw [adds.socket_at, if_pos hi] at socket
      have kind := adds.protocol
      rw [Option.some.inj socket, protocol] at kind
      cases kind
    · exact absurd gen new
  | polled quiet =>
    rw [(same_poll _ now).gen] at gen
    exact absurd gen new
  | @opened p h s accepted u arrived opens adds =>
    rw [(same_poll _ now).gen] at gen
    have gen : u.socket_set.gen i = some g := gen
    rw [adds.gen] at gen
    split_ifs at gen with hi
    · rw [socket_at_poll] at socket
      obtain ⟨s₀, hs₀, polled⟩ := Option.map_eq_some_iff.mp socket
      have hs₀ : u.socket_at i = some s₀ := hs₀
      rw [adds.socket_at, if_pos hi] at hs₀
      cases opens with
      | udp parsed fresh binds => cases hs₀; cases polled
      | @tcp src dst c parsed listens =>
        cases hs₀
        cases polled
        have empty := streams.listen _ _ _ listens
        obtain ⟨old, eq⟩ := streams.poll (u.push packet).interface now
          (u.push packet).virtual_iface.rx_queue (u.push packet).sockets i c
        rw [empty] at eq
        exact (List.append_eq_nil_iff.mp eq).2
    · exact absurd gen new

/-- What happens to the bytes of a TCP socket when an event is handled. -/
theorem Outcome.tcp_pours (spec : S.Spec) {t t' : TcpStack S} {e : OperationEvent}
    (outcome : Outcome t e t') {i : ℕ} {c' : S.Tcp} (hc' : t'.tcp_at i = some c') :
    ∃ c, t.tcp_at i = some c ∧ S.tcp.Pours e.result_tx c c' := by
  rcases outcome.socket_at (tcp_at_eq_some.mp hc') with h | ⟨s, memory, a, hs, serves⟩ |
    ⟨c, hs, heq⟩
  · exact ⟨c', tcp_at_eq_some.mpr h, .kept _ rfl⟩
  · cases serves with
    | @write handle buffer tx c can_send =>
      refine ⟨c, tcp_at_eq_some.mpr hs, ?_⟩
      have sends := spec.send_slice_buffers c (t.memory buffer).as_slice
      cases hres : (S.tcp.send_slice c (t.memory buffer).as_slice).2 with
      | ok n => exact .wrote tx rfl _ (sends.ok n hres).2
      | error err => exact .kept _ (sends.error err hres)
    | @read handle buffer tx c queued =>
      exact ⟨c, tcp_at_eq_some.mpr hs, .kept _ (spec.recv_slice_buffers c _).tx_buffer⟩
  · cases heq
    exact ⟨c, tcp_at_eq_some.mpr hs, .kept _ (spec.close_buffer c).2.1⟩

end TcpStack

namespace System

/-- What a step does to the bytes of a TCP socket that is there after it. -/
theorem tcp_pours_of_step (spec : S.Spec) (streams : S.Streams) {s s' : System S} {a : Action}
    (h : s.step a = some s') {hd : SocketHandle} {c' : S.Tcp} (is : s'.stack.IsTcp hd c') :
    (s.stack.socket_set.gen hd.index ≠ some hd.incarnation ∧ s.cause a = none ∧
      S.tcp.tx_buffer c' = []) ∨
    ∃ c, s.stack.IsTcp hd c ∧ S.tcp.Pours (s.cause a) c c' := by
  cases stack_step h with
  | began packet now batch res action ok =>
    subst action
    have begins := begin_drive_cases ok
    rcases begins.tcp_pours streams is.1 is.2 with new | ⟨hg, c, hc, pours⟩
    · exact .inl ⟨new, rfl, begins.tx_of_new streams is.1 is.2 new⟩
    · exact .inr ⟨c, ⟨hg, hc⟩, pours⟩
  | handled e action next ok =>
    subst action
    obtain ⟨c, hc, pours⟩ := (handle_outcome ok).tcp_pours spec is.2
    have cause : s.cause .event = e.result_tx := by rw [cause, next]; rfl
    rcases (handle_outcome ok).gen hd.index with same | ⟨-, gone⟩
    · exact .inr ⟨c, ⟨same ▸ is.1, hc⟩, cause ▸ pours⟩
    · exact absurd (gone.symm.trans is.1) (by simp)
  | outside socket_set socket_handles accepted_udp_sockets rx_queue =>
    refine .inr ⟨c', ?_, .kept _ rfl⟩
    rwa [IsTcp, TcpStack.tcp_at, TcpStack.socket_at, socket_set] at is

/-- What was put into the transmit buffer of a socket has left it, or is there behind. -/
structure Poured (s : System S) (r : Record) : Prop where
  fresh : ∀ h : SocketHandle, s.stack.socket_set.next ≤ h.incarnation → r.changes h = []
  tcp : ∀ h c, s.stack.IsTcp h c → Conserved (r.put h) (r.drained h) (S.tcp.tx_buffer c)
  /-- This is so for a socket that was removed, too, but for what it had not sent. -/
  any : ∀ h, r.drained h <+: r.put h

/-- Nothing was put anywhere at first. -/
theorem poured_new (size : ℕ) (interface : S.Interface) : Poured (new size interface) .empty where
  fresh h _ := rfl
  tcp h c is := by simp [IsTcp, new, TcpStack.new, TcpStack.tcp_at, TcpStack.socket_at] at is
  any h := List.prefix_refl _

/-- What was put into a transmit buffer has left it or is there after a step, too. -/
theorem Poured.tcp_step (spec : S.Spec) (streams : S.Streams) {s s' : System S} {a : Action}
    {r : Record} (poured : Poured s r) (h : s.step a = some s') {hd : SocketHandle} {c' : S.Tcp}
    (is : s'.stack.IsTcp hd c') : Conserved ((r.note s a s').put hd) ((r.note s a s').drained hd)
      (S.tcp.tx_buffer c') := by
  have after : s'.stack.buffers hd = some (S.buffers (.tcp c')) := is.buffers
  rw [Record.put_note, Record.drained_note, Change.put, Change.drained, after]
  dsimp only [Smoltcp.buffers, Buffers.unsent]
  rcases tcp_pours_of_step spec streams h is with ⟨new, cause, empty⟩ | ⟨c, was, pours⟩
  · -- The socket is new, and has no record.
    have none : s.stack.buffers hd = none := buffers_eq_none.mpr new
    have changes : r.changes hd = [] := by
      refine poured.fresh hd (Nat.le_of_not_lt fun old => new ?_)
      have ownership := ownership_of_effect (effect_of_steps (steps_of_step h))
      exact (gen_of_ownership ownership old is.1).1
    simp [cause, Record.put, Record.drained, changes, none, empty, Conserved]
  · have conserved := poured.tcp hd c was
    rw [was.buffers]
    dsimp only [Smoltcp.buffers, Buffers.unsent]
    cases pours with
    | wrote id some data eq =>
      rw [if_neg (by simp [some]), if_neg (by simp [some]), eq, gained_append, List.append_nil]
      exact conserved.put data
    | drained none old eq =>
      rw [if_pos none, if_pos none, eq, lost_append, List.append_nil]
      rw [eq] at conserved
      exact conserved.get

/-- A step keeps the record of what was put and what left. -/
theorem Poured.step (spec : S.Spec) (streams : S.Streams) {s s' : System S}
    {a : Action} {r : Record}
    (poured : Poured s r) (h : s.step a = some s') : Poured s' (r.note s a s') where
  fresh hd new := by
    have next := next_le_of_ownership (ownership_of_effect (effect_of_steps (steps_of_step h)))
    have gone : ∀ t : TcpStack S, t.socket_set.next ≤ hd.incarnation → t.buffers hd = none :=
      fun t le => buffers_eq_none.mpr fun live => absurd (Arena.gen_lt_next live) (by omega)
    simp [Record.note, poured.fresh hd (next.trans new), gone _ new, gone _ (next.trans new)]
  tcp hd c is := poured.tcp_step spec streams h is
  any hd := by
    by_cases live : ∃ c, s'.stack.IsTcp hd c
    · obtain ⟨c, is⟩ := live
      exact (poured.tcp_step spec streams h is).prefix_put
    · -- Nothing leaves a buffer that is not there.
      have nothing :
          (Change.mk (s.cause a) (s.stack.buffers hd) (s'.stack.buffers hd)).drained = [] := by
        rw [Change.drained]
        split
        · rename_i rx tx fin after
          obtain ⟨gen, socket, hs, eq⟩ := buffers_eq_some.mp after
          cases socket with
          | tcp c => exact absurd ⟨c, gen, tcp_at_eq_some.mpr hs⟩ live
          | udp u => cases eq
        · rfl
      rw [Record.put_note, Record.drained_note, nothing, List.append_nil]
      exact (poured.any hd).trans (List.prefix_append _ _)

/-- In every run the record of what was put agrees with the transmit buffers. -/
theorem poured_of_run (spec : S.Spec) (streams : S.Streams) {size : ℕ} {interface : S.Interface}
    {guard : System S × Record → Action → Prop} {s : System S} {r : Record}
    (run : Run (recording step Record.note) guard (new size interface, .empty) (s, r)) :
    Poured s r := by
  refine run.invariant (I := fun p => Poured p.1 p.2) (poured_new size interface)
    fun p a q _ _ h poured => ?_
  obtain ⟨step, note⟩ := recording_eq_some.mp h
  rw [note]
  exact poured.step spec streams step

end System

/-! ## What the answers say -/

/-- The bytes of its buffer that the caller of a write learns were written. -/
def IoBuf.write_data (buf : IoBuf) : Answer → Bytes
  | .ok (.len n) => buf.as_slice.take n
  | _ => []

/-- The bytes that an answer says were written, if it is for a write on the stream with the handle
`h`. -/
def Record.accepts (r : Record) (h : SocketHandle) (a : ResultTx × Answer) : Bytes :=
  match r.calls[a.1]? with
  | some (.write stream buf) => if stream.handle = h then buf.write_data a.2 else []
  | _ => []

/-- The event is a Write. -/
def OperationEvent.writes : OperationEvent → Bool
  | write .. => true
  | _ => false

/-- The call is one of `write`. -/
def Call.writes : Call → Bool
  | write .. => true
  | _ => false

/-- The event of a call writes if the call does. -/
theorem Call.event_writes (c : Call) (id : ℕ) : (c.event id).writes = c.writes := by
  cases c <;> rfl

namespace System

/-- What the writes on a stream were told that they have written, in the order of their answers. -/
def accepted (s : System S) (r : Record) (h : SocketHandle) : Bytes :=
  s.stack.answers.flatMap (r.accepts h)

/-- A request that is declined writes nothing. -/
theorem accepts_of_declines {r : Record} {a : ResultTx × Answer} {c : Call}
    (call : r.calls[a.1]? = some c) (declines : Declines (c.event a.1) a) (h : SocketHandle) :
    r.accepts h a = [] := by
  cases c with
  | write stream buf =>
    obtain ⟨err, herr⟩ := declines.2 rfl
    simp [Record.accepts, call, herr, IoBuf.write_data]
  | _ => simp [Record.accepts, call]

/-- What an answer says does not change. -/
theorem Faithful.accepts_note {s s' : System S} {a : Action} {r : Record} (faithful : Faithful s r)
    {ans : ResultTx × Answer} (ha : ans ∈ s.stack.answers) (h : SocketHandle) :
    (r.note s a s').accepts h ans = r.accepts h ans := by
  obtain ⟨c, hc, -⟩ := faithful.answered ans.1 ans.2 ha
  simp only [Record.accepts, hc, call_note hc]

/-- The writes on every stream were told what requests put into its transmit buffer. -/
def Accepted (s : System S) (r : Record) : Prop := ∀ h, s.accepted r h = r.put h

/-- The answer to a served request tells the writer what the request put into its socket. -/
theorem accepts_of_serves (spec : S.Spec) {s s' : System S} {r : Record} {a : Action}
    {tx : ℕ} {c' : Call} {ans : Answer} {s₀ s₁ : S.Socket} {memory : BufferId → IoBuf}
    (own : c'.writes = true → s.stack.socket_set.gen (c'.event tx).index =
      some c'.handle.handle.incarnation)
    (hc' : r.calls[tx]? = some c') (buffer : s.stack.memory tx = c'.buf)
    (socket : s.stack.socket_at (c'.event tx).index = some s₀)
    (serves : s.stack.Serves (c'.event tx) s₀ s₁ memory ans)
    (set : s'.stack.socket_set = (s.stack.put (c'.event tx).index s₁).socket_set)
    (hd : SocketHandle) : (r.note s a s').accepts hd (tx, ans) =
      gained (Buffers.unsent (s.stack.buffers hd)) (Buffers.unsent (s'.stack.buffers hd)) := by
  obtain ⟨g, hg, before, after⟩ := buffers_of_served socket s₁
  have after : s'.stack.buffers hd =
      if hd = ⟨(c'.event tx).index, g⟩ then some (S.buffers s₁) else s.stack.buffers hd := by
    rw [buffers_of_socket_set set]
    exact after hd
  -- A request that is no Write puts nothing into the buffer.
  have nothing : Buffers.unsent (some (S.buffers s₁)) = Buffers.unsent (some (S.buffers s₀)) →
      gained (Buffers.unsent (s.stack.buffers hd)) (Buffers.unsent (s'.stack.buffers hd)) = [] := by
    intro same
    rw [after]
    split_ifs with slot
    · rw [slot, before, same, gained_self]
    · exact gained_self _
  cases c' with
  | write stream buf =>
    cases serves with
    | @write _ _ _ c can_send =>
      obtain rfl : g = stream.handle.incarnation := Option.some.inj (hg.symm.trans (own rfl))
      have slot : (⟨(Call.event tx (.write stream buf)).index, stream.handle.incarnation⟩ :
          SocketHandle) = stream.handle := rfl
      rw [slot] at after before
      simp only [Record.accepts, call_note hc']
      rw [after]
      by_cases mine : stream.handle = hd
      · rw [if_pos mine, if_pos mine.symm, ← mine, before]
        dsimp only [Smoltcp.buffers, Buffers.unsent]
        have memory : s.stack.memory tx = buf := buffer
        rw [memory]
        have sends := spec.send_slice_buffers c buf.as_slice
        cases hres : (S.tcp.send_slice c buf.as_slice).2 with
        | ok n =>
          rw [(sends.ok n hres).2, gained_append]
          rfl
        | error err =>
          rw [sends.error err hres, gained_self]
          cases err <;> rfl
      · rw [if_neg mine, if_neg (Ne.symm mine), gained_self]
  | read stream buf =>
    cases serves with
    | @read _ _ _ c queued =>
      rw [nothing (spec.recv_slice_buffers c _).tx_buffer]
      simp [Record.accepts, call_note hc']
  | shutdown stream => cases serves
  | recv socket buf =>
    cases serves with
    | recv can_recv =>
      rw [nothing rfl]
      simp [Record.accepts, call_note hc']
  | send socket buf addr =>
    cases serves with
    | send can_send =>
      rw [nothing rfl]
      simp [Record.accepts, call_note hc']

/-- What a step adds to what the writers are told is what it puts into the buffers. -/
theorem Accepted.step (spec : S.Spec) {s s' : System S} {a : Action} {r : Record}
    (accepted : Accepted s r) (faithful : Faithful s r) (h : s.step a = some s')
    (own : ∀ e, s.next_event = some e → e.writes = true →
      s.stack.socket_set.gen e.index = some e.handle.handle.incarnation) :
    Accepted s' (r.note s a s') := by
  intro hd
  rw [Record.put_note, ← accepted hd, Change.put]
  have old : s.stack.answers.flatMap ((r.note s a s').accepts hd) = s.accepted r hd :=
    List.flatMap_congr fun ans ha => faithful.accepts_note ha hd
  -- Answers that decline their requests.
  have silent : ∀ {pool}, Silent s.stack pool s'.stack → (∀ e ∈ pool, e ∈ s.pending) →
      s'.accepted (r.note s a s') hd = s.accepted r hd := by
    intro pool silent hpool
    obtain ⟨new, answers, declines⟩ := silent.answers
    rw [System.accepted, answers, List.flatMap_append, old]
    refine (congrArg (_ ++ ·) (List.flatMap_eq_nil_iff.mpr fun ans ha => ?_)).trans
      (List.append_nil _)
    obtain ⟨e, he, hdec⟩ := declines ans ha
    obtain ⟨c, hc, rfl⟩ := faithful.tracked.event e (hpool e he) ans.1 hdec.1
    exact accepts_of_declines (call_note hc s a s') hdec hd
  cases traffic_of_step spec h with
  | silent quiet cause issues issued =>
    rw [silent quiet mem_pending_of_stack, if_pos cause, List.append_nil]
  | called c cause issues connected eq =>
    rw [if_pos cause, List.append_nil, ← old, eq]
    rfl
  | handled e action next dealt cause issues issued =>
    have pending := mem_pending_of_next next
    cases dealt with
    | silent quiet buffers =>
      rw [silent quiet (mem_pending_of_handled next)]
      rcases buffers hd with same | ⟨none, -⟩
      · rw [same, gained_self, ite_self, List.append_nil]
      · rw [if_pos (cause.trans none), List.append_nil]
    | eof handle buffer tx c event found socket drained shut eq =>
      have same : s'.stack.buffers hd = s.stack.buffers hd := by rw [eq]; rfl
      have answers : s'.stack.answers = s.stack.answers ++ [(tx, .ok (.len 0))] := by rw [eq]; rfl
      obtain ⟨c', hc', heq⟩ := faithful.tracked.event e pending tx (by rw [event]; rfl)
      -- A Read says nothing to a writer.
      have nothing : (r.note s a s').accepts hd (tx, .ok (.len 0)) = [] := by
        rw [event] at heq
        cases c' <;> cases heq
        simp [Record.accepts, call_note hc']
      rw [System.accepted, answers, List.flatMap_append, old, same, gained_self, ite_self,
        List.flatMap_singleton, nothing]
    | served tx ans s₀ s₁ memory result_tx found socket serves eq =>
      obtain ⟨c', hc', rfl⟩ := faithful.tracked.event e pending tx result_tx
      have answers : s'.stack.answers = s.stack.answers ++ [(tx, ans)] := by rw [eq]; rfl
      have unanswered := faithful.tracked.not_answered pending result_tx
      rw [System.accepted, answers, List.flatMap_append, old, List.flatMap_singleton,
        if_neg (by rw [cause, result_tx]; simp)]
      refine congrArg (_ ++ ·) (accepts_of_serves spec (fun writes => ?_) hc'
        (faithful.unanswered tx c' hc' unanswered).2 socket serves (by rw [eq]; rfl) hd)
      rw [← c'.event_handle tx]
      exact own _ next (by rwa [c'.event_writes])

/-! ## The callers -/

/-- No future of a `write` is dropped before the call returns. -/
def KeepsWrites (p : System S × Record) (a : Action) : Prop :=
  ∀ rx ∈ a.drops, ∀ c ∈ p.2.calls[rx]?, c.writes = false

instance (p : System S × Record) (a : Action) : Decidable (KeepsWrites p a) :=
  inferInstanceAs (Decidable (∀ rx ∈ a.drops, ∀ c ∈ p.2.calls[rx]?, c.writes = false))

/-- What holds when the callers of `write` wait. -/
structure Writing (s : System S) (r : Record) : Prop where
  held : Held s
  /-- The caller of a Write that is not answered is still waiting. -/
  waiting : ∀ e ∈ s.pending, e.writes = true → ∀ id, e.result_tx = some id →
    ⟨e.handle, id⟩ ∈ s.futures
  accepted : Accepted s r

/-- A Write finds its own socket. -/
theorem Writing.own {s : System S} {r : Record} (writing : Writing s r) (sound : Sound s)
    {e : OperationEvent} (he : e ∈ s.pending) (writes : e.writes = true) :
    s.stack.socket_set.gen e.index = some e.handle.handle.incarnation := by
  obtain ⟨id, hid⟩ : ∃ id, e.result_tx = some id := by
    cases e <;> simp_all [OperationEvent.writes, result_tx]
  have held := writing.held _ (writing.waiting e he writes id hid)
  exact (sound.owned.refers _ (mem_owners_of_streams held)).1

/-- In every run in which no writer leaves, the callers of `write` wait. -/
theorem writing_of_run (spec : S.Spec) {size : ℕ} {interface : S.Interface} {s : System S}
    {r : Record}
    (run : Run (recording step Record.note) KeepsWrites (new size interface, .empty) (s, r)) :
    Writing s r := by
  refine run.invariant (I := fun p => Writing p.1 p.2) ⟨?_, ?_, fun h => rfl⟩ ?_
  · simp [Held, new]
  · have pending : (new size interface).pending = 0 := rfl
    simp [pending]
  · rintro ⟨s, r⟩ a q run guard h writing
    obtain ⟨step, note⟩ := recording_eq_some.mp h
    rw [note]
    have faithful := faithful_of_run spec run
    have sound := sound_of_run run.of_recording
    refine ⟨writing.held.step step, fun e he writes id hid => ?_,
      writing.accepted.step spec faithful step fun e next => writing.own sound
        (mem_pending_of_next next)⟩
    by_cases dropped : a = .drop_future id
    · -- The caller of a Write does not leave, so the request was no Write.
      subst dropped
      have effect := effect_of_steps (steps_of_step step)
      cases traffic_of_step spec step with
      | silent silent cause issues issued =>
        have was := request_of_pending effect issued he hid
        obtain ⟨c, hc, rfl⟩ := faithful.tracked.event e was id hid
        rw [c.event_writes, guard id rfl c hc] at writes
        cases writes
      | handled e action => cases action
      | called c cause issues => cases issues
    · exact future_of_step spec faithful.tracked step he hid dropped fun was =>
        writing.waiting e was writes id hid

/-- In every run in which no future of a `write` is dropped before its call returns, the writes on a
stream are told the truth about one stream of bytes: what has left the transmit buffer of the
socket, at its front, and what is still there are together the bytes that the writes were answered
for, in the order of their answers. None is lost, none comes twice, none comes from another stream's
writes. When the socket is gone, what had left it comes first in what the writes were answered for.
-/
theorem written_in_order (spec : S.Spec) (streams : S.Streams) {size : ℕ} {interface : S.Interface}
    {s : System S} {r : Record}
    (run : Run (recording step Record.note) KeepsWrites (new size interface, .empty) (s, r)) :
    (∀ h c, s.stack.IsTcp h c → s.accepted r h = r.drained h ++ S.tcp.tx_buffer c) ∧
    (∀ h, .tcp h ∈ s.streams → ∃ c, s.stack.IsTcp h c) ∧ ∀ h, r.drained h <+: s.accepted r h := by
  have poured := poured_of_run spec streams run
  have writing := writing_of_run spec run
  have sound := sound_of_run run.of_recording
  refine ⟨fun h c is => ?_, fun h held => ?_, fun h => ?_⟩
  · rw [writing.accepted h]
    exact poured.tcp h c is
  · have refers := sound.owned.refers _ (mem_owners_of_streams held)
    obtain ⟨c, hc⟩ := tcp_of_kind refers.2
    exact ⟨c, refers.1, tcp_at_eq_some.mpr hc⟩
  · rw [writing.accepted h]
    exact poured.any h

open Reference in
/-- Two writes on one stream, of which the peer acknowledges the first. -/
def two_writes : List Action := [
  .start (some (syn 1 2)) 0 none, .finish, .start (some (ack 1 2 [])) 0 none, .finish,
  .generate, .start none 0 (some 0), .event, .finish, .accept_tcp,
  .call (.write ⟨⟨0, 0⟩, client_addr 1, server_addr 2⟩ ⟨[1, 2, 3], 3⟩), .generate,
  .start none 0 (some 0), .event, .finish, .start (some (ack 1 2 [])) 0 none, .finish,
  .call (.write ⟨⟨0, 0⟩, client_addr 1, server_addr 2⟩ ⟨[4], 1⟩), .generate,
  .start none 0 (some 0), .event, .finish]

/-- What the peer acknowledged is what the first write wrote, and the rest is still to be sent. -/
theorem written_in_order_two : ∃ (s : System reference) (r : Record) (c : reference.Tcp),
    Run (recording step Record.note) KeepsWrites (new 64 (), .empty) (s, r) ∧
    s.stack.IsTcp ⟨0, 0⟩ c ∧ r.drained ⟨0, 0⟩ = [1, 2, 3] ∧ s.accepted r ⟨0, 0⟩ = [1, 2, 3, 4] ∧
    reference.tcp.tx_buffer c = [4] := by
  obtain ⟨⟨s, r⟩, hs, ht⟩ := exists_of_execIf_any (recording step Record.note)
    ((new 64 () : System reference), Record.empty) (fun p a => decide (KeepsWrites p a)) two_writes
    (fun p => p.2.drained ⟨0, 0⟩ = [1, 2, 3] ∧ p.1.accepted p.2 ⟨0, 0⟩ = [1, 2, 3, 4] ∧
      .tcp ⟨0, 0⟩ ∈ p.1.streams)
    (by decide +kernel)
  obtain ⟨drained, accepted, held⟩ := of_decide_eq_true ht
  have run : Run (recording step Record.note) KeepsWrites (new 64 (), .empty) (s, r) :=
    Run.of_execIf (fun _ _ => of_decide_eq_true) hs
  obtain ⟨whole, live, -⟩ := written_in_order reference_spec reference_streams run
  obtain ⟨c, is⟩ := live _ held
  have parts := whole _ c is
  rw [accepted, drained] at parts
  exact ⟨s, r, c, run, is, drained, accepted, by simpa using parts.symm⟩

end System

end L3Extract
