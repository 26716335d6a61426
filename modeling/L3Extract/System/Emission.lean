import L3Extract.Smoltcp.Reference
import L3Extract.Stack.Datagrams
import L3Extract.System.Packets
import L3Extract.System.Received

/-!
# Datagrams on their way out

A Send is answered when smoltcp has queued its datagram, and the next poll sends it, unless it does
not go out in one packet (`Datagram.fits`): smoltcp drops a datagram that is larger than the device
can send, although its Send was answered `Ok` (`too_long_to_send`). A Close discards what its socket
still has to send. `sent_before_close` says that this is nothing: a batch's Closes are handled
before its Sends, and before them comes the poll.

Beside the record of a run stands the list of all packets that were put into the transmit queue of
the virtual interface.
-/

namespace L3Extract

open OperationEvent Transition TcpStack Flow

variable {S : Smoltcp} {carries : Datagram → Packet → Prop}

/-! ## Reading the record -/

/-- The datagrams that a UDP socket has to send. -/
def Buffers.sending : Option Buffers → List Datagram
  | some (.udp _ tx) => tx
  | _ => []

/-- What a request queued to be sent. -/
def Change.sends (ch : Change) : List (ResultTx × Datagram) :=
  match ch.cause with
  | some id => (gained (Buffers.sending ch.before) (Buffers.sending ch.after)).map fun d => (id, d)
  | none => []

/-- All datagrams that requests queued at a socket, with the requests. -/
def Record.sends (r : Record) (h : SocketHandle) : List (ResultTx × Datagram) :=
  (r.changes h).flatMap Change.sends

/-- What is queued in a step comes after what was queued before. -/
theorem Record.sends_note (r : Record) (s : System S) (a : Action) (s' : System S)
    (h : SocketHandle) : (r.note s a s').sends h = r.sends h ++
      (Change.mk (s.cause a) (s.stack.buffers h) (s'.stack.buffers h)).sends := by
  simp only [sends, note, List.flatMap_append]
  split_ifs with heq
  · have none : (Change.mk (s.cause a) (s.stack.buffers h) (s'.stack.buffers h)).sends = [] := by
      cases hc : s.cause a <;> simp [Change.sends, heq]
    rw [none]
    rfl
  · simp

/-- A change that leaves what is to be sent, or that no request makes, queues nothing. -/
theorem Change.sends_of_same {ch : Change}
    (same : ch.cause = none ∨ gained (Buffers.sending ch.before) (Buffers.sending ch.after) = []) :
    ch.sends = [] := by
  unfold Change.sends
  cases hc : ch.cause with
  | none => rfl
  | some id =>
    rcases same with none | same
    · rw [hc] at none
      cases none
    · simp [same]

/-- What a change queues, without the request. -/
theorem Change.map_sends {ch : Change} (id : ResultTx) (cause : ch.cause = some id) :
    ch.sends.map Prod.snd = gained (Buffers.sending ch.before) (Buffers.sending ch.after) := by
  rw [sends, cause, List.map_map]
  exact List.map_id _

/-- The Send that is answered has queued its datagram at a socket. -/
theorem mem_sends_of_moved {r : Record} {id : ResultTx} {rx tx : List Datagram} {d : Datagram}
    (moved : r.Moved id (.udp rx tx) (.udp rx (tx ++ [d]))) : ∃ h, (id, d) ∈ r.sends h := by
  obtain ⟨h, done⟩ := moved
  have once := done h
  rw [if_pos ⟨rfl, by simp⟩] at once
  have mem : (some (.udp rx tx), some (.udp rx (tx ++ [d]))) ∈ r.done id h := by
    rw [once]
    exact List.mem_singleton_self _
  obtain ⟨ch, hch, hd⟩ := List.mem_filterMap.mp mem
  split_ifs at hd with cause
  obtain ⟨before, after⟩ := Prod.mk.inj (Option.some.inj hd)
  refine ⟨h, List.mem_flatMap.mpr ⟨ch, hch, ?_⟩⟩
  simp [Change.sends, cause, before, after, Buffers.sending]

namespace TcpStack

/-! ## What a poll sends -/

/-- The size of the largest packet that the device sends. -/
def mtu (t : TcpStack S) : ℕ := S.max_transmission_unit t.interface

/-- Of the datagrams, those that go out in one packet have been put into a list of packets, in order
and each in a packet of its own. -/
def Sent (carries : Datagram → Packet → Prop) (mtu : ℕ) (datagrams : List Datagram)
    (packets : List Packet) : Prop :=
  List.SublistForall₂ carries (datagrams.filter (·.fits mtu)) packets

/-- No datagrams need no packets. -/
theorem Sent.nil {mtu : ℕ} {packets : List Packet} : Sent carries mtu [] packets :=
  List.SublistForall₂.nil

/-- More packets may follow. -/
theorem Sent.log {mtu : ℕ} {datagrams : List Datagram} {packets : List Packet}
    (sent : Sent carries mtu datagrams packets) (more : List Packet) :
    Sent carries mtu datagrams (packets ++ more) :=
  sublistForall₂_log sent more

/-- Datagrams one list after the other are sent so. -/
theorem Sent.append {mtu : ℕ} {datagrams datagrams' : List Datagram}
    {packets packets' : List Packet} (sent : Sent carries mtu datagrams packets)
    (sent' : Sent carries mtu datagrams' packets') :
    Sent carries mtu (datagrams ++ datagrams') (packets ++ packets') := by
  rw [Sent, List.filter_append]
  exact sublistForall₂_append sent sent'

/-- Before `drive_once` comes to its events, what there is to be sent goes into the transmit queue.
-/
theorem Begins.emits (emits : S.Emits carries) {t t' : TcpStack S} {packet : Option Packet}
    {now : ℕ} (begins : Begins t packet now t' (.ok ())) :
    ∃ sent, t'.virtual_iface.tx_queue = t.virtual_iface.tx_queue ++ sent ∧
      ∀ i u, t.udp_at i = some u → Sent carries t.mtu (S.udp.tx_buffer u) sent := by
  obtain ⟨v, prepares, rfl⟩ := begins.prepares
  refine ⟨((v.push packet).poll_result now).sent, ?_, fun i u slot => ?_⟩
  · rw [(wakes_poll (v.push packet) now).virtual_iface, ← prepares.virtual_iface]
    rfl
  · have inside : Slots.get (v.push packet).sockets i = some (.udp u) := by
      rw [get_sockets]
      exact prepares.socket_at (udp_at_eq_some.mp slot)
    obtain ⟨ps, sublist, carried⟩ := emits.poll_sent v.interface now
      (v.push packet).virtual_iface.rx_queue _ i u inside
    rw [prepares.interface] at carried
    exact List.sublistForall₂_iff.mpr ⟨ps, carried, sublist⟩

/-- `drive_once` keeps the size of the largest packet. -/
theorem Begins.mtu (emits : S.Emits carries) {t t' : TcpStack S} {packet : Option Packet}
    {now : ℕ} {res : Except DriveError Unit} (begins : Begins t packet now t' res) :
    t'.mtu = t.mtu := by
  have poll : ∀ u : TcpStack S, u.interface = t.interface →
      ((u.push packet).poll now).mtu = t.mtu := by
    intro u same
    rw [TcpStack.mtu, (wakes_poll (u.push packet) now).interface]
    exact (emits.poll_max_transmission_unit _ _ _ _).trans (congrArg S.max_transmission_unit same)
  cases begins with
  | failed => rfl
  | unready arrived opens adds => rw [TcpStack.mtu, adds.interface, TcpStack.mtu]
  | polled quiet => exact poll t rfl
  | opened arrived opens adds => exact poll _ adds.interface

/-- After a poll no UDP socket has anything to send. -/
theorem Begins.sent (flushes : S.Flushes) {t t' : TcpStack S}
    {packet : Option Packet} {now : ℕ} (begins : Begins t packet now t' (.ok ())) :
    t'.EachUdp fun u => S.udp.tx_buffer u = [] := by
  intro i u' slot
  obtain ⟨u, -, ⟨error, -⟩ | ⟨interface, now, packets, sockets, there⟩⟩ := begins.udp_from slot
  · exact absurd rfl error
  · exact flushes.poll_tx_buffer _ _ _ _ _ _ there

/-- A poll leaves every UDP socket without datagrams. -/
theorem sent_invariant (emits : S.Emits carries) (flushes : S.Flushes) (spec : S.Spec) :
    UdpInvariant fun u : S.Udp => S.udp.tx_buffer u = [] where
  bind h := emits.bind _ _ _ h
  polled := by
    rintro i u _ ⟨interface, now, packets, sockets, there⟩ -
    exact flushes.poll_tx_buffer _ _ _ _ _ _ there
  recv len sent := by rw [(spec.udp_recv_slice _ len).tx_buffer, sent]

/-- `drive_once` adds a socket before it comes to its events, or keeps the tables. -/
theorem Begins.tables {t t' : TcpStack S} {packet : Option Packet} {now : ℕ}
    {res : Except DriveError Unit} (begins : Begins t packet now t' res) :
    SameTables t t' ∨ ∃ h, Admits t h t' := by
  cases begins with
  | failed => exact .inl (.refl _)
  | unready arrived opens adds => exact .inr ⟨_, adds.admits (.refl _)⟩
  | polled quiet => exact .inl ((same_push _ _).trans (same_poll _ now))
  | opened arrived opens adds =>
    exact .inr ⟨_, adds.admits ((same_push _ _).trans (same_poll _ now))⟩

/-- The socket that the handle was made for is a UDP socket. -/
theorem exists_isUdp {t : TcpStack S} {h : SocketHandle} : (∃ u, t.IsUdp h u) ↔
    t.socket_set.gen h.index = some h.incarnation ∧ t.kind_at h.index = some .udp := by
  constructor
  · rintro ⟨u, gen, slot⟩
    exact ⟨gen, kind_of_udp (udp_at_eq_some.mp slot)⟩
  · rintro ⟨gen, kind⟩
    obtain ⟨u, slot⟩ := udp_of_kind kind
    exact ⟨u, gen, udp_at_eq_some.mpr slot⟩

/-- A UDP socket that is there after a poll is new, or what it had to send is in the transmit
queue. -/
theorem Begins.udp_sent (emits : S.Emits carries) (flushes : S.Flushes) {t t' : TcpStack S}
    {packet : Option Packet} {now : ℕ} (begins : Begins t packet now t' (.ok ()))
    {h : SocketHandle} {u' : S.Udp} (is : t'.IsUdp h u') :
    (t.socket_set.gen h.index ≠ some h.incarnation ∧ S.udp.tx_buffer u' = []) ∨
    ∃ u, t.IsUdp h u ∧ S.udp.tx_buffer u' = [] ∧
      Sent carries t.mtu (S.udp.tx_buffer u)
        (gained t.virtual_iface.tx_queue t'.virtual_iface.tx_queue) := by
  obtain ⟨sent, queue, carried⟩ := begins.emits emits
  have empty := begins.sent flushes h.index u' is.2
  rcases begins.slot is.1 (udp_at_eq_some.mp is.2) with new | ⟨gen, s, hs, becomes⟩
  · exact .inl ⟨new, empty⟩
  · cases s with
    | tcp c => rcases becomes with becomes | ⟨v, becomes⟩ <;> cases becomes
    | udp u =>
      have was := udp_at_eq_some.mpr hs
      refine .inr ⟨u, ⟨gen, was⟩, empty, ?_⟩
      rw [queue, gained_append]
      exact carried h.index u was

/-- What happens to the datagrams that a UDP socket has to send before `drive_once` comes to its
events: they go into the transmit queue, or the call returns an error. -/
theorem Begins.udp_sends (emits : S.Emits carries) (flushes : S.Flushes) {t t' : TcpStack S}
    {packet : Option Packet} {now : ℕ} {res : Except DriveError Unit}
    (begins : Begins t packet now t' res) {h : SocketHandle} {u' : S.Udp} (is : t'.IsUdp h u') :
    (t.socket_set.gen h.index ≠ some h.incarnation ∧ S.udp.tx_buffer u' = []) ∨
    ∃ u, t.IsUdp h u ∧ (S.udp.tx_buffer u' = S.udp.tx_buffer u ∨
      S.udp.tx_buffer u' = [] ∧ Sent carries t.mtu (S.udp.tx_buffer u)
        (gained t.virtual_iface.tx_queue t'.virtual_iface.tx_queue)) := by
  cases begins with
  | failed => exact .inr ⟨u', is, .inl rfl⟩
  | @unready p h' s accepted _ arrived opens adds disconnected protocol =>
    by_cases hi : h.index = h'.handle.index
    · -- The socket is the new one.
      have new : t.socket_set.gen h.index ≠ some h.incarnation := by
        rw [hi, (adds.admits (.refl _)).gen_free]
        simp
      rcases adds.udp_at is.2 with ⟨-, rfl⟩ | ⟨other, -⟩
      · cases opens with
        | udp parsed fresh binds => exact .inl ⟨new, emits.bind _ _ _ binds⟩
      · exact absurd hi other
    · rcases adds.udp_at is.2 with ⟨same, -⟩ | ⟨-, was⟩
      · exact absurd same hi
      · have gen := is.1
        rw [adds.gen, if_neg hi] at gen
        exact .inr ⟨u', ⟨gen, was⟩, .inl rfl⟩
  | polled quiet =>
    exact ((Begins.polled quiet).udp_sent emits flushes is).imp_right
      fun ⟨u, was, sent⟩ => ⟨u, was, .inr sent⟩
  | opened arrived opens adds =>
    exact ((Begins.opened arrived opens adds).udp_sent emits flushes is).imp_right
      fun ⟨u, was, sent⟩ => ⟨u, was, .inr sent⟩

end TcpStack

namespace System

/-! ## Steps -/

/-- The packets that a step puts into the transmit queue. -/
def emitted (s s' : System S) : List Packet :=
  gained s.stack.virtual_iface.tx_queue s'.stack.virtual_iface.tx_queue

/-- A UDP socket is there after a step, unless the step handles a Close of it. -/
theorem isUdp_of_step {s s' : System S} {a : Action} (h : s.step a = some s') {hd : SocketHandle}
    {u : S.Udp} (is : s.stack.IsUdp hd u) : (∃ u', s'.stack.IsUdp hd u') ∨
      ∃ handle, s.next_event = some (.close (.udp handle)) ∧ handle.index = hd.index := by
  obtain ⟨gen, kind⟩ := exists_isUdp.mp ⟨u, is⟩
  have same : SameTables s.stack s'.stack → ∃ u', s'.stack.IsUdp hd u' := fun same =>
    exists_isUdp.mpr ⟨by rw [same.gen, gen], by rw [same.kind, kind]⟩
  cases stack_step h with
  | began packet now batch res action ok =>
    rcases (begin_drive_cases ok).tables with kept | ⟨h', admits⟩
    · exact .inl (same kept)
    · have hi : hd.index ≠ h'.handle.index := fun hi => by
        -- The new socket is in a slot that was free.
        rw [hi, admits.gen_free] at gen
        cases gen
      refine .inl (exists_isUdp.mpr ⟨?_, ?_⟩)
      · rw [admits.gen, if_neg hi, gen]
      · rw [admits.kind, if_neg hi, kind]
  | handled e action next ok =>
    rcases (handle_outcome ok).tables with kept | ⟨h', rfl, removes⟩
    · exact .inl (same kept)
    by_cases hi : hd.index = h'.handle.index
    · have was := removes.was
      rw [← hi, kind] at was
      cases h' with
      | tcp handle => cases was
      | udp handle => exact .inr ⟨handle, next, hi.symm⟩
    · refine .inl (exists_isUdp.mpr ⟨?_, ?_⟩)
      · rw [removes.gen, if_neg hi, gen]
      · rw [removes.kind, if_neg hi, kind]
  | outside socket_set socket_handles accepted_udp_sockets rx_queue =>
    exact .inl ⟨u, by rwa [IsUdp, TcpStack.udp_at, TcpStack.socket_at, socket_set]⟩

/-- Polls keep the size of the largest packet, and nothing else changes it. -/
theorem mtu_of_step (emits : S.Emits carries) {s s' : System S} {a : Action}
    (h : s.step a = some s') : s'.stack.mtu = s.stack.mtu := by
  cases stack_step h with
  | began packet now batch res action ok => exact (begin_drive_cases ok).mtu emits
  | handled e action next ok => rw [mtu, (handle_outcome ok).device.1, mtu]
  | outside socket_set socket_handles accepted_udp_sockets rx_queue interface =>
    rw [mtu, interface, mtu]

/-- What a step does to the datagrams that a UDP socket has to send. -/
theorem udp_sends_of_step (spec : S.Spec) (emits : S.Emits carries) (flushes : S.Flushes)
    {s s' : System S} {a : Action} (h : s.step a = some s') {hd : SocketHandle} {u' : S.Udp}
    (is : s'.stack.IsUdp hd u') :
    (s.stack.socket_set.gen hd.index ≠ some hd.incarnation ∧ s.cause a = none ∧
      S.udp.tx_buffer u' = []) ∨
    ∃ u, s.stack.IsUdp hd u ∧
      ((∃ new, S.udp.tx_buffer u' = S.udp.tx_buffer u ++ new ∧ (s.cause a = none → new = [])) ∨
      s.cause a = none ∧ S.udp.tx_buffer u' = [] ∧
        Sent carries s.stack.mtu (S.udp.tx_buffer u) (emitted s s')) := by
  cases stack_step h with
  | began packet now batch res action ok =>
    subst action
    rcases (begin_drive_cases ok).udp_sends emits flushes is with ⟨new, empty⟩ |
      ⟨u, was, same | ⟨empty, carried⟩⟩
    · exact .inl ⟨new, rfl, empty⟩
    · exact .inr ⟨u, was, .inl ⟨[], by rw [same, List.append_nil], fun _ => rfl⟩⟩
    · exact .inr ⟨u, was, .inr ⟨rfl, empty, carried⟩⟩
  | handled e action next ok =>
    subst action
    have cause : s.cause .event = e.result_tx := by rw [cause, next]; rfl
    obtain ⟨u, new, was, eq, none⟩ := (handle_outcome ok).udp_queues spec is.2
    rcases (handle_outcome ok).gen hd.index with same | ⟨-, gone⟩
    · exact .inr ⟨u, ⟨same ▸ is.1, was⟩, .inl ⟨new, eq, cause ▸ none⟩⟩
    · exact absurd (gone.symm.trans is.1) (by simp)
  | outside socket_set socket_handles accepted_udp_sockets rx_queue =>
    refine .inr ⟨u', ?_, .inl ⟨[], (List.append_nil _).symm, fun _ => rfl⟩⟩
    rwa [IsUdp, TcpStack.udp_at, TcpStack.socket_at, socket_set] at is

/-- As long as a call still has a Close, Ready, or Shutdown to handle, no UDP socket has anything to
send. -/
structure Flushed (s : System S) : Prop where
  ordered : ∀ events, s.driving = some events → Ordered events
  sent : ∀ events, s.driving = some events → ∀ e ∈ events, e.deferred = none →
    s.stack.EachUdp fun u => S.udp.tx_buffer u = []

/-- A step keeps this: the poll comes first, and the Sends of a call come last. -/
theorem Flushed.step (spec : S.Spec) (emits : S.Emits carries) (flushes : S.Flushes)
    {s s' : System S} {a : Action} (flushed : Flushed s) (h : s.step a = some s') : Flushed s' := by
  cases call_step h with
  | started packet now batch events batches stack res action rest took ok eq =>
    subst eq
    cases res with
    | error err => exact ⟨by simp [begun], by simp [begun]⟩
    | ok done =>
      refine ⟨fun events hd => ?_, fun _ _ _ _ _ => (begin_drive_cases ok).sent flushes⟩
      cases hd
      exact ordered_passes _
  | handled e events stack action driving ok eq =>
    subst eq
    obtain ⟨later, rest⟩ := List.pairwise_cons.mp (flushed.ordered _ driving)
    refine ⟨fun events' hd => by cases hd; exact rest, fun events' hd e' he' undeferred => ?_⟩
    cases hd
    -- The handled event is not deferred either.
    have first : e.deferred = none := by
      cases hd : e.deferred with
      | none => rfl
      | some p =>
        have := later e' he' (by rw [hd]; rfl)
        rw [undeferred] at this
        cases this
    have each := flushed.sent _ driving e List.mem_cons_self first
    refine each.outcome (sent_invariant emits flushes spec) (handle_outcome ok) ?_
    rintro handle src buffer tx u rfl
    cases first
  | beside driving socket_set =>
    rcases driving with driving | none
    · refine ⟨driving ▸ flushed.ordered, fun events hd e he undeferred i u slot => ?_⟩
      rw [TcpStack.udp_at, TcpStack.socket_at, socket_set] at slot
      exact flushed.sent events (driving ▸ hd) e he undeferred i u slot
    · exact ⟨by simp [none], by simp [none]⟩

/-! ## Runs -/

/-- The record of a run, with the packets that were put into the transmit queue. -/
def note_sent (p : Record × List Packet) (s : System S) (a : Action) (s' : System S) :
    Record × List Packet := (p.1.note s a s', p.2 ++ emitted s s')

/-- What was queued at a UDP socket was put into the transmit queue, or is still to be sent, if the
socket is there. -/
structure Transmitted (carries : Datagram → Packet → Prop) (mtu : ℕ) (s : System S) (r : Record)
    (log : List Packet) : Prop where
  live : ∀ h u, s.stack.IsUdp h u → ∃ got, (r.sends h).map Prod.snd = got ++ S.udp.tx_buffer u ∧
    Sent carries mtu got log
  gone : ∀ h, (¬ ∃ u, s.stack.IsUdp h u) → Sent carries mtu ((r.sends h).map Prod.snd) log

/-- A socket that is no UDP socket, or not there, has nothing to send. -/
theorem sending_of_not_udp {t : TcpStack S} {h : SocketHandle} (no : ¬ ∃ u, t.IsUdp h u) :
    Buffers.sending (t.buffers h) = [] := by
  cases hb : t.buffers h with
  | none => rfl
  | some b =>
    obtain ⟨gen, s, hs, rfl⟩ := buffers_eq_some.mp hb
    cases s with
    | tcp c => rfl
    | udp u => exact absurd ⟨u, gen, udp_at_eq_some.mpr hs⟩ no

/-- What a UDP socket has to send. -/
theorem sending_of_udp {t : TcpStack S} {h : SocketHandle} {u : S.Udp} (is : t.IsUdp h u) :
    Buffers.sending (t.buffers h) = S.udp.tx_buffer u := by
  rw [is.buffers]
  rfl

/-- A step puts what leaves a socket into the log. -/
theorem Transmitted.step (spec : S.Spec) (emits : S.Emits carries) (flushes : S.Flushes)
    {s s' : System S} {a : Action} {r : Record} {log : List Packet} (stored : Stored s r)
    (flushed : Flushed s) (transmitted : Transmitted carries s.stack.mtu s r log)
    (h : s.step a = some s') :
    Transmitted carries s.stack.mtu s' (r.note s a s') (log ++ emitted s s') where
  live hd u' is := by
    rw [Record.sends_note, List.map_append]
    rcases udp_sends_of_step spec emits flushes h is with ⟨new, cause, empty⟩ |
      ⟨u, was, ⟨new, eq, unasked⟩ | ⟨cause, empty, carried⟩⟩
    · -- Nothing was queued at the new socket.
      refine ⟨[], ?_, .nil⟩
      rw [Change.sends_of_same (.inl cause), Record.sends, stored.changes_of_new h is.1 new, empty]
      rfl
    · obtain ⟨got, sends, sent⟩ := transmitted.live hd u was
      refine ⟨got, ?_, sent.log _⟩
      have queued : (Change.mk (s.cause a) (s.stack.buffers hd) (s'.stack.buffers hd)).sends.map
          Prod.snd = new := by
        cases cause : s.cause a with
        | none => rw [Change.sends_of_same (.inl rfl), unasked cause]; rfl
        | some id =>
          rw [Change.map_sends id rfl]
          simp only [sending_of_udp is, sending_of_udp was, eq, gained_append]
      rw [queued, sends, eq, List.append_assoc]
    · obtain ⟨got, sends, sent⟩ := transmitted.live hd u was
      refine ⟨got ++ S.udp.tx_buffer u, ?_, sent.append carried⟩
      rw [Change.sends_of_same (.inl cause), sends, empty]
      simp
  gone hd no := by
    have same : (Change.mk (s.cause a) (s.stack.buffers hd) (s'.stack.buffers hd)).sends = [] := by
      refine Change.sends_of_same (.inr ?_)
      rw [sending_of_not_udp no, gained_nil_right]
    rw [Record.sends_note, same, List.append_nil]
    refine Sent.log ?_ _
    by_cases was : ∃ u, s.stack.IsUdp hd u
    swap
    · exact transmitted.gone hd was
    obtain ⟨u, was⟩ := was
    rcases isUdp_of_step h was with still | ⟨handle, next, -⟩
    · exact absurd still no
    -- The Close comes before the Sends of its batch, and after the poll.
    obtain ⟨events, driving⟩ := driving_of_next next
    have empty := flushed.sent _ driving _ List.mem_cons_self rfl hd.index u was.2
    obtain ⟨got, sends, sent⟩ := transmitted.live hd u was
    rw [sends, empty, List.append_nil]
    exact sent

/-- What holds in every run. -/
theorem transmitted_of_run (spec : S.Spec) (emits : S.Emits carries) (flushes : S.Flushes)
    {size : ℕ} {interface : S.Interface} {guard : System S × Record × List Packet → Action → Prop}
    {s : System S} {r : Record} {log : List Packet}
    (run : Run (recording step note_sent) guard (new size interface, .empty, []) (s, r, log)) :
    Faithful s r ∧ Flushed s ∧ Transmitted carries (S.max_transmission_unit interface) s r log := by
  have recorded : ∀ {p : System S × Record × List Packet},
      Run (recording step note_sent) guard (new size interface, .empty, []) p →
      Run (recording step Record.note) (fun _ _ => True) (new size interface, .empty)
        (p.1, p.2.1) := fun run => run.map_record Prod.fst fun _ _ _ _ => rfl
  refine ⟨faithful_of_run spec (recorded run), ?_⟩
  refine (run.invariant (I := fun p => p.1.stack.mtu = S.max_transmission_unit interface ∧
    Flushed p.1 ∧ Transmitted carries (S.max_transmission_unit interface) p.1 p.2.1 p.2.2) ?_
    fun p a q run _ h ⟨same, flushed, transmitted⟩ => ?_).2
  · refine ⟨rfl, ⟨by simp [new], by simp [new]⟩, fun h u is => ?_, fun h no => .nil⟩
    simp [IsUdp, new, TcpStack.new, TcpStack.udp_at, TcpStack.socket_at] at is
  · obtain ⟨step, noted⟩ := recording_eq_some.mp h
    rw [noted, ← same]
    rw [← same] at transmitted
    exact ⟨mtu_of_step emits step, flushed.step spec emits flushes step,
      transmitted.step spec emits flushes (stored_of_run spec (recorded run)) flushed step⟩

/-- In every run, a Send that is answered `Ok` has queued its datagram at a socket, and when the
socket is gone, or its Close is handled next, then all that was queued at it and goes out in one
packet has been put into the transmit queue, in order and each datagram in a packet of its own. -/
theorem sent_before_close (spec : S.Spec) (emits : S.Emits carries) (flushes : S.Flushes)
    {size : ℕ} {interface : S.Interface} {guard : System S × Record × List Packet → Action → Prop}
    {s : System S} {r : Record} {log : List Packet}
    (run : Run (recording step note_sent) guard (new size interface, .empty, []) (s, r, log)) :
    (∀ (id : ℕ) socket buf addr n, r.calls[id]? = some (.send socket buf addr) →
      (id, .ok (.len n)) ∈ s.stack.answers → ∃ h, (id, (.from addr, buf.as_slice)) ∈ r.sends h) ∧
    ∀ h : SocketHandle, (s.stack.socket_set.gen h.index ≠ some h.incarnation ∨
        ∃ handle, s.next_event = some (.close (.udp handle)) ∧ handle.index = h.index) →
      List.SublistForall₂ carries (((r.sends h).map Prod.snd).filter
        (·.fits (S.max_transmission_unit interface))) log := by
  obtain ⟨faithful, flushed, transmitted⟩ := transmitted_of_run spec emits flushes run
  constructor
  · intro id socket buf addr n call answered
    obtain ⟨-, rx, tx, moved⟩ := faithful.send_ok call answered
    exact mem_sends_of_moved moved
  · intro h closes
    by_cases live : ∃ u, s.stack.IsUdp h u
    swap
    · exact transmitted.gone h live
    obtain ⟨u, is⟩ := live
    obtain ⟨got, sends, sent⟩ := transmitted.live h u is
    rcases closes with gone | ⟨handle, next, hi⟩
    · exact absurd is.1 gone
    · obtain ⟨events, driving⟩ := driving_of_next next
      have empty := flushed.sent _ driving _ List.mem_cons_self rfl h.index u is.2
      rw [sends, empty, List.append_nil]
      exact sent

open Reference in
/-- A datagram opens a socket. Its user sends so many bytes, and drops the socket when the send has
returned. -/
def sent_and_dropped (bytes : Bytes) : List Action := [
  .start (some (udp_packet 1 2 [7])) 0 none, .finish, .generate, .start none 0 (some 0), .event,
  .finish, .accept_udp,
  .call (.send ⟨⟨0, 0⟩, server_addr 2⟩ ⟨bytes, bytes.length⟩ (client_addr 1)), .generate,
  .start none 0 (some 0), .event, .finish, .return_ 0, .drop_udp_socket ⟨⟨0, 0⟩, server_addr 2⟩,
  .generate, .start none 0 (some 0), .event]

open Reference in
/-- 1473 bytes to an IPv4 address make a packet that is larger than the device can send: the Send is
answered `Ok`, the socket is gone, and no packet was ever put into the transmit queue. -/
theorem too_long_to_send : ∃ (s : System reference) (r : Record),
    exec (recording step note_sent)
      ((new 64 (), .empty, []) : System reference × Record × List Packet)
      (sent_and_dropped (List.replicate 1473 8)) = some (s, r, []) ∧
    (0, .ok (.len 1473)) ∈ s.stack.answers ∧ s.stack.socket_set.gen 0 = none ∧
    r.sends ⟨0, 0⟩ = [(0, (.from (client_addr 1), List.replicate 1473 8))] := by
  obtain ⟨⟨s, r, log⟩, hs, ht⟩ := exists_of_exec_any (recording step note_sent)
    ((new 64 (), .empty, []) : System reference × Record × List Packet)
    (sent_and_dropped (List.replicate 1473 8))
    (fun p => (0, .ok (.len 1473)) ∈ p.1.stack.answers ∧ p.1.stack.socket_set.gen 0 = none ∧
      p.2.1.sends ⟨0, 0⟩ = [(0, (.from (client_addr 1), List.replicate 1473 8))] ∧ p.2.2 = [])
    (by decide +kernel)
  obtain ⟨answered, gone, sends, nothing⟩ := of_decide_eq_true ht
  obtain rfl : log = [] := nothing
  exact ⟨s, r, hs, answered, gone, sends⟩

open Reference in
/-- A byte is in the transmit queue when the socket is gone. -/
theorem sent_before_close_dropped : ∃ (s : System reference) (r : Record) (log : List Packet),
    (0, .ok (.len 1)) ∈ s.stack.answers ∧ s.stack.socket_set.gen 0 = none ∧
    r.sends ⟨0, 0⟩ = [(0, (.from (client_addr 1), [8]))] ∧
    List.SublistForall₂ Reference.carries [(.from (client_addr 1), [8])] log := by
  obtain ⟨⟨s, r, log⟩, hs, ht⟩ := exists_of_exec_any (recording step note_sent)
    ((new 64 (), .empty, []) : System reference × Record × List Packet) (sent_and_dropped [8])
    (fun p => (0, .ok (.len 1)) ∈ p.1.stack.answers ∧ p.1.stack.socket_set.gen 0 = none ∧
      p.2.1.sends ⟨0, 0⟩ = [(0, (.from (client_addr 1), [8]))]) (by decide +kernel)
  obtain ⟨answered, gone, sends⟩ := of_decide_eq_true ht
  have sent := (sent_before_close reference_spec reference_emits reference_flushes
    (Run.of_exec hs)).2 ⟨0, 0⟩ (.inl (by rw [gone]; simp))
  rw [show r.sends ⟨0, 0⟩ = _ from sends] at sent
  exact ⟨s, r, log, answered, gone, sends, sent⟩

end System

end L3Extract
