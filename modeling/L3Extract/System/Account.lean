import L3Extract.System.Machine
import L3Extract.Stack.Account

/-!
# The account of the whole system

What one step does to the events that are pending anywhere, to the owners of sockets, and to the
requests. An owner of a socket is a Ready or a Close that is pending, an entry in an acceptor's
channel, or a stream in a user's hands. `ownership_step` says how a step changes which sockets there
are and who owns them, and `pending_step` which events it makes pending.
-/

namespace L3Extract

open OperationEvent Transition TcpStack

variable {S : Smoltcp}

/-- Leaving out some batches leaves out their events. -/
theorem flatten_sublist {batches batches' : List (List OperationEvent)}
    (h : batches.Sublist batches') : batches.flatten.Sublist batches'.flatten := by
  induction h with
  | slnil => exact .refl _
  | cons b _ ih => exact List.sublist_append_of_sublist_right ih
  | cons_cons b _ ih => exact (List.append_sublist_append_left b).mpr ih

namespace System

/-- The owners of sockets. -/
def owners (s : System S) : Multiset TypedSocketHandle :=
  s.pending.filterMap owner + ↑s.infos + ↑s.streams

/-- The requests that are pending, and those that were answered. -/
def requests (s : System S) : Multiset ResultTx :=
  s.stack.requests + (↑s.collected : Multiset _).filterMap result_tx

/-- The requests are those of the pending events, and those that were answered. -/
theorem requests_eq (s : System S) : s.requests =
    s.pending.filterMap result_tx + ↑(s.stack.answers.map Prod.fst) := by
  rw [requests, TcpStack.requests, pending, Multiset.filterMap_add]
  abel

/-- The sockets that were ever sent to an acceptor. -/
def delivered (s : System S) : List TypedSocketHandle :=
  s.stack.tcp_stream.sent.map (fun info => .tcp info.handle) ++
    s.stack.udp_stream.sent.map fun info => .udp info.handle

/-! ## Batches -/

/-- Taking a batch splits what is collected. -/
theorem coe_flatten_of_take {s : System S} {batch : Option ℕ} {events : List OperationEvent}
    {batches : List (List OperationEvent)} (took : s.take_batch batch = some (events, batches)) :
    (↑s.batches.flatten : Multiset OperationEvent) = ↑events + ↑batches.flatten := by
  cases batch with
  | none =>
    cases took
    simp
  | some i =>
    obtain ⟨b, hb, he⟩ := Option.map_eq_some_iff.mp took
    cases he
    obtain ⟨hi, rfl⟩ := List.getElem?_eq_some_iff.mp hb
    have := (List.getElem_cons_eraseIdx_perm hi).flatten
    rw [List.flatten_cons] at this
    rw [Multiset.coe_add]
    exact (Multiset.coe_eq_coe.mpr this).symm

/-- A batch that is handed over stays collected until its events are handled. -/
theorem coe_collected_of_start {s : System S} {batch : Option ℕ} {events : List OperationEvent}
    {batches : List (List OperationEvent)} (rest : s.driving = none)
    (took : s.take_batch batch = some (events, batches)) :
    (↑(batches.flatten ++ passes events) : Multiset OperationEvent) = ↑s.collected := by
  rw [← Multiset.coe_add, Multiset.coe_eq_coe.mpr (passes_perm events), collected, rest,
    Option.getD_none, List.append_nil, coe_flatten_of_take took, add_comm]

/-- The events of a batch that is dropped are no longer collected. -/
theorem coe_collected_of_failure {s : System S} {batch : Option ℕ} {events : List OperationEvent}
    {batches : List (List OperationEvent)} (rest : s.driving = none)
    (took : s.take_batch batch = some (events, batches)) :
    (↑batches.flatten : Multiset OperationEvent) ≤ ↑s.collected := by
  rw [collected, rest, Option.getD_none, List.append_nil, coe_flatten_of_take took]
  exact Multiset.le_add_left _ _

/-- The event that is handled next, and the others. -/
theorem coe_collected_of_driving {s : System S} {e : OperationEvent} {events : List OperationEvent}
    (driving : s.driving = some (e :: events)) :
    (↑s.collected : Multiset OperationEvent) = {e} + ↑(s.batches.flatten ++ events) := by
  rw [collected, driving, Option.getD_some, ← Multiset.coe_singleton, Multiset.coe_add,
    Multiset.coe_eq_coe]
  exact List.perm_middle

/-! ## The effect of a step -/

/-- What a step does to the sockets that there are, to the pending events, and to the infos and
streams that own sockets. -/
inductive Effect (s : System S) (a : Action) (s' : System S) : Prop
  | kept (same : SameTables s.stack s'.stack) (pending : s'.pending ≤ s.pending)
      (infos : (↑s'.infos : Multiset TypedSocketHandle) ≤ ↑s.infos)
      (streams : s'.streams = s.streams) (delivered : s'.delivered = s.delivered)
      (issued : s'.issued = s.issued)
  /-- A packet opens a socket. -/
  | admitted (packet : Packet) (now : ℕ) (batch : Option ℕ) (h : TypedSocketHandle)
      (socket : S.Socket) (accepted : Finset SocketAddr)
      (action : a = .start (some packet) now batch)
      (opens : s.stack.Opens packet h socket accepted) (admits : Admits s.stack h s'.stack)
      (pending : s'.pending ≤ {.ready h} + s.pending) (infos : s'.infos = s.infos)
      (streams : s'.streams = s.streams) (delivered : s'.delivered = s.delivered)
      (issued : s'.issued = s.issued)
  /-- A Close removes its socket. -/
  | removed (h : TypedSocketHandle) (next : s.next_event = some (.close h))
      (removes : Removes s.stack h s'.stack) (pending : {.close h} + s'.pending ≤ s.pending)
      (infos : s'.infos = s.infos) (streams : s'.streams = s.streams)
      (delivered : s'.delivered = s.delivered) (issued : s'.issued = s.issued)
  /-- A Ready sends its socket to the acceptor. -/
  | delivered (h : TypedSocketHandle) (next : s.next_event = some (.ready h))
      (same : SameTables s.stack s'.stack) (pending : {.ready h} + s'.pending ≤ s.pending)
      (infos : (↑s'.infos : Multiset TypedSocketHandle) ≤ {h} + ↑s.infos)
      (streams : s'.streams = s.streams)
      (delivered : (↑s'.delivered : Multiset TypedSocketHandle) ≤ {h} + ↑s.delivered)
      (issued : s'.issued = s.issued)
  /-- The acceptor gives a socket to a user. -/
  | accepted (h : TypedSocketHandle) (same : SameTables s.stack s'.stack)
      (pending : s'.pending = s.pending)
      (infos : (↑s.infos : Multiset TypedSocketHandle) = {h} + ↑s'.infos)
      (streams : (↑s'.streams : Multiset TypedSocketHandle) = {h} + ↑s.streams)
      (delivered : s'.delivered = s.delivered) (issued : s'.issued = s.issued)
  /-- A user issues a request on a socket that it owns. -/
  | requested (c : Call) (action : a = .call c) (held : c.handle ∈ s.streams)
      (same : SameTables s.stack s'.stack)
      (pending : s'.pending ≤ {c.event s.issued.length} + s.pending) (infos : s'.infos = s.infos)
      (streams : s'.streams = s.streams) (delivered : s'.delivered = s.delivered)
      (issued : s'.issued = s.issued ++ [c.handle])
  /-- A user drops its stream or socket. -/
  | dropped (h : TypedSocketHandle) (same : SameTables s.stack s'.stack)
      (pending : s'.pending ≤ {.close h} + s.pending) (infos : s'.infos = s.infos)
      (streams : (↑s.streams : Multiset TypedSocketHandle) = {h} + ↑s'.streams)
      (delivered : s'.delivered = s.delivered) (issued : s'.issued = s.issued)

/-- Sending an event makes it pending, or loses it. -/
theorem pending_send_event_le (t : TcpStack S) (e : OperationEvent) :
    (t.send_event e).pending ≤ {e} + t.pending := by
  simp only [TcpStack.pending, send_event, Channel.send]
  split
  · refine le_of_eq ?_
    have hp : ∀ ch, ({ t with operation_event := ch } : TcpStack S).parked =
      t.parked := fun _ => rfl
    rw [hp, ← Multiset.coe_add, Multiset.coe_singleton]
    abel
  · exact Multiset.le_add_left _ _

/-- The pending events grow by what the stack's do. -/
theorem pending_le_of {s s' : System S} {new : Multiset OperationEvent}
    (stack : s'.stack.pending ≤ new + s.stack.pending)
    (collected : (↑s'.collected : Multiset OperationEvent) ≤ ↑s.collected) :
    s'.pending ≤ new + s.pending := by
  rw [pending, pending, ← add_assoc]
  exact add_le_add stack collected

/-- The entries at the acceptors are in their channels. -/
theorem infos_of_stack {s s' : System S} (tcp : s'.stack.tcp_stream = s.stack.tcp_stream)
    (udp : s'.stack.udp_stream = s.stack.udp_stream) : s'.infos = s.infos := by
  rw [infos, infos, tcp, udp]

/-- What was delivered is in the acceptors' channels. -/
theorem delivered_of_stack {s s' : System S} (tcp : s'.stack.tcp_stream = s.stack.tcp_stream)
    (udp : s'.stack.udp_stream = s.stack.udp_stream) : s'.delivered = s.delivered := by
  rw [delivered, delivered, tcp, udp]

/-- A value that is sent is in the queue, or lost. -/
theorem queue_send_le {α : Type} (ch : Channel α) (v : α) :
    (↑(ch.send v).queue : Multiset α) ≤ {v} + ↑ch.queue := by
  unfold Channel.send
  split
  · rw [← Multiset.coe_add, Multiset.coe_singleton, add_comm]
  · exact Multiset.le_add_left _ _

/-- Sending adds at most the value to what was sent. -/
theorem sent_send_le {α : Type} (ch : Channel α) (v : α) :
    (↑(ch.send v).sent : Multiset α) ≤ {v} + ↑ch.sent := by
  unfold Channel.send
  split
  · rw [← Multiset.coe_add, Multiset.coe_singleton, add_comm]
  · exact Multiset.le_add_left _ _

/-- The infos, as a sum over the two channels. -/
theorem coe_infos (s : System S) : (↑s.infos : Multiset TypedSocketHandle) =
    (↑s.stack.tcp_stream.queue : Multiset TcpInfo).map (fun info => .tcp info.handle) +
      (↑s.stack.udp_stream.queue : Multiset UdpInfo).map fun info => .udp info.handle := by
  rw [infos, ← Multiset.coe_add, Multiset.map_coe, Multiset.map_coe]

/-- What was delivered, as a sum over the two channels. -/
theorem coe_delivered (s : System S) : (↑s.delivered : Multiset TypedSocketHandle) =
    (↑s.stack.tcp_stream.sent : Multiset TcpInfo).map (fun info => .tcp info.handle) +
      (↑s.stack.udp_stream.sent : Multiset UdpInfo).map fun info => .udp info.handle := by
  rw [delivered, ← Multiset.coe_add, Multiset.map_coe, Multiset.map_coe]

/-- The streams, as a sum over the two kinds. -/
theorem coe_streams (s : System S) : (↑s.streams : Multiset TypedSocketHandle) =
    (↑s.tcp_streams : Multiset TcpInfo).map (fun stream => .tcp stream.handle) +
      (↑s.udp_sockets : Multiset UdpInfo).map fun socket => .udp socket.handle := by
  rw [streams, ← Multiset.coe_add, Multiset.map_coe, Multiset.map_coe]

/-- The effect of a handled event, by what it does to the stack. -/
theorem effect_of_summary {s s' : System S} {a : Action} {e : OperationEvent}
    {events : List OperationEvent} {stack : TcpStack S} (driving : s.driving = some (e :: events))
    (summary : Summary s.stack e stack) (eq : s' = { s with stack, driving := some events }) :
    Effect s a s' := by
  have next : s.next_event = some e := by rw [next_event, driving]; rfl
  have hp : s.pending = {e} + (s.stack.pending + ↑(s.batches.flatten ++ events)) := by
    rw [pending, coe_collected_of_driving driving]
    abel
  have hp' : s'.pending = stack.pending + ↑(s.batches.flatten ++ events) := by rw [eq]; rfl
  have streams : s'.streams = s.streams := by rw [eq]; rfl
  have issued : s'.issued = s.issued := by rw [eq]
  cases summary with
  | kept same pending tcp_stream udp_stream =>
    have tcp : s'.stack.tcp_stream = s.stack.tcp_stream := by rw [eq]; exact tcp_stream
    have udp : s'.stack.udp_stream = s.stack.udp_stream := by rw [eq]; exact udp_stream
    refine .kept (by rw [eq]; exact same) ?_ (by rw [infos_of_stack tcp udp]) streams
      (delivered_of_stack tcp udp) issued
    rw [hp, hp', ← add_assoc]
    exact add_le_add pending le_rfl
  | removed h event removes pending =>
    subst event
    have tcp : s'.stack.tcp_stream = s.stack.tcp_stream := by rw [eq]; exact removes.tcp_stream
    have udp : s'.stack.udp_stream = s.stack.udp_stream := by rw [eq]; exact removes.udp_stream
    refine .removed h next (by rw [eq]; exact removes) ?_ (infos_of_stack tcp udp) streams
      (delivered_of_stack tcp udp) issued
    rw [hp, hp']
    exact add_le_add le_rfl (add_le_add pending le_rfl)
  | delivered_tcp handle remote local_ event same pending tcp_stream udp_stream =>
    subst event
    have one : ∀ {v : TcpInfo} {l l' : List TcpInfo}, (↑l' : Multiset TcpInfo) ≤ {v} + ↑l →
        (↑l' : Multiset TcpInfo).map (fun info => TypedSocketHandle.tcp info.handle) ≤
          {.tcp v.handle} + (↑l : Multiset TcpInfo).map fun info => .tcp info.handle := by
      intro v l l' h
      have := Multiset.map_le_map (f := fun info : TcpInfo => TypedSocketHandle.tcp info.handle) h
      rwa [Multiset.map_add, Multiset.map_singleton] at this
    have tcp : s'.stack.tcp_stream =
        s.stack.tcp_stream.send ⟨handle, remote.socket_addr, local_.socket_addr⟩ := by
      rw [eq]; exact tcp_stream
    have udp : s'.stack.udp_stream = s.stack.udp_stream := by rw [eq]; exact udp_stream
    refine .delivered _ next (by rw [eq]; exact same) (by rw [hp, hp', pending])
      ?_ streams ?_ issued
    · rw [coe_infos, coe_infos, ← add_assoc, tcp, udp]
      exact add_le_add (one (queue_send_le _ _)) le_rfl
    · rw [coe_delivered, coe_delivered, ← add_assoc, tcp, udp]
      exact add_le_add (one (sent_send_le _ _)) le_rfl
  | delivered_udp handle addr event same pending tcp_stream udp_stream =>
    subst event
    have one : ∀ {v : UdpInfo} {l l' : List UdpInfo}, (↑l' : Multiset UdpInfo) ≤ {v} + ↑l →
        (↑l' : Multiset UdpInfo).map (fun info => TypedSocketHandle.udp info.handle) ≤
          {.udp v.handle} + (↑l : Multiset UdpInfo).map fun info => .udp info.handle := by
      intro v l l' h
      have := Multiset.map_le_map (f := fun info : UdpInfo => TypedSocketHandle.udp info.handle) h
      rwa [Multiset.map_add, Multiset.map_singleton] at this
    have tcp : s'.stack.tcp_stream = s.stack.tcp_stream := by rw [eq]; exact tcp_stream
    have udp : s'.stack.udp_stream = s.stack.udp_stream.send ⟨handle, addr⟩ := by
      rw [eq]; exact udp_stream
    refine .delivered _ next (by rw [eq]; exact same) (by rw [hp, hp', pending])
      ?_ streams ?_ issued
    · rw [coe_infos, coe_infos, add_left_comm, tcp, udp]
      exact add_le_add le_rfl (one (queue_send_le _ _))
    · rw [coe_delivered, coe_delivered, add_left_comm, tcp, udp]
      exact add_le_add le_rfl (one (sent_send_le _ _))

/-- What is erased from a list, and what is left of it. -/
theorem map_erase {α β : Type} [DecidableEq α] {l : List α} {a : α} (h : a ∈ l) (f : α → β) :
    ({f a} + (↑(l.erase a) : Multiset α).map f : Multiset β) = (↑l : Multiset α).map f := by
  have hl : (↑l : Multiset α) = {a} + ↑(l.erase a) :=
    Multiset.coe_eq_coe.mpr (List.perm_cons_erase h)
  rw [hl, Multiset.map_add, Multiset.map_singleton]

/-- Every step has one of these effects. -/
theorem effect_of_steps {s s' : System S} {a : Action} (steps : Steps s a s') : Effect s a s' := by
  -- Sums with nothing, for `pending_le_of`.
  have none_new : ∀ {p : Multiset OperationEvent}, s'.pending ≤ 0 + p → s'.pending ≤ p :=
    fun h => by rwa [zero_add] at h
  cases steps with
  | started packet now batch events batches stack res action rest took ok eq =>
    subst eq
    have failure := coe_collected_of_failure rest took
    have start := coe_collected_of_start rest took
    cases begin_drive_cases ok with
    | failed arrived fails =>
      -- The error drops the batch.
      refine .kept (.refl _) (none_new (pending_le_of (by rw [zero_add]) ?_)) le_rfl rfl rfl rfl
      simpa [collected, begun] using failure
    | unready arrived opens adds disconnected =>
      subst arrived
      refine .admitted _ now batch _ _ _ action opens (adds.admits (.refl _)) ?_
        (infos_of_stack adds.tcp_stream adds.udp_stream) rfl
        (delivered_of_stack adds.tcp_stream adds.udp_stream) rfl
      refine pending_le_of ?_ (by simpa [collected, begun] using failure)
      rw [adds.pending, zero_add]
      exact Multiset.le_add_left _ _
    | polled quiet =>
      have wakes := wakes_poll (s.stack.push packet) now
      refine .kept ((same_push _ _).trans (same_poll _ now)) (none_new (pending_le_of ?_ start.le))
        (by rw [infos_of_stack wakes.tcp_stream wakes.udp_stream]) rfl
        (delivered_of_stack wakes.tcp_stream wakes.udp_stream) rfl
      rw [zero_add]
      exact pending_poll_le (s.stack.push packet) now
    | opened arrived opens adds =>
      subst arrived
      rename_i p h socket accepted u
      have wakes := wakes_poll (u.push (some p)) now
      have tcp := wakes.tcp_stream.trans adds.tcp_stream
      have udp := wakes.udp_stream.trans adds.udp_stream
      refine .admitted p now batch h socket accepted action opens
        (adds.admits ((same_push _ _).trans (same_poll _ now))) (pending_le_of ?_ start.le)
        (infos_of_stack tcp udp) rfl (delivered_of_stack tcp udp) rfl
      rw [← adds.pending]
      exact pending_poll_le (u.push (some p)) now
  | handled e events stack action driving ok eq =>
    exact effect_of_summary driving (handle_outcome ok).summary eq
  | finished action driving eq =>
    subst eq
    refine .kept ⟨rfl, rfl, rfl, rfl, rfl⟩ (none_new (pending_le_of ?_ ?_)) le_rfl rfl rfl rfl
    · rw [zero_add]
      exact le_rfl
    · rw [collected, collected, driving]
      exact le_rfl
  | generated action connected eq =>
    -- The events go from the channel to the new batch.
    subst eq
    refine .kept ⟨rfl, rfl, rfl, rfl, rfl⟩ (le_of_eq ?_) le_rfl rfl rfl rfl
    rw [pending, pending, TcpStack.pending, TcpStack.pending, collected, collected]
    have hp : ({ s.stack with operation_event := s.stack.operation_event.drain } :
      TcpStack S).parked = s.stack.parked := rfl
    have hq : s.stack.operation_event.drain.queue = [] := rfl
    simp only [hp, hq, List.flatten_append, List.flatten_singleton, ← Multiset.coe_add,
      Multiset.coe_nil]
    abel
  | batch_dropped i action eq =>
    subst eq
    refine .kept (.refl _) (none_new (pending_le_of (by rw [zero_add]) ?_)) le_rfl rfl rfl rfl
    rw [collected, collected, ← Multiset.coe_add, ← Multiset.coe_add]
    exact add_le_add (Multiset.coe_le.mpr (flatten_sublist (List.eraseIdx_sublist _ i)).subperm)
      le_rfl
  | generator_dropped action eq =>
    subst eq
    refine .kept ⟨rfl, rfl, rfl, rfl, rfl⟩ (none_new (pending_le_of ?_ le_rfl)) le_rfl rfl rfl rfl
    rw [zero_add]
    exact add_le_add (Multiset.zero_le _) le_rfl
  | accepted_tcp info rest action queue eq =>
    subst eq
    refine .accepted (.tcp info.handle) ⟨rfl, rfl, rfl, rfl, rfl⟩ rfl ?_ ?_ rfl rfl
    · simp only [infos, Channel.recv, queue, List.tail_cons, List.map_cons, List.cons_append]
      rfl
    · simp only [coe_streams, ← Multiset.coe_add, Multiset.coe_singleton, Multiset.map_add,
        Multiset.map_singleton]
      abel
  | accepted_udp info rest action queue eq =>
    subst eq
    refine .accepted (.udp info.handle) ⟨rfl, rfl, rfl, rfl, rfl⟩ rfl ?_ ?_ rfl rfl
    · simp only [coe_infos, Channel.recv, queue, List.tail_cons]
      rw [← Multiset.cons_coe, Multiset.map_cons, ← Multiset.singleton_add, add_left_comm]
    · simp only [coe_streams, ← Multiset.coe_add, Multiset.coe_singleton, Multiset.map_add,
        Multiset.map_singleton]
      abel
  | tcp_acceptor_dropped action eq =>
    subst eq
    refine .kept ⟨rfl, rfl, rfl, rfl, rfl⟩ le_rfl ?_ rfl rfl rfl
    rw [coe_infos, coe_infos]
    exact add_le_add (Multiset.zero_le _) le_rfl
  | udp_acceptor_dropped action eq =>
    subst eq
    refine .kept ⟨rfl, rfl, rfl, rfl, rfl⟩ le_rfl ?_ rfl rfl rfl
    rw [coe_infos, coe_infos]
    exact add_le_add le_rfl (Multiset.zero_le _)
  | called c action held connected eq =>
    subst eq
    exact .requested c action held ⟨rfl, rfl, rfl, rfl, rfl⟩
      (pending_le_of (pending_send_event_le _ _) le_rfl) rfl rfl rfl rfl
  | refused c action connected eq =>
    subst eq
    exact .kept (.refl _) le_rfl le_rfl rfl rfl rfl
  | returned futures action sub eq =>
    subst eq
    exact .kept (.refl _) le_rfl le_rfl rfl rfl rfl
  | tcp_stream_dropped stream action held idle eq =>
    subst eq
    refine .dropped (.tcp stream.handle) ⟨rfl, rfl, rfl, rfl, rfl⟩
      (pending_le_of (pending_send_event_le _ _) le_rfl) rfl ?_ rfl rfl
    rw [coe_streams, coe_streams, ← map_erase held, add_assoc]
  | udp_socket_dropped socket action held idle eq =>
    subst eq
    refine .dropped (.udp socket.handle) ⟨rfl, rfl, rfl, rfl, rfl⟩
      (pending_le_of (pending_send_event_le _ _) le_rfl) rfl ?_ rfl rfl
    rw [coe_streams, coe_streams, ← map_erase held, add_left_comm]

/-! ## Acceptors and streams -/

/-- What a step does to the channels of the acceptors: it handles an event, gives out a socket that
waits in one, drops an acceptor, or leaves them alone. -/
inductive AcceptorStep (s : System S) (a : Action) (s' : System S) : Prop
  | handled (e : OperationEvent) (next : s.next_event = some e)
      (ok : s.stack.handle e = .ok s'.stack)
  | accepted_tcp (info : TcpInfo) (rest : List TcpInfo)
      (queue : s.stack.tcp_stream.queue = info :: rest) (eq : s' = { s with
        stack := { s.stack with tcp_stream := s.stack.tcp_stream.recv }
        tcp_streams := s.tcp_streams ++ [info] })
  | accepted_udp (info : UdpInfo) (rest : List UdpInfo)
      (queue : s.stack.udp_stream.queue = info :: rest) (eq : s' = { s with
        stack := { s.stack with udp_stream := s.stack.udp_stream.recv }
        udp_sockets := s.udp_sockets ++ [info] })
  | tcp_dropped (action : a = .drop_tcp_acceptor) (eq : s' = { s with
      stack := { s.stack with tcp_stream := s.stack.tcp_stream.disconnect } })
  | udp_dropped (action : a = .drop_udp_acceptor) (eq : s' = { s with
      stack := { s.stack with udp_stream := s.stack.udp_stream.disconnect } })
  | beside (tcp : s'.stack.tcp_stream = s.stack.tcp_stream)
      (udp : s'.stack.udp_stream = s.stack.udp_stream)

/-- What a step does to the acceptors. -/
theorem acceptor_step {s s' : System S} {a : Action} (h : s.step a = some s') :
    AcceptorStep s a s' := by
  cases steps_of_step h with
  | started packet now batch events batches stack res action rest took ok eq =>
    subst eq
    exact .beside (begin_drive_cases ok).streams.1 (begin_drive_cases ok).streams.2
  | handled e events stack action driving ok eq =>
    subst eq
    exact .handled e (by rw [next_event, driving]; rfl) ok
  | accepted_tcp info rest action queue eq => exact .accepted_tcp info rest queue eq
  | accepted_udp info rest action queue eq => exact .accepted_udp info rest queue eq
  | tcp_acceptor_dropped action eq => exact .tcp_dropped action eq
  | udp_acceptor_dropped action eq => exact .udp_dropped action eq
  | finished action driving eq => subst eq; exact .beside rfl rfl
  | generated action connected eq => subst eq; exact .beside rfl rfl
  | batch_dropped i action eq => subst eq; exact .beside rfl rfl
  | generator_dropped action eq => subst eq; exact .beside rfl rfl
  | called c action held connected eq => subst eq; exact .beside rfl rfl
  | refused c action connected eq => subst eq; exact .beside rfl rfl
  | returned futures action sub eq => subst eq; exact .beside rfl rfl
  | tcp_stream_dropped stream action held idle eq => subst eq; exact .beside rfl rfl
  | udp_socket_dropped socket action held idle eq => subst eq; exact .beside rfl rfl

/-- What a step does to the streams that users hold and to the calls on them: it keeps the streams,
and begins a call on one at most, or it drops a stream without a call, and sends its Close. -/
inductive StreamStep (s s' : System S) : Prop
  | kept (streams : s.streams ⊆ s'.streams)
      (futures : ∀ f ∈ s'.futures, f ∈ s.futures ∨ f.handle ∈ s.streams)
  | dropped (h : TypedSocketHandle) (idle : s.idle h = true)
      (others : ∀ h', h' ≠ h → h' ∈ s.streams → h' ∈ s'.streams)
      (futures : s'.futures = s.futures) (batches : s'.batches = s.batches)
      (stack : s'.stack = s.stack.send_event (.close h))

/-- What a step does to the streams. -/
theorem stream_step {s s' : System S} {a : Action} (h : s.step a = some s') : StreamStep s s' := by
  have same : s'.streams = s.streams → s'.futures = s.futures → StreamStep s s' :=
    fun streams futures =>
      .kept (fun _ hh => streams ▸ hh) fun _ hf => .inl (futures ▸ hf)
  cases steps_of_step h with
  | accepted_tcp info rest action queue eq =>
    subst eq
    refine .kept (fun h held => ?_) fun _ hf => .inl hf
    simp only [streams, List.map_append, List.mem_append] at held ⊢
    exact held.imp .inl id
  | accepted_udp info rest action queue eq =>
    subst eq
    refine .kept (fun h held => ?_) fun _ hf => .inl hf
    simp only [streams, List.map_append, List.mem_append] at held ⊢
    exact held.imp id .inl
  | called c action holds connected eq =>
    subst eq
    refine .kept (fun _ held => held) fun f hf => ?_
    rcases List.mem_append.mp hf with hf | hf
    · exact .inl hf
    · rw [List.mem_singleton.mp hf]
      exact .inr holds
  | returned futures action sub eq =>
    subst eq
    exact .kept (fun _ held => held) fun _ hf => .inl (sub.subset hf)
  | tcp_stream_dropped stream action holds idle eq =>
    subst eq
    refine .dropped (.tcp stream.handle) idle (fun h' hne held => ?_) rfl rfl rfl
    simp only [streams, List.mem_append, List.mem_map] at held ⊢
    rcases held with ⟨info, hi, heq⟩ | other
    · have hinfo : info ≠ stream := fun same => hne (by rw [← heq, same])
      exact .inl ⟨info, (List.mem_erase_of_ne hinfo).mpr hi, heq⟩
    · exact .inr other
  | udp_socket_dropped socket action holds idle eq =>
    subst eq
    refine .dropped (.udp socket.handle) idle (fun h' hne held => ?_) rfl rfl rfl
    simp only [streams, List.mem_append, List.mem_map] at held ⊢
    rcases held with other | ⟨info, hi, heq⟩
    · exact .inl other
    · have hinfo : info ≠ socket := fun same => hne (by rw [← heq, same])
      exact .inr ⟨info, (List.mem_erase_of_ne hinfo).mpr hi, heq⟩
  | started packet now batch events batches stack res action rest took ok eq =>
    subst eq
    exact same rfl rfl
  | handled e events stack action driving ok eq => subst eq; exact same rfl rfl
  | finished action driving eq => subst eq; exact same rfl rfl
  | generated action connected eq => subst eq; exact same rfl rfl
  | batch_dropped i action eq => subst eq; exact same rfl rfl
  | generator_dropped action eq => subst eq; exact same rfl rfl
  | tcp_acceptor_dropped action eq => subst eq; exact same rfl rfl
  | udp_acceptor_dropped action eq => subst eq; exact same rfl rfl
  | refused c action connected eq => subst eq; exact same rfl rfl

/-! ## Events -/

/-- What holds of every Ready, of every Close, and of the event of every call holds of the pending
events. -/
theorem pending_of_run {P : OperationEvent → Prop} (ready : ∀ h, P (.ready h))
    (close : ∀ h, P (.close h)) (call : ∀ (c : Call) id, P (c.event id)) {size : ℕ}
    {interface : S.Interface} {guard : System S → Action → Prop} {s : System S}
    (run : Run step guard (new size interface) s) : ∀ e ∈ s.pending, P e := by
  have start : ∀ e ∈ (new size interface).pending, P e := by
    have hp : (new size interface).pending = 0 := rfl
    exact fun e he => by simp [hp] at he
  refine run.invariant (I := fun s => ∀ e ∈ s.pending, P e) start ?_
  intro s a s' _ _ h all
  have added : ∀ {e₀ : OperationEvent}, P e₀ → s'.pending ≤ {e₀} + s.pending →
      ∀ e ∈ s'.pending, P e := by
    intro e₀ new le e he
    rcases Multiset.mem_add.mp (Multiset.mem_of_le le he) with he | he
    · rwa [Multiset.mem_singleton.mp he]
    · exact all e he
  have fewer : ∀ {e₀ : OperationEvent}, {e₀} + s'.pending ≤ s.pending → ∀ e ∈ s'.pending, P e :=
    fun le e he => all e (Multiset.mem_of_le le (Multiset.mem_add.mpr (.inr he)))
  cases effect_of_steps (steps_of_step h) with
  | kept same pending => exact fun e he => all e (Multiset.mem_of_le pending he)
  | admitted packet now batch h socket accepted action opens admits pending =>
    exact added (ready h) pending
  | removed h next removes pending => exact fewer pending
  | delivered h next same pending => exact fewer pending
  | accepted h same pending => exact pending ▸ all
  | requested c action held same pending => exact added (call c _) pending
  | dropped h same pending => exact added (close h) pending

end System

end L3Extract
