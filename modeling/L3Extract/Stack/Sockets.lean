import L3Extract.Smoltcp.Spec
import L3Extract.Stack.Account

/-!
# What becomes of a socket

A socket of the set changes in two ways. The handlers read from it, write to it, or close it
(`Outcome.socket_at`), and a poll hands it a segment or leaves it idle (`tcp_at_poll`). By
`Smoltcp.Spec`, each of these moves a TCP socket on in the diagram of RFC 793 and keeps its
endpoints. The lemmas of this module follow the socket of one slot through each step of the stack.
-/

namespace L3Extract

open OperationEvent

variable {S : Smoltcp}

/-- What a handler does to a TCP socket: it uses its buffers, or closes it. -/
inductive TcpApi.Handled {Socket : Type} (api : TcpApi Socket) (c c' : Socket) : Prop
  | used (state : api.state c' = api.state c) (ends : api.SameEndpoints c c')
  | closed (eq : c' = api.close c)

/-- What a poll does to a TCP socket: it is idle, or takes a segment. -/
inductive TcpApi.Polled {Socket : Type} (api : TcpApi Socket) (c c' : Socket) : Prop
  | idle (idle : api.Idle c c')
  | received (seg : Segment) (received : api.Received seg c c')

/-- A socket whose handshake is done does not go back to it. -/
theorem TcpState.opening_after_close (state : TcpState) : state.after_close.opening = false := by
  cases state <;> rfl

/-- A handler brings no connection back into its handshake. -/
theorem TcpApi.Handled.opening {api : TcpApi S.Tcp} {c c' : S.Tcp} (h : api.Handled c c')
    (close_state : ∀ c, api.state (api.close c) = (api.state c).after_close)
    (was : (api.state c).opening = false) : (api.state c').opening = false := by
  cases h with
  | used state => rwa [state]
  | closed eq => rw [eq, close_state, TcpState.opening_after_close]

/-- A poll brings no connection back into its handshake. -/
theorem TcpApi.Polled.opening {api : TcpApi S.Tcp} {c c' : S.Tcp} (h : api.Polled c c')
    (was : (api.state c).opening = false) : (api.state c').opening = false := by
  cases h with
  | idle idle =>
    cases idle with
    | kept state => rwa [state]
    | closed state => rw [state]; rfl
  | received seg received =>
    cases received with
    | opened before => rw [before] at was; cases was
    | ignored before => rw [before] at was; cases was
    | relistened before => rw [before] at was; cases was
    | advanced before state =>
      rcases state with state | ⟨-, state⟩
      · rwa [state]
      · exact state
    | closed before state => rw [state]; rfl

/-- A TCP socket that is not closed was told to listen on an address. -/
def TcpApi.Addressed {Socket : Type} (api : TcpApi Socket) (c : Socket) : Prop :=
  api.state c ≠ .closed → (api.listen_endpoint c).addr.isSome = true

/-- A socket that keeps its endpoints keeps its address. -/
theorem TcpApi.SameEndpoints.addressed {api : TcpApi S.Tcp} {c c' : S.Tcp}
    (ends : api.SameEndpoints c c') (closed : api.state c = .closed → api.state c' = .closed)
    (addressed : api.Addressed c) : api.Addressed c' := by
  intro there
  rw [ends.1]
  exact addressed fun h => there (closed h)

/-- A handler leaves a socket on its address. -/
theorem TcpApi.Handled.addressed (spec : S.Spec) {c c' : S.Tcp} (handled : S.tcp.Handled c c')
    (addressed : S.tcp.Addressed c) : S.tcp.Addressed c' := by
  cases handled with
  | used state ends => exact ends.addressed (fun h => state.trans h) addressed
  | closed eq =>
    subst eq
    rcases spec.close_ends c with ends | closed
    · refine ends.addressed (fun h => ?_) addressed
      rw [spec.close_state, h]
      rfl
    · exact fun there => absurd closed there

/-- A poll leaves a socket on its address. -/
theorem TcpApi.Polled.addressed {api : TcpApi S.Tcp} {c c' : S.Tcp} (polled : api.Polled c c')
    (addressed : api.Addressed c) : api.Addressed c' := by
  cases polled with
  | idle idle =>
    cases idle with
    | kept state ends => exact ends.addressed (fun h => state.trans h) addressed
    | closed state => exact fun there => absurd state there
  | received seg received =>
    cases received with
    | opened was opens state local_ remote listen =>
      intro _
      rw [listen]
      exact addressed fun h => by rw [h] at was; cases was
    | ignored was opens state ends =>
      exact ends.addressed (fun h => by rw [h] at was; cases was) addressed
    | relistened was resets state listen =>
      intro _
      rw [listen]
      exact addressed fun h => by rw [h] at was; cases was
    | advanced was state ends =>
      exact ends.addressed (fun h => by rw [h] at was; cases was) addressed
    | closed was state => exact fun there => absurd state there

namespace TcpStack

/-! ## Handlers -/

/-- A handler leaves a socket as it is, hands it a request, or closes it. -/
theorem Outcome.socket_at {t t' : TcpStack S} {e : OperationEvent} (outcome : Outcome t e t')
    {i : ℕ} {s' : S.Socket} (h : t'.socket_at i = some s') :
    t.socket_at i = some s' ∨
    (∃ s memory a, t.socket_at i = some s ∧ t.Serves e s s' memory a) ∨
    ∃ c, t.socket_at i = some (.tcp c) ∧ s' = .tcp (S.tcp.close c) := by
  cases outcome with
  | answered tx a result_tx refuses eq => subst eq; exact .inl h
  | served tx a s s₁ memory result_tx found socket serves eq =>
    -- Only the socket of the request changes.
    have hput : (t.put e.index s₁).socket_at i = some s' := by rw [← h, eq]; rfl
    rw [socket_at_put] at hput
    obtain ⟨s₀, hs₀, hs'⟩ := Option.map_eq_some_iff.mp hput
    split_ifs at hs' with hi
    · subst hi hs'
      exact .inr (.inl ⟨s, memory, a, socket, serves⟩)
    · rw [← hs']
      exact .inl hs₀
  | parked side parks eq =>
    rw [eq, socket_at_register] at h
    exact .inl h
  | shutdown handle tx c event found socket eq =>
    rw [eq, (wakes_close_tcp _ handle.index c).socket_at, socket_at_put, socket_at_register] at h
    obtain ⟨s₀, hs₀, hs'⟩ := Option.map_eq_some_iff.mp h
    split_ifs at hs' with hi
    · subst hi
      exact .inr (.inr ⟨c, socket, hs'.symm⟩)
    · rw [← hs']
      exact .inl hs₀
  | closing handle c event found socket active eq =>
    rw [eq, socket_at_register, (wakes_close_tcp t handle.index c).socket_at, socket_at_put] at h
    obtain ⟨s₀, hs₀, hs'⟩ := Option.map_eq_some_iff.mp h
    split_ifs at hs' with hi
    · subst hi
      exact .inr (.inr ⟨c, socket, hs'.symm⟩)
    · rw [← hs']
      exact .inl hs₀
  | removed h' s s₁ accepted u event found socket closes wakes others woken eq =>
    -- The others are as they were before the close.
    have hu := socket_at_remove u h'.handle.index i
    have ht : t'.socket_at i =
        ({ u with socket_set := u.socket_set.remove h'.handle.index } :
          TcpStack S).socket_at i := by
      rw [eq]
      rfl
    rw [ht, hu] at h
    split_ifs at h with hi
    rw [wakes.socket_at, socket_at_put] at h
    obtain ⟨s₀, hs₀, hs'⟩ := Option.map_eq_some_iff.mp h
    rw [if_neg hi] at hs'
    rw [← hs']
    exact .inl hs₀
  | delivered_tcp handle c remote local_ event socket may_recv remote_eq local_eq eq =>
    subst eq; exact .inl h
  | delivered_udp handle u ip event socket bound eq => subst eq; exact .inl h
  | ignored h' event gone eq => subst eq; exact .inl h

/-- A handler uses a TCP socket's buffers, or closes it. -/
theorem Outcome.tcp_at (spec : S.Spec) {t t' : TcpStack S} {e : OperationEvent}
    (outcome : Outcome t e t') {i : ℕ} {c' : S.Tcp} (h : t'.tcp_at i = some c') :
    ∃ c, t.tcp_at i = some c ∧ S.tcp.Handled c c' := by
  rcases outcome.socket_at (tcp_at_eq_some.mp h) with h | ⟨s, memory, a, hs, serves⟩ | ⟨c, hs, heq⟩
  · exact ⟨c', tcp_at_eq_some.mpr h, .used rfl ⟨rfl, rfl, rfl⟩⟩
  · cases serves with
    | write can_send =>
      obtain ⟨state, ends⟩ := spec.send_slice _ _
      exact ⟨_, tcp_at_eq_some.mpr hs, .used state ends⟩
    | read queued =>
      obtain ⟨state, ends⟩ := spec.recv_slice _ _
      exact ⟨_, tcp_at_eq_some.mpr hs, .used state ends⟩
  · cases heq
    exact ⟨c, tcp_at_eq_some.mpr hs, .closed rfl⟩

/-- A handler keeps the endpoint of a UDP socket, unless it removes it. -/
theorem Outcome.udp_at (spec : S.Spec) {t t' : TcpStack S} {e : OperationEvent}
    (outcome : Outcome t e t') {i : ℕ} {u' : S.Udp} (h : t'.udp_at i = some u') :
    ∃ u, t.udp_at i = some u ∧ S.udp.endpoint u' = S.udp.endpoint u := by
  rcases outcome.socket_at (udp_at_eq_some.mp h) with h | ⟨s, memory, a, hs, serves⟩ | ⟨c, hs, heq⟩
  · exact ⟨u', udp_at_eq_some.mpr h, rfl⟩
  · cases serves with
    | send can_send => exact ⟨_, udp_at_eq_some.mpr hs, spec.udp_send_endpoint _ _ _⟩
    | recv can_recv => exact ⟨_, udp_at_eq_some.mpr hs, spec.udp_recv_endpoint _ _⟩
  · cases heq

/-! ## The poll -/

/-- The device's receive queue is empty between calls of the interface. -/
def Drained (t : TcpStack S) : Prop := t.virtual_iface.rx_queue = []

/-- A poll with at most one packet hands a segment to the socket that takes it. -/
theorem tcp_at_poll (spec : S.Spec) {t : TcpStack S} (drained : t.Drained)
    {packet : Option Packet} {now i : ℕ} {c' : S.Tcp}
    (h : ((t.push packet).poll now).tcp_at i = some c') :
    ∃ c, t.tcp_at i = some c ∧
      ((∃ seg, packet.bind (S.deliver t.interface) = some seg ∧
        S.tcp.taker t.sockets seg = some i ∧ S.tcp.Received seg c c') ∨
      (∀ seg, packet.bind (S.deliver t.interface) = some seg →
        S.tcp.taker t.sockets seg ≠ some i) ∧ S.tcp.Idle c c') := by
  have hr : (t.push packet).poll_result now =
      S.poll t.interface now packet.toList t.sockets := by
    simp only [poll_result, push, show t.virtual_iface.rx_queue = [] from drained, List.nil_append]
    rfl
  rw [tcp_at_eq_some, socket_at_poll] at h
  obtain ⟨s, hs, hs'⟩ := Option.map_eq_some_iff.mp h
  have hs : t.socket_at i = some s := hs
  cases s with
  | udp u => cases hs'
  | tcp c =>
    have hget : Slots.get t.sockets i = some (.tcp c) := by rw [get_sockets, hs]
    have hc' : c' = (S.poll t.interface now packet.toList t.sockets).tcp i c := by
      rw [← hr]
      exact (AnySocket.tcp.inj hs').symm
    refine ⟨c, tcp_at_eq_some.mpr hs, ?_⟩
    -- The segment is for this socket, or for another one or none.
    by_cases taken : ∃ seg, packet.bind (S.deliver t.interface) = some seg ∧
        S.tcp.taker t.sockets seg = some i
    · obtain ⟨seg, hseg, htaker⟩ := taken
      refine .inl ⟨seg, hseg, htaker, ?_⟩
      rw [hc']
      exact spec.poll_received _ _ _ _ _ _ _ hget hseg htaker
    · push Not at taken
      refine .inr ⟨taken, ?_⟩
      rw [hc']
      exact spec.poll_idle _ _ _ _ _ _ hget taken

/-- A poll keeps the endpoint of a UDP socket. -/
theorem udp_at_poll (spec : S.Spec) {t : TcpStack S} {packet : Option Packet} {now i : ℕ}
    {u' : S.Udp} (h : ((t.push packet).poll now).udp_at i = some u') :
    ∃ u, t.udp_at i = some u ∧ S.udp.endpoint u' = S.udp.endpoint u := by
  rw [udp_at_eq_some, socket_at_poll] at h
  obtain ⟨s, hs, hs'⟩ := Option.map_eq_some_iff.mp h
  cases s with
  | tcp c => cases hs'
  | udp u =>
    cases hs'
    exact ⟨u, udp_at_eq_some.mpr hs, spec.udp_poll_endpoint _ _ _ _ _ _⟩

/-! ## Before the events -/

/-- The sockets after one was added. -/
theorem Adds.tcp_at {t t' : TcpStack S} {h : TypedSocketHandle} {s : S.Socket}
    {new : Multiset OperationEvent} {accepted : Finset SocketAddr}
    (adds : Adds t h s new accepted t') {i : ℕ} {c : S.Tcp} (hc : t'.tcp_at i = some c) :
    (i = h.handle.index ∧ s = .tcp c) ∨ i ≠ h.handle.index ∧ t.tcp_at i = some c := by
  rw [tcp_at_eq_some, adds.socket_at] at hc
  split_ifs at hc with hi
  · exact .inl ⟨hi, Option.some.inj hc⟩
  · exact .inr ⟨hi, tcp_at_eq_some.mpr hc⟩

/-- A UDP socket is the one that was added, or was there. -/
theorem Adds.udp_at {t t' : TcpStack S} {h : TypedSocketHandle} {s : S.Socket}
    {new : Multiset OperationEvent} {accepted : Finset SocketAddr}
    (adds : Adds t h s new accepted t') {i : ℕ} {u : S.Udp} (hu : t'.udp_at i = some u) :
    (i = h.handle.index ∧ s = .udp u) ∨ i ≠ h.handle.index ∧ t.udp_at i = some u := by
  rw [udp_at_eq_some, adds.socket_at] at hu
  split_ifs at hu with hi
  · exact .inl ⟨hi, Option.some.inj hu⟩
  · exact .inr ⟨hi, udp_at_eq_some.mpr hu⟩

/-- A socket that was there when `drive_once` began was polled, unless an error came first. -/
theorem Begins.tcp_at (spec : S.Spec) {t t' : TcpStack S} {packet : Option Packet} {now : ℕ}
    {res : Except DriveError Unit} (begins : Begins t packet now t' res) (drained : t.Drained)
    {i : ℕ} {c' : S.Tcp} (h : t'.tcp_at i = some c') (there : i ≠ t.socket_set.free) :
    ∃ c, t.tcp_at i = some c ∧ (c' = c ∨ S.tcp.Polled c c') := by
  -- A poll of a stack that has the socket.
  have poll : ∀ {u : TcpStack S}, u.Drained → ((u.push packet).poll now).tcp_at i = some c' →
      ∃ c, u.tcp_at i = some c ∧ S.tcp.Polled c c' := by
    intro u hu hc'
    obtain ⟨c, hc, ⟨seg, -, -, received⟩ | ⟨-, idle⟩⟩ := tcp_at_poll spec hu hc'
    · exact ⟨c, hc, .received seg received⟩
    · exact ⟨c, hc, .idle idle⟩
  have index : ∀ {h : TypedSocketHandle} {s : S.Socket} {new : Multiset OperationEvent}
      {accepted : Finset SocketAddr} {u : TcpStack S}, Adds t h s new accepted u →
      i ≠ h.handle.index := fun adds hi => there (by rw [hi, adds.handle]; rfl)
  cases begins with
  | failed => exact ⟨c', h, .inl rfl⟩
  | unready arrived opens adds =>
    rcases adds.tcp_at h with ⟨hi, -⟩ | ⟨-, hc⟩
    · exact absurd hi (index adds)
    · exact ⟨c', hc, .inl rfl⟩
  | polled quiet =>
    obtain ⟨c, hc, polled⟩ := poll drained h
    exact ⟨c, hc, .inr polled⟩
  | opened arrived opens adds =>
    rename_i p h' s accepted u
    have hu : u.Drained := by rw [Drained, adds.virtual_iface]; exact drained
    obtain ⟨c, hc, polled⟩ := poll hu h
    rcases adds.tcp_at hc with ⟨hi, -⟩ | ⟨-, hc⟩
    · exact absurd hi (index adds)
    · exact ⟨c, hc, .inr polled⟩

/-! ## The device's receive queue -/

/-- Beginning a call takes all packets from the receive queue. -/
theorem Begins.drained {t t' : TcpStack S} {packet : Option Packet} {now : ℕ}
    {res : Except DriveError Unit} (begins : Begins t packet now t' res) (drained : t.Drained) :
    t'.Drained := by
  cases begins with
  | failed => exact drained
  | unready arrived opens adds => rw [Drained, adds.virtual_iface]; exact drained
  | polled quiet => exact rx_queue_poll _ now
  | opened arrived opens adds => exact rx_queue_poll _ now

/-- A handler leaves the network interface and the device alone. -/
theorem Outcome.device {t t' : TcpStack S} {e : OperationEvent} (outcome : Outcome t e t') :
    t'.interface = t.interface ∧ t'.virtual_iface = t.virtual_iface := by
  cases outcome with
  | shutdown handle tx c event found socket eq =>
    have wakes := wakes_close_tcp (t.register handle.index .send e) handle.index c
    rw [eq]
    exact ⟨wakes.interface, wakes.virtual_iface⟩
  | closing handle c event found socket active eq =>
    have wakes := wakes_close_tcp t handle.index c
    rw [eq]
    exact ⟨wakes.interface, wakes.virtual_iface⟩
  | removed h s s' accepted u event found socket closes wakes others woken eq =>
    rw [eq]
    exact ⟨wakes.interface, wakes.virtual_iface⟩
  | answered tx a result_tx refuses eq => rw [eq]; exact ⟨rfl, rfl⟩
  | served tx a s s' memory result_tx found socket serves eq => rw [eq]; exact ⟨rfl, rfl⟩
  | parked side park eq => rw [eq]; exact ⟨rfl, rfl⟩
  | delivered_tcp handle c remote local_ event socket may_recv remote_eq local_eq eq =>
    rw [eq]
    exact ⟨rfl, rfl⟩
  | delivered_udp handle u ip event socket bound eq => rw [eq]; exact ⟨rfl, rfl⟩
  | ignored h event gone eq => rw [eq]; exact ⟨rfl, rfl⟩

/-- Handling an event puts nothing into the receive queue. -/
theorem Outcome.drained {t t' : TcpStack S} {e : OperationEvent} (outcome : Outcome t e t')
    (drained : t.Drained) : t'.Drained := by
  rw [Drained, outcome.device.2]
  exact drained

/-! ## UDP sockets are bound -/

/-- Every UDP socket has an address. -/
def Bound (t : TcpStack S) : Prop :=
  ∀ i u, t.udp_at i = some u → (S.udp.endpoint u).addr.isSome = true

/-- Handling an event leaves the UDP sockets bound. -/
theorem Outcome.bound (spec : S.Spec) {t t' : TcpStack S} {e : OperationEvent}
    (outcome : Outcome t e t') (bound : t.Bound) : t'.Bound := by
  intro i u' h
  obtain ⟨u, hu, heq⟩ := outcome.udp_at spec h
  rw [heq]
  exact bound i u hu

/-- Beginning a call leaves the UDP sockets bound. -/
theorem Begins.bound (spec : S.Spec) {t t' : TcpStack S} {packet : Option Packet} {now : ℕ}
    {res : Except DriveError Unit} (begins : Begins t packet now t' res) (bound : t.Bound) :
    t'.Bound := by
  have poll : ∀ {u : TcpStack S}, u.Bound → ((u.push packet).poll now).Bound := by
    intro u hu i u' h
    obtain ⟨u₀, hu₀, heq⟩ := udp_at_poll spec h
    rw [heq]
    exact hu i u₀ hu₀
  have add : ∀ {p : Packet} {h : TypedSocketHandle} {s : S.Socket} {new : Multiset OperationEvent}
      {accepted : Finset SocketAddr} {u : TcpStack S}, t.Opens p h s accepted →
      Adds t h s new accepted u → u.Bound := by
    intro p h s new accepted u opens adds i u' hu'
    rcases adds.udp_at hu' with ⟨-, rfl⟩ | ⟨-, hu'⟩
    · cases opens with
      | udp parsed fresh binds =>
        rw [spec.bind_endpoint _ _ _ binds]
        rfl
    · exact bound i u' hu'
  cases begins with
  | failed => exact bound
  | unready arrived opens adds => exact add opens adds
  | polled quiet => exact poll bound
  | opened arrived opens adds => exact poll (add opens adds)

/-! ## TCP sockets have an address -/

/-- Every TCP socket that is not closed was told to listen on an address. -/
def Addressed (t : TcpStack S) : Prop := ∀ i c, t.tcp_at i = some c → S.tcp.Addressed c

/-- Handling an event leaves the TCP sockets on their addresses. -/
theorem Outcome.addressed (spec : S.Spec) {t t' : TcpStack S} {e : OperationEvent}
    (outcome : Outcome t e t') (addressed : t.Addressed) : t'.Addressed := by
  intro i c' h
  obtain ⟨c, hc, handled⟩ := outcome.tcp_at spec h
  exact handled.addressed spec (addressed i c hc)

/-- Beginning a call leaves the TCP sockets on their addresses. -/
theorem Begins.addressed (spec : S.Spec) {t t' : TcpStack S} {packet : Option Packet} {now : ℕ}
    {res : Except DriveError Unit} (begins : Begins t packet now t' res) (drained : t.Drained)
    (addressed : t.Addressed) : t'.Addressed := by
  have poll : ∀ {u : TcpStack S}, u.Drained → u.Addressed →
      ((u.push packet).poll now).Addressed := by
    intro u hd hu i c' h
    obtain ⟨c, hc, ⟨seg, -, -, received⟩ | ⟨-, idle⟩⟩ := tcp_at_poll spec hd h
    · exact TcpApi.Polled.addressed (.received seg received) (hu i c hc)
    · exact TcpApi.Polled.addressed (.idle idle) (hu i c hc)
  have add : ∀ {p : Packet} {h : TypedSocketHandle} {s : S.Socket} {new : Multiset OperationEvent}
      {accepted : Finset SocketAddr} {u : TcpStack S}, t.Opens p h s accepted →
      Adds t h s new accepted u → u.Addressed := by
    intro p h s new accepted u opens adds i c' hc'
    rcases adds.tcp_at hc' with ⟨-, rfl⟩ | ⟨-, hc'⟩
    · cases opens with
      | tcp parsed listens =>
        intro _
        rw [(spec.listens listens).2.2]
        rfl
    · exact addressed i c' hc'
  cases begins with
  | failed => exact addressed
  | unready arrived opens adds => exact add opens adds
  | polled quiet => exact poll drained addressed
  | opened arrived opens adds =>
    exact poll ((congrArg _ adds.virtual_iface).trans drained) (add opens adds)

/-! ## No socket opens a connection -/

/-- No TCP socket is in SYN-SENT. -/
def Passive (t : TcpStack S) : Prop := ∀ i c, t.tcp_at i = some c → S.tcp.state c ≠ .syn_sent

/-- Handling an event opens no connection. -/
theorem Outcome.passive (spec : S.Spec) {t t' : TcpStack S} {e : OperationEvent}
    (outcome : Outcome t e t') (passive : t.Passive) : t'.Passive := by
  intro i c' h
  obtain ⟨c, hc, handled⟩ := outcome.tcp_at spec h
  cases handled with
  | used state ends => exact state ▸ passive i c hc
  | closed eq =>
    rw [eq, spec.close_state]
    cases S.tcp.state c <;> decide

/-- Beginning a call opens no connection. -/
theorem Begins.passive (spec : S.Spec) {t t' : TcpStack S} {packet : Option Packet} {now : ℕ}
    {res : Except DriveError Unit} (begins : Begins t packet now t' res) (passive : t.Passive) :
    t'.Passive := by
  -- `poll` brings no socket to SynSent.
  have poll : ∀ {u : TcpStack S}, u.Passive → ((u.push packet).poll now).Passive := by
    intro u hu i c' h
    rw [tcp_at_eq_some, socket_at_poll] at h
    obtain ⟨s, hs, hs'⟩ := Option.map_eq_some_iff.mp h
    cases s with
    | udp u => cases hs'
    | tcp c =>
      cases hs'
      exact spec.poll_syn_sent _ _ _ _ _ _ (hu i c (tcp_at_eq_some.mpr hs))
  have add : ∀ {p : Packet} {h : TypedSocketHandle} {s : S.Socket} {new : Multiset OperationEvent}
      {accepted : Finset SocketAddr} {u : TcpStack S}, t.Opens p h s accepted →
      Adds t h s new accepted u → u.Passive := by
    intro p h s new accepted u opens adds i c' hc'
    rcases adds.tcp_at hc' with ⟨-, rfl⟩ | ⟨-, hc'⟩
    · cases opens with
      | tcp parsed listens =>
        rw [(spec.listens listens).2.1]
        decide
    · exact passive i c' hc'
  cases begins with
  | failed => exact passive
  | unready arrived opens adds => exact add opens adds
  | polled quiet => exact poll passive
  | opened arrived opens adds => exact poll (add opens adds)

end TcpStack

end L3Extract
