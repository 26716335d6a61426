import L3Extract.Smoltcp.Reference
import L3Extract.Stack.Sockets

/-!
# Listeners and connections

For every SYN that `parse_packet` recognizes, `init_tcp` adds a listening socket, and only then does
smoltcp look at the packet. When smoltcp discards it, or a socket in a lower slot takes it, as the
socket of the connection does with a SYN that is sent again, the listener stays (`stray_listener`).
When the listener has the lower slot, it takes the SYN of a connection that another socket has, too
(`two_sockets`).

`no_stray_listener` and `one_socket` say that no listener stays, and no connection has two sockets,
as long as every SYN goes to the socket that it should go to.
-/

namespace L3Extract

open OperationEvent Transition

variable {S : Smoltcp}

/-- The address on which `drive_once` adds a listener for the packet. A listener at port 0 is
refused. -/
def listens_on (packet : Packet) : Option SocketAddr :=
  match parse_packet packet with
  | .ok (some (.tcp _ dst)) => if dst.port = 0 then none else some dst
  | _ => none

/-- `init_tcp` listens on the destination of a SYN that `parse_packet` finds. -/
theorem listens_on_of_parsed {p : Packet} {src dst : SocketAddr}
    (parsed : parse_packet p = .ok (some (.tcp src dst))) (port : dst.port ≠ 0) :
    listens_on p = some dst := by
  simp only [listens_on, parsed]
  exact if_neg port

/-- An opening segment is a SYN, and acknowledges nothing. -/
theorem Segment.opens_iff (seg : Segment) : seg.opens = true ↔
    seg.control = .syn ∧ seg.ack = false ∧ seg.max_seg_size ≠ some 0 := by
  simp [Segment.opens]

/-- An idle socket listens when it did before. -/
theorem TcpApi.Idle.listen_iff {api : TcpApi S.Tcp} {c c' : S.Tcp} (idle : api.Idle c c') :
    api.state c' = .listen ↔ api.state c = .listen := by
  cases idle with
  | kept state => rw [state]
  | closed state was =>
    refine iff_of_false (by rw [state]; decide) fun h => ?_
    rw [h] at was
    cases was

/-- A socket that takes a segment listens afterwards when it did and the segment opens nothing, or
when it is reset in SYN-RECEIVED. -/
theorem TcpApi.Received.listen_iff {api : TcpApi S.Tcp} {seg : Segment} {c c' : S.Tcp}
    (received : api.Received seg c c') : api.state c' = .listen ↔
      (api.state c = .listen ∧ seg.opens = false) ∨
      (api.state c = .syn_received ∧ api.resets c seg = true) := by
  cases received with
  | opened was opens state => simp [state, was, opens]
  | ignored was opens state => simp [state, was, opens]
  | relistened was resets state => simp [state, was, resets]
  | advanced was state ends resets =>
    refine iff_of_false (fun h => ?_) ?_
    · rcases state with state | ⟨connected, -⟩
      · rw [← state, h] at was
        cases was
      · rw [h] at connected
        cases connected
    · rintro (⟨h, -⟩ | ⟨-, h⟩)
      · rw [h] at was
        cases was
      · cases resets.symm.trans h
  | closed was state =>
    refine iff_of_false (by rw [state]; decide) ?_
    rintro (⟨h, -⟩ | ⟨h, -⟩) <;> (rw [h] at was; cases was)

/-- The socket has the connection from `src` to `dst`. -/
def TcpApi.Connects {Socket : Type} (api : TcpApi Socket) (c : Socket) (src dst : IpEndpoint) :
    Prop :=
  api.remote_endpoint c = some src ∧ api.local_endpoint c = some dst

instance {Socket : Type} (api : TcpApi Socket) (c : Socket) (src dst : IpEndpoint) :
    Decidable (api.Connects c src dst) := by
  unfold TcpApi.Connects
  infer_instance

/-- A socket with a connection is in a state that has one. -/
theorem TcpApi.Connects.connected (spec : S.Spec) {c : S.Tcp} {src dst : IpEndpoint}
    (connects : S.tcp.Connects c src dst) : (S.tcp.state c).connected = true := by
  rw [← spec.remote_endpoint, connects.1]
  rfl

/-- A socket with a connection is not closed. -/
theorem TcpApi.Connects.not_closed (spec : S.Spec) {c : S.Tcp} {src dst : IpEndpoint}
    (connects : S.tcp.Connects c src dst) : S.tcp.state c ≠ .closed := fun h => by
  have := connects.connected spec
  rw [h] at this
  cases this

/-- A socket with a connection does not listen. -/
theorem TcpApi.Connects.not_listen (spec : S.Spec) {c : S.Tcp} {src dst : IpEndpoint}
    (connects : S.tcp.Connects c src dst) : S.tcp.state c ≠ .listen := fun h => by
  have := connects.connected spec
  rw [h] at this
  cases this

/-- With the same endpoints the connection is the same. -/
theorem TcpApi.SameEndpoints.connects {api : TcpApi S.Tcp} {c c' : S.Tcp}
    (ends : api.SameEndpoints c c') {src dst : IpEndpoint} (connects : api.Connects c' src dst) :
    api.Connects c src dst :=
  ⟨ends.2.2.symm.trans connects.1, ends.2.1.symm.trans connects.2⟩

/-- An idle socket gets no connection. -/
theorem TcpApi.Idle.connects (spec : S.Spec) {c c' : S.Tcp} (idle : S.tcp.Idle c c')
    {src dst : IpEndpoint} (connects : S.tcp.Connects c' src dst) : S.tcp.Connects c src dst := by
  cases idle with
  | kept state ends => exact ends.connects connects
  | closed state => exact absurd state (connects.not_closed spec)

/-- A socket gets a connection only when it listens, and takes the segment that opens it. -/
theorem TcpApi.Received.connects (spec : S.Spec) {seg : Segment} {c c' : S.Tcp}
    (received : S.tcp.Received seg c c') {src dst : IpEndpoint}
    (connects : S.tcp.Connects c' src dst) :
    S.tcp.Connects c src dst ∨
      S.tcp.state c = .listen ∧ seg.opens = true ∧ seg.src = src ∧ seg.dst = dst := by
  cases received with
  | opened was opens state local_ remote =>
    exact .inr ⟨was, opens, Option.some.inj (remote.symm.trans connects.1),
      Option.some.inj (local_.symm.trans connects.2)⟩
  | ignored was opens state ends => exact .inl (ends.connects connects)
  | relistened was resets state => exact absurd state (connects.not_listen spec)
  | advanced was state ends => exact .inl (ends.connects connects)
  | closed was state => exact absurd state (connects.not_closed spec)

/-- A handler makes no connection. -/
theorem TcpApi.Handled.connects (spec : S.Spec) {c c' : S.Tcp} (handled : S.tcp.Handled c c')
    {src dst : IpEndpoint} (connects : S.tcp.Connects c' src dst) : S.tcp.Connects c src dst := by
  cases handled with
  | used state ends => exact ends.connects connects
  | closed eq =>
    subst eq
    rcases spec.close_ends c with ends | closed
    · exact ends.connects connects
    · exact absurd closed (connects.not_closed spec)

namespace TcpStack

/-! ## What is polled -/

/-- The segment that the packet hands to the sockets. -/
def segment (t : TcpStack S) (packet : Option Packet) : Option Segment :=
  packet.bind (S.deliver t.interface)

/-- `u` is what `drive_once` polls: the sockets of `t`, and the listener for the packet. -/
structure Polls (t : TcpStack S) (packet : Option Packet) (u : TcpStack S) : Prop where
  drained : u.Drained
  interface : u.interface = t.interface
  old : ∀ i ≠ t.socket_set.free, u.tcp_at i = t.tcp_at i
  listener : ∀ dst ∈ packet.bind listens_on, ∃ c, u.tcp_at t.socket_set.free = some c ∧
    S.tcp.state c = .listen ∧ S.tcp.listen_endpoint c = .from dst
  only : ∀ c, u.tcp_at t.socket_set.free = some c → ∃ dst, packet.bind listens_on = some dst

/-- The free slot holds no TCP socket. -/
theorem tcp_at_free (t : TcpStack S) : t.tcp_at t.socket_set.free = none := by
  rw [TcpStack.tcp_at, TcpStack.socket_at, t.socket_set.val_free]
  rfl

/-- The slot of a socket is not the free one. -/
theorem ne_free_of_tcp_at {t : TcpStack S} {i : ℕ} {c : S.Tcp} (h : t.tcp_at i = some c) :
    i ≠ t.socket_set.free := by
  rintro rfl
  rw [tcp_at_free] at h
  cases h

/-- Nothing but the listener is added before the poll. -/
theorem Begins.polls (spec : S.Spec) {t t' : TcpStack S} {packet : Option Packet} {now : ℕ}
    (begins : Begins t packet now t' (.ok ())) (drained : t.Drained) :
    ∃ u, Polls t packet u ∧ t' = (u.push packet).poll now := by
  cases begins with
  | polled quiet =>
    refine ⟨t, ⟨drained, rfl, fun _ _ => rfl, fun dst hdst => ?_, fun c hc => ?_⟩, rfl⟩
    · -- No SYN arrived that a listener is made for.
      obtain ⟨p, hp, hdst⟩ := Option.bind_eq_some_iff.mp hdst
      simp only [listens_on] at hdst
      split at hdst
      · exact (quiet p hp _ _ ‹_›).elim
      · cases hdst
    · rw [tcp_at_free] at hc
      cases hc
  | opened arrived opens adds =>
    rename_i p h s accepted u
    have index : h.handle.index = t.socket_set.free := by rw [adds.handle]; rfl
    refine ⟨u, ⟨?_, adds.interface, fun i hi => ?_, fun dst hdst => ?_, fun c hc => ?_⟩, rfl⟩
    · rw [Drained, adds.virtual_iface]
      exact drained
    · rw [TcpStack.tcp_at, TcpStack.tcp_at, adds.socket_at, index, if_neg hi]
    · rw [arrived, Option.bind_some] at hdst
      cases opens with
      | tcp parsed listens =>
        obtain ⟨port, state, endpoint⟩ := spec.listens listens
        obtain rfl := Option.some.inj ((listens_on_of_parsed parsed port).symm.trans hdst)
        refine ⟨_, ?_, state, endpoint⟩
        rw [tcp_at_eq_some, adds.socket_at, index, if_pos rfl]
      | udp parsed fresh binds =>
        simp only [listens_on, parsed] at hdst
        cases hdst
    · rcases adds.tcp_at hc with ⟨-, rfl⟩ | ⟨hi, -⟩
      · cases opens with
        | tcp parsed listens =>
          obtain ⟨port, -, -⟩ := spec.listens listens
          exact ⟨_, by rw [arrived]; exact listens_on_of_parsed parsed port⟩
      · exact absurd index.symm hi

/-- In the sockets of a stack, `taker` finds the first slot with a socket that accepts the
segment. -/
theorem taker_eq_some {t : TcpStack S} {seg : Segment} {i : ℕ} :
    S.tcp.taker t.sockets seg = some i ↔
      (∃ c, t.tcp_at i = some c ∧ S.tcp.accepts c seg = true) ∧
      ∀ j < i, ∀ c, t.tcp_at j = some c → S.tcp.accepts c seg = false := by
  simp only [TcpApi.taker_eq_some, get_sockets, tcp_at_eq_some]

/-- The poll keeps the sockets. -/
theorem exists_tcp_at_poll {t : TcpStack S} {i : ℕ} {c : S.Tcp} (h : t.tcp_at i = some c)
    (packet : Option Packet) (now : ℕ) : ∃ c', ((t.push packet).poll now).tcp_at i = some c' := by
  have h : (t.push packet).socket_at i = some (.tcp c) := tcp_at_eq_some.mp h
  exact ⟨_, tcp_at_eq_some.mpr (by rw [socket_at_poll, h]; rfl)⟩

section Poll

variable {t u : TcpStack S} {packet : Option Packet} {now : ℕ} (polls : Polls t packet u)

include polls

/-- The sockets that were there are polled. -/
theorem Polls.tcp_at {i : ℕ} {c : S.Tcp} (h : t.tcp_at i = some c) : u.tcp_at i = some c :=
  (polls.old i (ne_free_of_tcp_at h)).trans h

/-- A socket of `t` that takes the segment in `u` takes it in `t`. -/
theorem Polls.taker {seg : Segment} {i : ℕ} (old : i ≠ t.socket_set.free)
    (h : S.tcp.taker u.sockets seg = some i) : S.tcp.taker t.sockets seg = some i := by
  obtain ⟨⟨c, hc, accepts⟩, first⟩ := taker_eq_some.mp h
  rw [polls.old i old] at hc
  exact taker_eq_some.mpr ⟨⟨c, hc, accepts⟩, fun j hj d hd => first j hj d (polls.tcp_at hd)⟩

/-- A socket that takes the segment in `t` takes it in `u`, unless the listener comes before. -/
theorem Polls.taker_or {seg : Segment} {i : ℕ} (h : S.tcp.taker t.sockets seg = some i) :
    S.tcp.taker u.sockets seg = some i ∨ t.socket_set.free < i ∧
      S.tcp.taker u.sockets seg = some t.socket_set.free := by
  obtain ⟨⟨c, hc, accepts⟩, first⟩ := taker_eq_some.mp h
  have hget : Slots.get u.sockets i = some (.tcp c) := by
    rw [get_sockets, tcp_at_eq_some.mp (polls.tcp_at hc)]
  obtain ⟨k, hk, hu⟩ := TcpApi.exists_taker hget accepts
  by_cases hfree : k = t.socket_set.free
  · subst hfree
    exact .inr ⟨lt_of_le_of_ne hk fun hi => ne_free_of_tcp_at hc hi.symm, hu⟩
  · refine .inl ?_
    have := polls.taker hfree hu
    rwa [← Option.some.inj (this.symm.trans h)]

/-- A socket after the poll took the segment, or was idle. -/
theorem Polls.tcp_at_poll (spec : S.Spec) {i : ℕ} {c' : S.Tcp}
    (h : ((u.push packet).poll now).tcp_at i = some c') :
    ∃ c, u.tcp_at i = some c ∧
      ((∃ seg, t.segment packet = some seg ∧ S.tcp.taker u.sockets seg = some i ∧
        S.tcp.Received seg c c') ∨
      (∀ seg, t.segment packet = some seg → S.tcp.taker u.sockets seg ≠ some i) ∧
        S.tcp.Idle c c') := by
  have := TcpStack.tcp_at_poll spec polls.drained h
  rwa [polls.interface] at this

/-- The socket that takes the segment processes it. -/
theorem Polls.received (spec : S.Spec) {i : ℕ} {seg : Segment} (hseg : t.segment packet = some seg)
    (htaker : S.tcp.taker u.sockets seg = some i) (now : ℕ) :
    ∃ c c', u.tcp_at i = some c ∧ ((u.push packet).poll now).tcp_at i = some c' ∧
      S.tcp.accepts c seg = true ∧ S.tcp.Received seg c c' := by
  obtain ⟨⟨c, hc, accepts⟩, -⟩ := taker_eq_some.mp htaker
  obtain ⟨c', hc'⟩ := exists_tcp_at_poll hc packet now
  obtain ⟨c₀, hc₀, ⟨seg', hseg', -, received⟩ | ⟨idle, -⟩⟩ := polls.tcp_at_poll spec hc'
  · cases hc.symm.trans hc₀
    cases hseg.symm.trans hseg'
    exact ⟨c, c', hc, hc', accepts, received⟩
  · exact absurd htaker (idle seg hseg)

end Poll

/-! ## Listeners -/

/-- No socket listens. -/
def NoListener (t : TcpStack S) : Prop := ∀ i c, t.tcp_at i = some c → S.tcp.state c ≠ .listen

/-- A SYN for which a listener is added is handed to the sockets, and opens a connection, and no
socket in a lower slot accepts it. No socket in SYN-RECEIVED takes a segment that resets it. -/
def SynTaken (t : TcpStack S) (packet : Option Packet) : Prop :=
  (∀ dst ∈ packet.bind listens_on, ∃ seg ∈ t.segment packet, seg.opens = true ∧
    seg.dst.listen = .from dst ∧
    ∀ i < t.socket_set.free, ∀ c ∈ t.tcp_at i, S.tcp.accepts c seg = false) ∧
  ∀ seg ∈ t.segment packet, ∀ i ∈ S.tcp.taker t.sockets seg, ∀ c ∈ t.tcp_at i,
    S.tcp.state c = .syn_received → S.tcp.resets c seg = false

instance (t : TcpStack S) (packet : Option Packet) : Decidable (t.SynTaken packet) := by
  unfold SynTaken
  infer_instance

/-- Under the guard, the listener for a SYN takes it. -/
theorem SynTaken.opened (spec : S.Spec) {t u : TcpStack S} {packet : Option Packet}
    (guard : t.SynTaken packet) (polls : Polls t packet u) {dst : SocketAddr}
    (hdst : packet.bind listens_on = some dst) (now : ℕ) :
    ∃ seg c, t.segment packet = some seg ∧
      ((u.push packet).poll now).tcp_at t.socket_set.free = some c ∧
      S.tcp.state c = .syn_received ∧ S.tcp.local_endpoint c = some seg.dst ∧
      S.tcp.remote_endpoint c = some seg.src := by
  obtain ⟨seg, hseg, opens, endpoint, first⟩ := guard.1 dst hdst
  obtain ⟨c, hc, listens, hendpoint⟩ := polls.listener dst hdst
  have accepts : S.tcp.accepts c seg = true :=
    (spec.accepts_listen c seg listens (by rw [hendpoint]; rfl)).mpr
      ⟨(seg.opens_iff.mp opens).2.1, hendpoint.trans endpoint.symm⟩
  have htaker : S.tcp.taker u.sockets seg = some t.socket_set.free := by
    refine taker_eq_some.mpr ⟨⟨c, hc, accepts⟩, fun j hj d hd => first j hj d ?_⟩
    rwa [polls.old j hj.ne] at hd
  obtain ⟨c₀, c', hc₀, hc', -, received⟩ := polls.received spec hseg htaker now
  cases hc.symm.trans hc₀
  refine ⟨seg, c', hseg, hc', ?_⟩
  cases received with
  | opened was opens state local_ remote => exact ⟨state, local_, remote⟩
  | ignored was opens' => cases opens.symm.trans opens'
  | relistened was => cases listens.symm.trans was
  | advanced was => rw [listens] at was; cases was
  | closed was => rw [listens] at was; cases was

/-- When no socket listens before a poll, none does afterwards exactly under the guard. -/
theorem Polls.no_listener (spec : S.Spec) {t u : TcpStack S} {packet : Option Packet}
    (polls : Polls t packet u) (quiet : t.NoListener) (now : ℕ) :
    NoListener ((u.push packet).poll now) ↔ t.SynTaken packet := by
  constructor
  · intro none
    refine ⟨fun dst hdst => ?_, fun seg hseg i htaker c hc was => ?_⟩
    · obtain ⟨c, hc, listens, endpoint⟩ := polls.listener dst hdst
      obtain ⟨c', hc'⟩ := exists_tcp_at_poll hc packet now
      obtain ⟨c₀, hc₀, ⟨seg, hseg, htaker, received⟩ | ⟨-, idle⟩⟩ := polls.tcp_at_poll spec hc'
      · cases hc.symm.trans hc₀
        obtain ⟨⟨d, hd, accepts⟩, first⟩ := taker_eq_some.mp htaker
        cases hc.symm.trans hd
        refine ⟨seg, hseg, ?_, ?_, fun j hj d hd => first j hj d (polls.tcp_at hd)⟩
        · by_contra opens
          exact none _ _ hc' (received.listen_iff.mpr (.inl ⟨listens, by simpa using opens⟩))
        · have addressed : (S.tcp.listen_endpoint c).addr.isSome = true := by rw [endpoint]; rfl
          exact ((spec.accepts_listen c seg listens addressed).mp accepts).2.symm.trans endpoint
      · cases hc.symm.trans hc₀
        exact absurd (idle.listen_iff.mpr listens) (none _ _ hc')
    · by_contra resets
      have resets : S.tcp.resets c seg = true := by simpa using resets
      rcases polls.taker_or htaker with hu | ⟨-, hu⟩
      · obtain ⟨c₀, c', hc₀, hc', -, received⟩ := polls.received spec hseg hu now
        cases (polls.tcp_at hc).symm.trans hc₀
        exact none _ _ hc' (received.listen_iff.mpr (.inr ⟨was, resets⟩))
      · -- The listener takes the segment, which does not open a connection.
        obtain ⟨d, d', hd, hd', -, received⟩ := polls.received spec hseg hu now
        obtain ⟨dst, hdst⟩ := polls.only d hd
        obtain ⟨d₀, hd₀, listens, -⟩ := polls.listener dst hdst
        cases hd.symm.trans hd₀
        have opens : seg.opens = false := by
          by_contra opens
          have syn := (seg.opens_iff.mp (by simpa using opens)).1
          cases syn.symm.trans (spec.resets_rst c seg resets)
        exact none _ _ hd' (received.listen_iff.mpr (.inl ⟨listens, opens⟩))
  · intro guard i c' hc' listens
    -- The new socket left Listen by its SYN, and the others do not come back to it.
    obtain ⟨c, hc, hcase⟩ := polls.tcp_at_poll spec hc'
    by_cases hi : i = t.socket_set.free
    · subst hi
      obtain ⟨dst, hdst⟩ := polls.only c hc
      obtain ⟨seg, d, -, hd, state, -, -⟩ := guard.opened spec polls hdst now
      cases hc'.symm.trans hd
      cases listens.symm.trans state
    · have hold : t.tcp_at i = some c := (polls.old i hi).symm.trans hc
      rcases hcase with ⟨seg, hseg, htaker, received⟩ | ⟨-, idle⟩
      · rcases received.listen_iff.mp listens with ⟨was, -⟩ | ⟨was, resets⟩
        · exact quiet i c hold was
        · have := guard.2 seg hseg i (polls.taker hi htaker) c hold was
          cases this.symm.trans resets
      · exact quiet i c hold (idle.listen_iff.mp listens)

/-- A handler makes no socket listen. -/
theorem no_listener_handle (spec : S.Spec) {t t' : TcpStack S} {e : OperationEvent}
    (quiet : t.NoListener) (ok : t.handle e = .ok t') : t'.NoListener := by
  intro i c' hc' listens
  obtain ⟨c, hc, handled⟩ := (handle_outcome ok).tcp_at spec hc'
  cases handled with
  | used state => exact quiet i c hc (state.symm.trans listens)
  | closed eq =>
    have opening := (S.tcp.state c).opening_after_close
    rw [← spec.close_state, ← eq, listens] at opening
    cases opening

/-- Under the guard, no socket listens when `drive_once` comes to its events, or returns early. -/
theorem no_listener_begin (spec : S.Spec) {t t' : TcpStack S} {packet : Option Packet} {now : ℕ}
    {res : Except DriveError Unit} (drained : t.Drained) (quiet : t.NoListener)
    (guard : t.SynTaken packet) (ok : t.begin_drive packet now = .ok (t', res)) :
    t'.NoListener := by
  have begins := begin_drive_cases ok
  cases res with
  | ok =>
    obtain ⟨u, polls, rfl⟩ := begins.polls spec drained
    exact (polls.no_listener spec quiet now).mpr guard
  | error err =>
    cases begins with
    | failed => exact quiet
    | unready arrived opens adds disconnected protocol =>
      intro i c hc
      rcases adds.tcp_at hc with ⟨-, rfl⟩ | ⟨-, hc⟩
      · cases protocol.symm.trans adds.protocol.symm
      · exact quiet i c hc

/-- A move leaves the receive queue empty. -/
theorem drained_move {t t' : TcpStack S} {m : Move} (step : t.move m = some t')
    (drained : t.Drained) : t'.Drained :=
  move_keeps step (fun _ _ _ _ _ _ hb => (begin_drive_cases hb).drained drained)
    (fun _ _ _ drained ok => (handle_outcome ok).drained drained)
    (fun _ _ _ _ _ rx drained => rx.trans drained) drained

/-- The receive queue is empty in every run. -/
theorem drained_run {size : ℕ} {interface : S.Interface} {guard : TcpStack S → Move → Prop}
    {t : TcpStack S} (run : Run move guard (new size interface) t) : t.Drained :=
  have start : (new size interface).Drained := rfl
  run.invariant start fun _ _ _ _ _ step drained => drained_move step drained

/-- In every run every TCP socket that is not closed is on its address. -/
theorem addressed_run (spec : S.Spec) {size : ℕ} {interface : S.Interface}
    {guard : TcpStack S → Move → Prop} {t : TcpStack S}
    (run : Run move guard (new size interface) t) : t.Addressed := by
  refine run.invariant (I := Addressed) ?_ fun t m t' hr _ step addressed => ?_
  · intro i c hc
    simp [new, TcpStack.tcp_at, TcpStack.socket_at] at hc
  · exact move_keeps step
      (fun _ _ _ _ _ _ hb => (begin_drive_cases hb).addressed spec (drained_run hr) addressed)
      (fun _ _ _ addressed ok => (handle_outcome ok).addressed spec addressed)
      (fun _ _ set _ _ _ addressed i c hc => addressed i c (by
        rwa [TcpStack.tcp_at, TcpStack.socket_at, set] at hc)) addressed

/-- The guard `SynTaken`, for the packets of a run. -/
def TakesSyns (t : TcpStack S) : Move → Prop
  | .drive_once packet _ _ => t.SynTaken packet
  | .outside .. => True

instance (t : TcpStack S) (m : Move) : Decidable (t.TakesSyns m) := by
  unfold TakesSyns
  split <;> infer_instance

/-- In a run in which every packet meets the guard, no socket ever listens after a call of
`drive_once`. When a further call polls the interface, no socket listens after the poll exactly when
its packet meets the guard; then a listener that was added has taken the packet's SYN. -/
theorem no_stray_listener (spec : S.Spec) {size : ℕ} {interface : S.Interface} {t : TcpStack S}
    (run : Run move TakesSyns (new size interface) t) :
    t.NoListener ∧ ∀ packet now t', t.begin_drive packet now = .ok (t', .ok ()) →
      (t'.NoListener ↔ t.SynTaken packet) ∧
      (t.SynTaken packet → ∀ dst, packet.bind listens_on = some dst →
        ∃ seg c, t.segment packet = some seg ∧ t'.tcp_at t.socket_set.free = some c ∧
          S.tcp.state c = .syn_received ∧ S.tcp.local_endpoint c = some seg.dst ∧
          S.tcp.remote_endpoint c = some seg.src) := by
  have quiet : t.NoListener := by
    refine run.invariant (I := NoListener) ?_ fun t m t' hr guard step quiet => ?_
    · intro i c hc
      simp [new, TcpStack.tcp_at, TcpStack.socket_at] at hc
    refine move_keeps step ?_ (fun u e u' quiet ok => no_listener_handle spec quiet ok) ?_ quiet
    · rintro packet now events u res rfl hb
      exact no_listener_begin spec (drained_run hr) quiet guard hb
    · intro u u' set _ _ _ quiet i c hc
      rw [TcpStack.tcp_at, TcpStack.socket_at, set] at hc
      exact quiet i c hc
  refine ⟨quiet, fun packet now t' hb => ?_⟩
  obtain ⟨u, polls, rfl⟩ := (begin_drive_cases hb).polls spec (drained_run run)
  exact ⟨polls.no_listener spec quiet now, fun guard dst hdst => guard.opened spec polls hdst now⟩

open Reference in
/-- A SYN that is sent again, as its answer is late, leaves a listener in slot 1. -/
theorem stray_listener : ∃ t : TcpStack reference,
    exec move (new 64 ()) [.drive_once (some (syn 1 2)) 0 none,
      .drive_once (some (syn 1 2)) 0 none] = some t ∧
    (t.tcp_at 1).map reference.tcp.state = some .listen := by
  obtain ⟨t, ht, hl⟩ := exists_of_exec_any move (new 64 () : TcpStack reference)
    [.drive_once (some (syn 1 2)) 0 none, .drive_once (some (syn 1 2)) 0 none]
    (fun t => (t.tcp_at 1).map reference.tcp.state = some .listen) (by decide +kernel)
  exact ⟨t, ht, of_decide_eq_true hl⟩

open Reference in
/-- Two clients connect, and the first of them resets its connection: no listener is left. -/
theorem no_stray_listener_two : ∃ t : TcpStack reference,
    Run move TakesSyns (new 64 ()) t ∧ (t.tcp_at 1).isSome = true ∧ t.NoListener := by
  obtain ⟨t, ht, hs⟩ := exists_of_execIf_any move (new 64 () : TcpStack reference)
    (fun t m => t.TakesSyns m)
    [.drive_once (some (syn 1 2)) 0 none, .drive_once (some (ack 1 2 [])) 0 none,
      .drive_once (some (syn 2 2)) 0 none, .drive_once (some (rst 1 2)) 0 none]
    (fun t => (t.tcp_at 1).isSome) (by decide +kernel)
  have run : Run move TakesSyns (new 64 ()) t := .of_execIf (fun _ _ h => of_decide_eq_true h) ht
  exact ⟨t, run, hs, (no_stray_listener reference_spec run).1⟩

/-! ## Connections -/

/-- No two sockets have the same connection. -/
def OneSocket (t : TcpStack S) : Prop :=
  ∀ src dst i j c d, t.tcp_at i = some c → t.tcp_at j = some d → S.tcp.Connects c src dst →
    S.tcp.Connects d src dst → i = j

/-- No slot before `j` has a listener for the segment, and neither has the free slot when the packet
has arrived. -/
def Foremost (t : TcpStack S) (packet : Option Packet) (seg : Segment) (j : ℕ) : Prop :=
  (∀ i < j, ∀ c ∈ t.tcp_at i, S.tcp.state c = .listen →
    S.tcp.listen_endpoint c ≠ seg.dst.listen) ∧
  ∀ dst ∈ packet.bind listens_on, .from dst = seg.dst.listen → j < t.socket_set.free

instance (t : TcpStack S) (packet : Option Packet) (seg : Segment) (j : ℕ) :
    Decidable (t.Foremost packet seg j) := by
  unfold Foremost
  infer_instance

/-- A socket whose connection a SYN opens again comes before every listener for the SYN. -/
def SynKnown (t : TcpStack S) (packet : Option Packet) : Prop :=
  ∀ seg ∈ t.segment packet, seg.opens = true → ∀ j < t.sockets.length, ∀ d ∈ t.tcp_at j,
    S.tcp.Connects d seg.src seg.dst → t.Foremost packet seg j

instance (t : TcpStack S) (packet : Option Packet) : Decidable (t.SynKnown packet) := by
  unfold SynKnown
  infer_instance

/-- A TCP socket is in one of the slots. -/
theorem lt_length_of_tcp_at {t : TcpStack S} {i : ℕ} {c : S.Tcp} (h : t.tcp_at i = some c) :
    i < t.sockets.length := by
  have hget : Slots.get t.sockets i = some (.tcp c) := by rw [get_sockets, tcp_at_eq_some.mp h]
  exact (List.getElem?_eq_some_iff.mp (Option.join_eq_some_iff.mp hget)).1

/-- The sockets that are polled have an address. -/
theorem Polls.addressed {t u : TcpStack S} {packet : Option Packet} (polls : Polls t packet u)
    (addressed : t.Addressed) : u.Addressed := by
  intro i c hc there
  by_cases hi : i = t.socket_set.free
  · subst hi
    obtain ⟨dst, hdst⟩ := polls.only c hc
    obtain ⟨c₀, hc₀, -, endpoint⟩ := polls.listener dst hdst
    cases hc.symm.trans hc₀
    rw [endpoint]
    rfl
  · exact addressed i c ((polls.old i hi).symm.trans hc) there

/-- A socket that has a connection is there before the poll. -/
theorem Polls.old_of_connects (spec : S.Spec) {t u : TcpStack S} {packet : Option Packet}
    (polls : Polls t packet u) {i : ℕ} {c : S.Tcp} (hc : u.tcp_at i = some c)
    {src dst : IpEndpoint} (connects : S.tcp.Connects c src dst) : t.tcp_at i = some c := by
  by_cases hi : i = t.socket_set.free
  · subst hi
    obtain ⟨dst', hdst'⟩ := polls.only c hc
    obtain ⟨c₀, hc₀, listens, -⟩ := polls.listener dst' hdst'
    cases hc.symm.trans hc₀
    have := connects.connected spec
    rw [listens] at this
    cases this
  · exact (polls.old i hi).symm.trans hc

/-- Under the guard, no socket but the one that has it takes a connection. -/
theorem Polls.takes_known (spec : S.Spec) {t u : TcpStack S} {packet : Option Packet} {now : ℕ}
    (polls : Polls t packet u) (addressed : t.Addressed) (one : t.OneSocket)
    (guard : t.SynKnown packet) {src dst : IpEndpoint} {i j : ℕ} {c' d : S.Tcp}
    (hc' : ((u.push packet).poll now).tcp_at i = some c') (hd : t.tcp_at j = some d)
    (connects' : S.tcp.Connects c' src dst) (connects : S.tcp.Connects d src dst) : i = j := by
  obtain ⟨c, hc, ⟨seg, hseg, htaker, received⟩ | ⟨-, idle⟩⟩ := polls.tcp_at_poll spec hc'
  · rcases received.connects spec connects' with before | ⟨was, opens, rfl, rfl⟩
    · exact one _ _ i j c d (polls.old_of_connects spec hc before) hd before connects
    · -- The socket in slot `j` accepts the segment, so that slot `i` comes before.
      have hget : Slots.get u.sockets j = some (.tcp d) := by
        rw [get_sockets, tcp_at_eq_some.mp (polls.tcp_at hd)]
      obtain ⟨k, hk, hu⟩ := TcpApi.exists_taker hget
        ((spec.accepts_connected d seg (connects.connected spec)).mpr ⟨connects.2, connects.1⟩)
      obtain rfl := Option.some.inj (htaker.symm.trans hu)
      by_contra hne
      obtain ⟨lower, free⟩ := guard seg hseg opens j (lt_length_of_tcp_at hd) d hd connects
      obtain ⟨⟨c₀, hc₀, accepts⟩, -⟩ := taker_eq_some.mp htaker
      cases hc.symm.trans hc₀
      have there : S.tcp.state c ≠ .closed := fun h => by rw [h] at was; cases was
      have endpoint :=
        ((spec.accepts_listen c seg was (polls.addressed addressed i c hc there)).mp accepts).2
      by_cases hi : i = t.socket_set.free
      · subst hi
        obtain ⟨dst', hdst'⟩ := polls.only c hc
        obtain ⟨c₁, hc₁, -, hendpoint⟩ := polls.listener dst' hdst'
        cases hc.symm.trans hc₁
        exact absurd (free dst' hdst' (hendpoint.symm.trans endpoint)) (Nat.not_lt.mpr hk)
      · exact lower i (lt_of_le_of_ne hk hne) c ((polls.old i hi).symm.trans hc) was endpoint
  · have before := idle.connects spec connects'
    exact one _ _ i j c d (polls.old_of_connects spec hc before) hd before connects

/-- A poll under the guard leaves one socket for each connection. -/
theorem Polls.one_socket (spec : S.Spec) {t u : TcpStack S} {packet : Option Packet}
    (polls : Polls t packet u) (addressed : t.Addressed) (one : t.OneSocket)
    (guard : t.SynKnown packet) (now : ℕ) : OneSocket ((u.push packet).poll now) := by
  intro src dst i j c' d' hc' hd' connects connects'
  obtain ⟨d, hd, ⟨seg, hseg, htaker, received⟩ | ⟨-, idle⟩⟩ := polls.tcp_at_poll spec hd'
  · rcases received.connects spec connects' with before | ⟨was, opens, rfl, rfl⟩
    · exact polls.takes_known spec addressed one guard hc' (polls.old_of_connects spec hd before)
        connects before
    · -- Slot `j` took the segment, so slot `i` was idle or is the same.
      obtain ⟨c, hc, ⟨seg', hseg', htaker', -⟩ | ⟨-, idle⟩⟩ := polls.tcp_at_poll spec hc'
      · cases hseg.symm.trans hseg'
        exact Option.some.inj (htaker'.symm.trans htaker)
      · have before := idle.connects spec connects
        exact (polls.takes_known spec addressed one guard hd'
          (polls.old_of_connects spec hc before) connects' before).symm
  · have before := idle.connects spec connects'
    exact polls.takes_known spec addressed one guard hc' (polls.old_of_connects spec hd before)
      connects before

/-- A listener that comes before the socket of a connection, or an earlier one, takes a SYN that
opens the connection again. -/
theorem Polls.takes_again (spec : S.Spec) {t u : TcpStack S} {packet : Option Packet}
    (polls : Polls t packet u) (one : t.OneSocket) {seg : Segment}
    (hseg : t.segment packet = some seg) (opens : seg.opens = true) {i j : ℕ} {c d : S.Tcp}
    (hij : i < j) (hc : u.tcp_at i = some c) (listens : S.tcp.state c = .listen)
    (endpoint : S.tcp.listen_endpoint c = seg.dst.listen) (hd : t.tcp_at j = some d)
    (connects : S.tcp.Connects d seg.src seg.dst) (now : ℕ) :
    ∃ k < j, ∃ c', ((u.push packet).poll now).tcp_at k = some c' ∧
      S.tcp.Connects c' seg.src seg.dst := by
  have hget : Slots.get u.sockets i = some (.tcp c) := by rw [get_sockets, tcp_at_eq_some.mp hc]
  obtain ⟨k, hk, htaker⟩ := TcpApi.exists_taker hget
    ((spec.accepts_listen c seg listens (by rw [endpoint]; rfl)).mpr
      ⟨(seg.opens_iff.mp opens).2.1, endpoint⟩)
  obtain ⟨e, e', he, he', accepts, received⟩ := polls.received spec hseg htaker now
  -- No socket in a slot before `j` has the connection.
  have fresh : ¬ S.tcp.Connects e seg.src seg.dst := fun before => by
    have := one _ _ k j e d (polls.old_of_connects spec he before) hd before connects
    omega
  refine ⟨k, by omega, e', he', ?_⟩
  cases received with
  | opened was opens' state local_ remote => exact ⟨remote, local_⟩
  | ignored was opens' => cases opens.symm.trans opens'
  | relistened was resets =>
    cases (seg.opens_iff.mp opens).1.symm.trans (spec.resets_rst e seg resets)
  | advanced was =>
    obtain ⟨hlocal, hremote⟩ := (spec.accepts_connected e seg was).mp accepts
    exact absurd ⟨hremote, hlocal⟩ fresh
  | closed was =>
    by_cases closed : S.tcp.state e = .closed
    · cases (spec.accepts_closed e seg closed).symm.trans accepts
    · have connected : (S.tcp.state e).connected = true := by
        have hlisten : S.tcp.state e ≠ .listen := fun h => by rw [h] at was; cases was
        simp [TcpState.connected, closed, hlisten]
      obtain ⟨hlocal, hremote⟩ := (spec.accepts_connected e seg connected).mp accepts
      exact absurd ⟨hremote, hlocal⟩ fresh

/-- The guard is met exactly when no other socket takes a connection that a socket has. -/
theorem Polls.syn_known_iff (spec : S.Spec) {t u : TcpStack S} {packet : Option Packet}
    (polls : Polls t packet u) (addressed : t.Addressed) (one : t.OneSocket) (now : ℕ) :
    t.SynKnown packet ↔ ∀ seg, t.segment packet = some seg → seg.opens = true →
      ∀ i j c' d, ((u.push packet).poll now).tcp_at i = some c' → t.tcp_at j = some d →
        S.tcp.Connects c' seg.src seg.dst → S.tcp.Connects d seg.src seg.dst → i = j := by
  refine ⟨fun guard seg _ _ i j c' d hc' hd =>
    polls.takes_known spec addressed one guard hc' hd, ?_⟩
  intro takes seg hseg opens j _ d hd connects
  have early : ∀ i < j, ∀ c, u.tcp_at i = some c → S.tcp.state c = .listen →
      S.tcp.listen_endpoint c ≠ seg.dst.listen := by
    intro i hij c hc listens endpoint
    obtain ⟨k, hk, c', hc', connects'⟩ :=
      polls.takes_again spec one hseg opens hij hc listens endpoint hd connects now
    exact absurd (takes seg hseg opens k j c' d hc' hd connects' connects) hk.ne
  refine ⟨fun i hij c hc => early i hij c (polls.tcp_at hc), fun dst hdst endpoint => ?_⟩
  by_contra hj
  obtain ⟨c, hc, listens, hendpoint⟩ := polls.listener dst hdst
  have hlt : t.socket_set.free < j :=
    lt_of_le_of_ne (Nat.le_of_not_lt hj) (ne_free_of_tcp_at hd).symm
  exact early _ hlt c hc listens (hendpoint.trans endpoint)

/-- Handling an event gives no socket a connection that another has. -/
theorem one_socket_handle (spec : S.Spec) {t t' : TcpStack S} {e : OperationEvent}
    (one : t.OneSocket) (ok : t.handle e = .ok t') : t'.OneSocket := by
  intro src dst i j c' d' hc' hd' connects connects'
  obtain ⟨c, hc, handled⟩ := (handle_outcome ok).tcp_at spec hc'
  obtain ⟨d, hd, handled'⟩ := (handle_outcome ok).tcp_at spec hd'
  exact one src dst i j c d hc hd (handled.connects spec connects)
    (handled'.connects spec connects')

/-- Under the guard, no connection has two sockets when `drive_once` comes to its events, or returns
early. -/
theorem one_socket_begin (spec : S.Spec) {t t' : TcpStack S} {packet : Option Packet} {now : ℕ}
    {res : Except DriveError Unit} (drained : t.Drained) (addressed : t.Addressed)
    (one : t.OneSocket) (guard : t.SynKnown packet)
    (ok : t.begin_drive packet now = .ok (t', res)) :
    t'.OneSocket := by
  have begins := begin_drive_cases ok
  cases res with
  | ok =>
    obtain ⟨u, polls, rfl⟩ := begins.polls spec drained
    exact polls.one_socket spec addressed one guard now
  | error err =>
    cases begins with
    | failed => exact one
    | unready arrived opens adds disconnected protocol =>
      have old : ∀ {i c}, t'.tcp_at i = some c → t.tcp_at i = some c := by
        intro i c hc
        rcases adds.tcp_at hc with ⟨-, rfl⟩ | ⟨-, hc⟩
        · cases protocol.symm.trans adds.protocol.symm
        · exact hc
      exact fun src dst i j c d hc hd => one src dst i j c d (old hc) (old hd)

/-- The guard `SynKnown`, for the packets of a run. -/
def KnowsSyns (t : TcpStack S) : Move → Prop
  | .drive_once packet _ _ => t.SynKnown packet
  | .outside .. => True

instance (t : TcpStack S) (m : Move) : Decidable (t.KnowsSyns m) := by
  unfold KnowsSyns
  split <;> infer_instance

/-- In a run in which every packet meets the guard, no two sockets ever have the same connection.
When a further call polls the interface, its packet meets the guard exactly when no other socket
takes a connection that a socket has. -/
theorem one_socket_per_connection (spec : S.Spec) {size : ℕ} {interface : S.Interface}
    {t : TcpStack S} (run : Run move KnowsSyns (new size interface) t) :
    t.OneSocket ∧ ∀ packet now t', t.begin_drive packet now = .ok (t', .ok ()) →
      (t.SynKnown packet ↔ ∀ seg, t.segment packet = some seg → seg.opens = true →
        ∀ i j c' d, t'.tcp_at i = some c' → t.tcp_at j = some d →
          S.tcp.Connects c' seg.src seg.dst → S.tcp.Connects d seg.src seg.dst → i = j) := by
  have one : t.OneSocket := by
    refine run.invariant (I := OneSocket) ?_ fun t m t' hr guard step one => ?_
    · intro src dst i j c d hc
      simp [new, TcpStack.tcp_at, TcpStack.socket_at] at hc
    refine move_keeps step ?_ (fun u e u' one ok => one_socket_handle spec one ok) ?_ one
    · rintro packet now events u res rfl hb
      exact one_socket_begin spec (drained_run hr) (addressed_run spec hr) one guard hb
    · intro u u' set _ _ _ one src dst i j c d hc hd
      rw [TcpStack.tcp_at, TcpStack.socket_at, set] at hc hd
      exact one src dst i j c d hc hd
  refine ⟨one, fun packet now t' hb => ?_⟩
  obtain ⟨u, polls, rfl⟩ := (begin_drive_cases hb).polls spec (drained_run run)
  exact polls.syn_known_iff spec (addressed_run spec run) one now

open Reference in
/-- Two clients connect, and the first of them resets its connection in SYN-RECEIVED. When the
second sends its SYN again, the listener in slot 0 takes its connection. -/
theorem two_sockets : ∃ (t : TcpStack reference) (c d : Tcp),
    exec move (new 64 ()) [.drive_once (some (syn 1 2)) 0 none, .drive_once (some (syn 2 2)) 0 none,
      .drive_once (some (rst 1 2)) 0 none, .drive_once (some (syn 2 2)) 0 none] = some t ∧
    t.tcp_at 0 = some c ∧ t.tcp_at 1 = some d ∧
    reference.tcp.Connects c (.from (client_addr 2)) (.from (server_addr 2)) ∧
    reference.tcp.Connects d (.from (client_addr 2)) (.from (server_addr 2)) := by
  have connects : ∀ {o : Option Tcp}, (o.any fun c =>
      reference.tcp.Connects c (.from (client_addr 2)) (.from (server_addr 2))) = true →
      ∃ c, o = some c ∧
        reference.tcp.Connects c (.from (client_addr 2)) (.from (server_addr 2)) := fun h => by
    obtain ⟨c, hc, hd⟩ := (Option.any_eq_true _ _).mp h
    exact ⟨c, hc, of_decide_eq_true hd⟩
  obtain ⟨t, ht, h⟩ := exists_of_exec_any move (new 64 () : TcpStack reference)
    [.drive_once (some (syn 1 2)) 0 none, .drive_once (some (syn 2 2)) 0 none,
      .drive_once (some (rst 1 2)) 0 none, .drive_once (some (syn 2 2)) 0 none]
    (fun t => (t.tcp_at 0).any (fun c =>
        reference.tcp.Connects c (.from (client_addr 2)) (.from (server_addr 2))) &&
      (t.tcp_at 1).any fun c =>
        reference.tcp.Connects c (.from (client_addr 2)) (.from (server_addr 2)))
    (by decide +kernel)
  obtain ⟨h0, h1⟩ := Bool.and_eq_true_iff.mp h
  obtain ⟨c, hc, connects_c⟩ := connects h0
  obtain ⟨d, hd, connects_d⟩ := connects h1
  exact ⟨t, c, d, ht, hc, hd, connects_c, connects_d⟩

open Reference in
/-- A SYN that is sent again goes to the socket that has the connection, when this comes first. -/
theorem one_socket_per_connection_again : ∃ t : TcpStack reference,
    Run move KnowsSyns (new 64 ()) t ∧ (t.tcp_at 1).isSome = true ∧ t.OneSocket := by
  obtain ⟨t, ht, hs⟩ := exists_of_execIf_any move (new 64 () : TcpStack reference)
    (fun t m => t.KnowsSyns m)
    [.drive_once (some (syn 1 2)) 0 none, .drive_once (some (syn 1 2)) 0 none]
    (fun t => (t.tcp_at 1).isSome) (by decide +kernel)
  have run : Run move KnowsSyns (new 64 ()) t := .of_execIf (fun _ _ h => of_decide_eq_true h) ht
  exact ⟨t, run, hs, (one_socket_per_connection reference_spec run).1⟩

end TcpStack

end L3Extract
