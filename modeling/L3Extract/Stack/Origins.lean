import L3Extract.Stack.Accepted
import L3Extract.Stack.Buffers
import L3Extract.Stack.Listeners

/-!
# Where sockets and connections come from

A socket is made for an address, which `parse_packet` found in a packet: `init_tcp` listens on it,
and `try_init_udp` binds to it. `MadeFor` says what a socket keeps of this address for as long as it
is in the socket set: a UDP socket is bound to it, and a TCP socket that is not closed listens on it
and has it as the local end of its connection. A listener that a RST returns to LISTEN does not
forget it.

The other end of a connection comes from the segment that the listener takes (`takes`). This need
not be the segment that the listener was added for.
-/

namespace L3Extract

open OperationEvent Transition

variable {S : Smoltcp}

/-- The addresses that `parse_packet` finds in a SYN: source and destination. -/
def parsed_syn (packet : Packet) : Option (SocketAddr × SocketAddr) :=
  match parse_packet packet with
  | .ok (some (.tcp src dst)) => some (src, dst)
  | _ => none

/-- The TCP socket is for connections to the address. -/
def TcpApi.MadeFor (api : TcpApi S.Tcp) (c : S.Tcp) (dst : SocketAddr) : Prop :=
  api.state c ≠ .closed →
    api.listen_endpoint c = .from dst ∧ ∀ e, api.local_endpoint c = some e → e = .from dst

/-- The socket was made for the address. -/
def Smoltcp.MadeFor (S : Smoltcp) : S.Socket → SocketAddr → Prop
  | .tcp c, dst => S.tcp.MadeFor c dst
  | .udp u, dst => S.udp.endpoint u = .from dst

/-! ## One socket -/

/-- With the same endpoints a socket is for the same address. -/
theorem TcpApi.SameEndpoints.made_for {api : TcpApi S.Tcp} {c c' : S.Tcp}
    (ends : api.SameEndpoints c c') (closed : api.state c = .closed → api.state c' = .closed)
    {dst : SocketAddr} (made : api.MadeFor c dst) : api.MadeFor c' dst := by
  intro there
  obtain ⟨listen, local_⟩ := made fun h => there (closed h)
  obtain ⟨listen', local_', -⟩ := ends
  refine ⟨listen'.trans listen, fun e he => local_ e ?_⟩
  rwa [local_'] at he

/-- A socket that is idle stays for its address. -/
theorem TcpApi.Idle.made_for {api : TcpApi S.Tcp} {c c' : S.Tcp} (idle : api.Idle c c')
    {dst : SocketAddr} (made : api.MadeFor c dst) : api.MadeFor c' dst := by
  cases idle with
  | kept state ends => exact ends.made_for (fun h => state.trans h) made
  | closed state => exact fun there => absurd state there

/-- Two endpoints that are the same for a listener are the same. -/
theorem IpEndpoint.eq_from_of_listen {e : IpEndpoint} {dst : SocketAddr}
    (h : e.listen = .from dst) : e = .from dst := by
  cases e
  cases h
  rfl

/-- A socket that gets a segment stays for its address. -/
theorem TcpApi.Received.made_for (spec : S.Spec) {seg : Segment} {c c' : S.Tcp}
    (received : S.tcp.Received seg c c') (accepts : S.tcp.accepts c seg = true) {dst : SocketAddr}
    (made : S.tcp.MadeFor c dst) : S.tcp.MadeFor c' dst := by
  cases received with
  | opened was opens state local_ remote listen =>
    -- The segment is for the address that the socket listens on.
    intro there
    obtain ⟨endpoint, -⟩ := made fun h => by rw [h] at was; cases was
    refine ⟨listen.trans endpoint, fun e he => IpEndpoint.eq_from_of_listen ?_⟩
    have addressed := ((spec.accepts_listen c seg was (by rw [endpoint]; rfl)).mp accepts).2
    rw [← Option.some.inj (local_.symm.trans he), ← addressed, endpoint]
  | ignored was opens state ends =>
    exact ends.made_for (fun h => by rw [h] at was; cases was) made
  | relistened was resets state listen =>
    intro there
    obtain ⟨endpoint, -⟩ := made fun h => by rw [h] at was; cases was
    refine ⟨listen.trans endpoint, fun e he => ?_⟩
    -- A listening socket has no local endpoint.
    have none := spec.local_endpoint c'
    rw [he, state] at none
    cases none
  | advanced was state ends =>
    refine ends.made_for (fun h => ?_) made
    rw [h] at was
    cases was
  | closed was state => exact fun there => absurd state there

/-- A handler leaves a socket for its address. -/
theorem TcpApi.Handled.made_for (spec : S.Spec) {c c' : S.Tcp} (handled : S.tcp.Handled c c')
    {dst : SocketAddr} (made : S.tcp.MadeFor c dst) : S.tcp.MadeFor c' dst := by
  cases handled with
  | used state ends => exact ends.made_for (fun h => state.trans h) made
  | closed eq =>
    subst eq
    rcases spec.close_ends c with ends | closed
    · refine ends.made_for (fun h => ?_) made
      rw [spec.close_state, h]
      rfl
    · exact fun there => absurd closed there

namespace TcpStack

/-- The socket that the handle was made for is `s`. -/
structure Is (t : TcpStack S) (h : TypedSocketHandle) (s : S.Socket) : Prop where
  gen : t.socket_set.gen h.handle.index = some h.handle.incarnation
  socket : t.socket_at h.handle.index = some s
  protocol : s.protocol = h.protocol

/-- What a handler leaves of a socket is made for the address that the socket was made for. -/
theorem Outcome.made_for (spec : S.Spec) {t t' : TcpStack S} {e : OperationEvent}
    (outcome : Outcome t e t') {h : TypedSocketHandle} {s' : S.Socket} (is : t'.Is h s') :
    ∃ s, t.Is h s ∧ ∀ dst, S.MadeFor s dst → S.MadeFor s' dst := by
  have gen : t.socket_set.gen h.handle.index = some h.handle.incarnation := by
    rcases outcome.gen h.handle.index with same | ⟨-, gone⟩
    · rw [← same]
      exact is.gen
    · cases gone.symm.trans is.gen
  cases s' with
  | tcp c' =>
    obtain ⟨c, hc, handled⟩ := outcome.tcp_at spec (tcp_at_eq_some.mpr is.socket)
    exact ⟨.tcp c, ⟨gen, tcp_at_eq_some.mp hc, is.protocol⟩, fun dst => handled.made_for spec⟩
  | udp u' =>
    obtain ⟨u, hu, endpoint⟩ := outcome.udp_at spec (udp_at_eq_some.mpr is.socket)
    exact ⟨.udp u, ⟨gen, udp_at_eq_some.mp hu, is.protocol⟩, fun dst made => endpoint.trans made⟩

/-- So does a poll. -/
theorem made_for_poll (spec : S.Spec) {t : TcpStack S} (drained : t.Drained)
    {packet : Option Packet} {now : ℕ} {h : TypedSocketHandle} {s' : S.Socket}
    (is : ((t.push packet).poll now).Is h s') :
    ∃ s, t.Is h s ∧ ∀ dst, S.MadeFor s dst → S.MadeFor s' dst := by
  have gen : t.socket_set.gen h.handle.index = some h.handle.incarnation := by
    rw [← is.gen, (same_poll (t.push packet) now).gen]
    rfl
  cases s' with
  | tcp c' =>
    obtain ⟨c, hc, polled⟩ := TcpStack.tcp_at_poll spec drained (tcp_at_eq_some.mpr is.socket)
    refine ⟨.tcp c, ⟨gen, tcp_at_eq_some.mp hc, is.protocol⟩, fun dst made => ?_⟩
    rcases polled with ⟨seg, -, taker, received⟩ | ⟨-, idle⟩
    · obtain ⟨⟨c₀, hc₀, accepts⟩, -⟩ := taker_eq_some.mp taker
      cases hc.symm.trans hc₀
      exact received.made_for spec accepts made
    · exact idle.made_for made
  | udp u' =>
    obtain ⟨u, hu, endpoint⟩ := TcpStack.udp_at_poll spec (udp_at_eq_some.mpr is.socket)
    exact ⟨.udp u, ⟨gen, udp_at_eq_some.mp hu, is.protocol⟩, fun dst made => endpoint.trans made⟩

/-! ## The socket for a packet -/

/-- The socket that `drive_once` adds for the packet: the one that `init_tcp` listens with, or the
one that `try_init_udp` binds, with the address. -/
def made (t : TcpStack S) (packet : Option Packet) : Option (TypedSocketHandle × SocketAddr) :=
  packet.bind fun p =>
    match parse_packet p with
    | .ok (some (.tcp _ dst)) =>
      match (t.init_tcp dst).2 with
      | .ok () => some (.tcp t.next_handle, dst)
      | .error _ => none
    | .ok (some (.udp _ dst)) =>
      match (t.try_init_udp dst).2 with
      | .ok true => some (.udp t.next_handle, dst)
      | .ok false => none
      -- The socket is there, but its Ready cannot be sent.
      | .error .udp_ready => some (.udp t.next_handle, dst)
      | .error _ => none
    | _ => none

/-- The address comes from `parse_packet`. -/
theorem parsed_of_made {t : TcpStack S} {packet : Option Packet} {h : TypedSocketHandle}
    {dst : SocketAddr} (made : t.made packet = some (h, dst)) :
    h.handle = t.next_handle ∧ dst = .new dst.ip dst.port ∧
      (h.protocol = .tcp → ∃ src, packet.bind parsed_syn = some (src, dst)) := by
  obtain ⟨p, rfl, eq⟩ := Option.bind_eq_some_iff.mp made
  split at eq
  case h_1 src dst' parsed =>
    split at eq
    · cases eq
      refine ⟨rfl, normal_of_parse_packet parsed (.inl rfl), fun _ => ⟨src, ?_⟩⟩
      rw [Option.bind_some, parsed_syn, parsed]
    · cases eq
  case h_2 src dst' parsed =>
    split at eq
    case h_2 => cases eq
    case h_4 => cases eq
    all_goals
      cases eq
      exact ⟨rfl, normal_of_parse_packet parsed (.inr rfl), fun tcp => by cases tcp⟩
  case h_3 => cases eq

/-- A socket that is opened is made for the packet's destination. -/
theorem Opens.made (spec : S.Spec) {t : TcpStack S} {p : Packet} {h : TypedSocketHandle}
    {s : S.Socket} {accepted : Finset SocketAddr} (opens : t.Opens p h s accepted) :
    ∃ dst, t.made (some p) = some (h, dst) ∧ S.MadeFor s dst := by
  cases opens with
  | @tcp src dst c parsed listens =>
    refine ⟨dst, ?_, fun _ => ?_⟩
    · rcases init_tcp_cases t dst with ⟨err, refuses, -⟩ | ⟨c', u, -, init, -⟩
      · cases listens.symm.trans refuses
      · simp only [TcpStack.made, Option.bind_some, parsed, init]
    · obtain ⟨-, state, endpoint⟩ := spec.listens listens
      refine ⟨endpoint, fun e he => ?_⟩
      have none := spec.local_endpoint c
      rw [he, state] at none
      cases none
  | @udp src dst u parsed fresh binds =>
    refine ⟨dst, ?_, spec.bind_endpoint _ _ _ binds⟩
    rcases try_init_udp_cases t dst with ⟨known, -⟩ | ⟨-, ⟨err, refuses, -⟩ |
      ⟨u', v, -, ⟨-, init, -⟩ | ⟨-, init, -⟩⟩⟩
    · exact absurd known fresh
    · cases binds.symm.trans refuses
    · simp only [TcpStack.made, Option.bind_some, parsed, init]
    · simp only [TcpStack.made, Option.bind_some, parsed, init]

/-- The socket set counts the socket for the packet. -/
theorem next_of_made {t t' : TcpStack S} {packet : Option Packet} {now : ℕ}
    {res : Except DriveError Unit} (ok : t.begin_drive packet now = .ok (t', res))
    {h : TypedSocketHandle} {dst : SocketAddr} (added : t.made packet = some (h, dst)) :
    t'.socket_set.next = t.socket_set.next + 1 := by
  obtain ⟨p, rfl, eq⟩ := Option.bind_eq_some_iff.mp added
  simp only [begin_drive, receive, bind, Except.bind, pure, Except.pure] at ok
  split at eq
  case h_1 src dst' parsed =>
    rcases init_tcp_cases t dst' with ⟨err, -, init⟩ | ⟨c, u, -, init, adds⟩
    · simp only [init] at eq
      cases eq
    · simp only [parsed, init] at ok
      obtain ⟨-, rfl, -⟩ := try_poll_eq_ok.mp ok
      rw [(same_poll _ now).next]
      exact adds.next
  case h_2 src dst' parsed =>
    rcases try_init_udp_cases t dst' with ⟨-, init⟩ | ⟨-, ⟨err, -, init⟩ |
      ⟨u, v, -, ⟨-, init, adds⟩ | ⟨-, init, adds⟩⟩⟩
    · simp only [init] at eq
      cases eq
    · simp only [init] at eq
      cases eq
    · simp only [parsed, init, Except.map] at ok
      cases ok
      exact adds.next
    · simp only [parsed, init, Except.map] at ok
      obtain ⟨-, rfl, -⟩ := try_poll_eq_ok.mp ok
      rw [(same_poll _ now).next]
      exact adds.next
  case h_3 => cases eq

/-- A socket after another was added. -/
theorem Adds.is {t t' : TcpStack S} {h : TypedSocketHandle} {s : S.Socket}
    {new : Multiset OperationEvent} {accepted : Finset SocketAddr}
    (adds : Adds t h s new accepted t') {h' : TypedSocketHandle} {s' : S.Socket}
    (is : t'.Is h' s') : t.Is h' s' ∨ h' = h ∧ s' = s := by
  obtain ⟨gen, socket, protocol⟩ := is
  rw [adds.gen] at gen
  rw [adds.socket_at] at socket
  split_ifs at gen socket with index
  · cases socket
    refine .inr ⟨TypedSocketHandle.ext (protocol.symm.trans adds.protocol) ?_, rfl⟩
    show SocketHandle.mk h'.handle.index h'.handle.incarnation =
      ⟨h.handle.index, h.handle.incarnation⟩
    rw [index, Option.some.inj gen]
  · exact .inl ⟨gen, socket, protocol⟩

/-- A socket that is there when `drive_once` comes to its events, or returns early, is one that was
there or the one for the packet, and it is made for the same address. -/
theorem Begins.made_for (spec : S.Spec) {t t' : TcpStack S} {packet : Option Packet} {now : ℕ}
    {res : Except DriveError Unit} (begins : Begins t packet now t' res) (drained : t.Drained)
    {h : TypedSocketHandle} {s' : S.Socket} (is : t'.Is h s') :
    ∃ s, (t.Is h s ∨ ∃ dst, t.made packet = some (h, dst) ∧ S.MadeFor s dst) ∧
      ∀ dst, S.MadeFor s dst → S.MadeFor s' dst := by
  cases begins with
  | failed => exact ⟨s', .inl is, fun _ made => made⟩
  | unready arrived opens adds =>
    subst arrived
    refine ⟨s', ?_, fun _ made => made⟩
    rcases adds.is is with old | ⟨rfl, rfl⟩
    · exact .inl old
    · exact .inr (opens.made spec)
  | polled quiet =>
    obtain ⟨s, old, keeps⟩ := made_for_poll spec drained is
    exact ⟨s, .inl old, keeps⟩
  | opened arrived opens adds =>
    subst arrived
    have drained' : (_ : TcpStack S).Drained := (congrArg _ adds.virtual_iface).trans drained
    obtain ⟨s, added, keeps⟩ := made_for_poll spec drained' is
    refine ⟨s, ?_, keeps⟩
    rcases adds.is added with old | ⟨rfl, rfl⟩
    · exact .inl old
    · exact .inr (opens.made spec)

/-! ## The segments that listeners take -/

/-- When the packet is polled, a listener takes the segment: one that is there, or the one that is
added for the packet. -/
def Listened (t : TcpStack S) (packet : Option Packet) (seg : Segment) : Prop :=
  (∃ i ∈ S.tcp.taker t.sockets seg, ∃ c ∈ t.tcp_at i, S.tcp.state c = .listen) ∨
  ∃ dst ∈ packet.bind listens_on, seg.dst.listen = .from dst ∧
    ∀ i < t.socket_set.free, ∀ c ∈ t.tcp_at i, S.tcp.accepts c seg = false

instance (t : TcpStack S) (packet : Option Packet) (seg : Segment) :
    Decidable (t.Listened packet seg) := by
  unfold Listened
  infer_instance

/-- The addresses of the SYN that a listener takes when the packet is polled, if one does. -/
def takes (t : TcpStack S) (packet : Option Packet) : List (SocketAddr × SocketAddr) :=
  match t.segment packet with
  | some seg =>
    if seg.opens = true ∧ t.Listened packet seg then [(seg.src.socket_addr, seg.dst.socket_addr)]
    else []
  | none => []

/-- The sockets that have a connection have one of the pairs. -/
def Known (t : TcpStack S) (pairs : List (SocketAddr × SocketAddr)) : Prop :=
  ∀ i c src dst, t.tcp_at i = some c → S.tcp.Connects c src dst →
    (src.socket_addr, dst.socket_addr) ∈ pairs

/-- The connection of a SYN that a listener takes. -/
theorem mem_takes {t : TcpStack S} {packet : Option Packet} {pair : SocketAddr × SocketAddr} :
    pair ∈ t.takes packet ↔ ∃ seg, t.segment packet = some seg ∧ seg.opens = true ∧
      t.Listened packet seg ∧ pair = (seg.src.socket_addr, seg.dst.socket_addr) := by
  unfold takes
  cases t.segment packet with
  | none => simp
  | some seg =>
    simp only [Option.some.injEq, exists_eq_left']
    split_ifs with h
    · simp [h.1, h.2]
    · simp only [List.not_mem_nil, false_iff]
      rintro ⟨opens, listened, -⟩
      exact h ⟨opens, listened⟩

/-- In what is polled, a socket that takes the segment and listens is one that `Listened` speaks
of. -/
theorem Polls.listened_iff (spec : S.Spec) {t u : TcpStack S} {packet : Option Packet}
    (polls : Polls t packet u) {seg : Segment} (opens : seg.opens = true) :
    t.Listened packet seg ↔ ∃ i c, S.tcp.taker u.sockets seg = some i ∧ u.tcp_at i = some c ∧
      S.tcp.state c = .listen := by
  have accepts_iff : ∀ {c} {dst : SocketAddr}, S.tcp.state c = .listen →
      S.tcp.listen_endpoint c = .from dst →
      (S.tcp.accepts c seg = true ↔ S.tcp.listen_endpoint c = seg.dst.listen) := by
    intro c dst listens endpoint
    rw [spec.accepts_listen _ seg listens (by rw [endpoint]; rfl)]
    exact and_iff_right (seg.opens_iff.mp opens).2.1
  -- The socket in the slot that was free is the listener for the packet.
  have added : ∀ {c}, u.tcp_at t.socket_set.free = some c →
      ∃ dst, packet.bind listens_on = some dst ∧ S.tcp.state c = .listen ∧
        S.tcp.listen_endpoint c = .from dst := by
    intro c hc
    obtain ⟨dst, hdst⟩ := polls.only c hc
    obtain ⟨c', hc', listens, endpoint⟩ := polls.listener dst hdst
    cases hc.symm.trans hc'
    exact ⟨dst, hdst, listens, endpoint⟩
  constructor
  · rintro (⟨i, taker, c, hc, listens⟩ | ⟨dst, hdst, endpoint, first⟩)
    · rcases polls.taker_or taker with taker | ⟨-, taker⟩
      · exact ⟨i, c, taker, polls.tcp_at hc, listens⟩
      · obtain ⟨⟨d, hd, -⟩, -⟩ := taker_eq_some.mp taker
        obtain ⟨-, -, listens, -⟩ := added hd
        exact ⟨_, d, taker, hd, listens⟩
    · obtain ⟨c, hc, listens, endpoint'⟩ := polls.listener dst hdst
      refine ⟨_, c, taker_eq_some.mpr ⟨⟨c, hc, ?_⟩, fun j hj d hd => first j hj d ?_⟩, hc, listens⟩
      · exact (accepts_iff listens endpoint').mpr (endpoint'.trans endpoint.symm)
      · rwa [polls.old j hj.ne] at hd
  · rintro ⟨i, c, taker, hc, listens⟩
    by_cases hi : i = t.socket_set.free
    · subst hi
      obtain ⟨dst, hdst, -, endpoint⟩ := added hc
      obtain ⟨⟨d, hd, accepts⟩, first⟩ := taker_eq_some.mp taker
      cases hc.symm.trans hd
      refine .inr ⟨dst, hdst, ((accepts_iff listens endpoint).mp accepts).symm.trans endpoint, ?_⟩
      exact fun j hj d hd => first j hj d (polls.tcp_at hd)
    · exact .inl ⟨i, polls.taker hi taker, c, (polls.old i hi).symm.trans hc, listens⟩

/-- After a poll, the sockets have the connections that they had before, and that of the SYN that a
listener took. -/
theorem Polls.known_iff (spec : S.Spec) {t u : TcpStack S} {packet : Option Packet}
    (polls : Polls t packet u) {pairs : List (SocketAddr × SocketAddr)} (known : t.Known pairs)
    (now : ℕ) : Known ((u.push packet).poll now) pairs ↔ t.takes packet ⊆ pairs := by
  constructor
  · intro known' pair hpair
    obtain ⟨seg, hseg, opens, listened, rfl⟩ := mem_takes.mp hpair
    obtain ⟨i, c, taker, hc, listens⟩ := (polls.listened_iff spec opens).mp listened
    obtain ⟨c₀, c', hc₀, hc', -, received⟩ := polls.received spec hseg taker now
    cases hc.symm.trans hc₀
    cases received with
    | opened was opens' state local_ remote => exact known' i c' _ _ hc' ⟨remote, local_⟩
    | ignored was opens' => cases opens.symm.trans opens'
    | relistened was => cases listens.symm.trans was
    | advanced was => rw [listens] at was; cases was
    | closed was => rw [listens] at was; cases was
  · intro taken i c' src dst hc' connects
    obtain ⟨c, hc, ⟨seg, hseg, taker, received⟩ | ⟨-, idle⟩⟩ := polls.tcp_at_poll spec hc'
    · rcases received.connects spec connects with before | ⟨listens, opens, rfl, rfl⟩
      · exact known i c src dst (polls.old_of_connects spec hc before) before
      · exact taken (mem_takes.mpr ⟨seg, hseg, opens,
          (polls.listened_iff spec opens).mpr ⟨i, c, taker, hc, listens⟩, rfl⟩)
    · have before := idle.connects spec connects
      exact known i c src dst (polls.old_of_connects spec hc before) before

/-- When `drive_once` returns early, no socket has got a connection. -/
theorem Begins.known_of_error {t t' : TcpStack S} {packet : Option Packet} {now : ℕ}
    {err : DriveError} (begins : Begins t packet now t' (.error err))
    {pairs : List (SocketAddr × SocketAddr)} (known : t.Known pairs) : t'.Known pairs := by
  cases begins with
  | failed => exact known
  | unready arrived opens adds disconnected protocol =>
    intro i c src dst hc connects
    rcases adds.tcp_at hc with ⟨-, rfl⟩ | ⟨-, hc⟩
    · cases protocol.symm.trans adds.protocol.symm
    · exact known i c src dst hc connects

/-- Handling an event leaves the connections known. -/
theorem Outcome.known (spec : S.Spec) {t t' : TcpStack S} {e : OperationEvent}
    (outcome : Outcome t e t') {pairs : List (SocketAddr × SocketAddr)} (known : t.Known pairs) :
    t'.Known pairs := by
  intro i c' src dst hc' connects
  obtain ⟨c, hc, handled⟩ := outcome.tcp_at spec hc'
  exact known i c src dst hc (handled.connects spec connects)

/-! ## What the acceptors get -/

/-- What an event sends to the acceptors: a Ready the addresses that it reads from its socket, and
any other event nothing. -/
inductive Delivers (t : TcpStack S) (e : OperationEvent) (t' : TcpStack S) : Prop
  | nothing (tcp_stream : t'.tcp_stream = t.tcp_stream) (udp_stream : t'.udp_stream = t.udp_stream)
  | tcp (handle : SocketHandle) (c : S.Tcp) (remote local_ : IpEndpoint)
      (event : e = .ready (.tcp handle)) (socket : t.socket_at handle.index = some (.tcp c))
      (connects : S.tcp.Connects c remote local_)
      (tcp_stream : t'.tcp_stream =
        t.tcp_stream.send ⟨handle, remote.socket_addr, local_.socket_addr⟩)
      (udp_stream : t'.udp_stream = t.udp_stream)
  | udp (handle : SocketHandle) (u : S.Udp) (addr : SocketAddr)
      (event : e = .ready (.udp handle)) (socket : t.socket_at handle.index = some (.udp u))
      (bound : S.bound_addr (.udp u) = some addr) (tcp_stream : t'.tcp_stream = t.tcp_stream)
      (udp_stream : t'.udp_stream = t.udp_stream.send ⟨handle, addr⟩)

/-- What a handler sends to an acceptor is about the socket of its Ready. -/
theorem Outcome.delivers {t t' : TcpStack S} {e : OperationEvent} (outcome : Outcome t e t') :
    Delivers t e t' := by
  cases outcome with
  | answered tx a result_tx refuses eq => subst eq; exact .nothing rfl rfl
  | served tx a s s' memory result_tx found socket serves eq => subst eq; exact .nothing rfl rfl
  | parked side parks eq => subst eq; exact .nothing rfl rfl
  | shutdown handle tx c event found socket eq =>
    have wakes := wakes_close_tcp (t.register handle.index .send e) handle.index c
    rw [← eq] at wakes
    exact .nothing wakes.tcp_stream wakes.udp_stream
  | closing handle c event found socket active eq =>
    have wakes := wakes_close_tcp t handle.index c
    subst eq
    exact .nothing wakes.tcp_stream wakes.udp_stream
  | removed h s s' accepted u event found socket closes wakes others woken eq =>
    subst eq
    exact .nothing wakes.tcp_stream wakes.udp_stream
  | delivered_tcp handle c remote local_ event socket may_recv remote_eq local_eq eq =>
    subst eq
    exact .tcp handle c remote local_ event socket ⟨remote_eq, local_eq⟩ rfl rfl
  | delivered_udp handle u ip event socket bound eq =>
    subst eq
    refine .udp handle u _ event socket ?_ rfl rfl
    rw [Smoltcp.bound_addr, bound]
    rfl
  | ignored h event gone eq => subst eq; exact .nothing rfl rfl

end TcpStack

end L3Extract
