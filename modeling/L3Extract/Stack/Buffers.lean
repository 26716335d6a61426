import L3Extract.Stack.Sockets

/-!
# What goes through the buffers

`TcpStack.buffers t h` is what the buffers of the socket with the handle `h` hold, as long as there
is such a socket. `Dealt` lists what handling an event does to them, to the buffers of the requests,
and to the result channels. In most cases nothing moves, and the only answers are errors (`Silent`);
the others are that of a Read at the end of its stream and those in which smoltcp moves data.
-/

namespace L3Extract

open OperationEvent

variable {S : Smoltcp}

/-- What the buffers of a socket hold, and whether a TCP socket has received the peer's FIN. -/
inductive Buffers
  | tcp (rx tx : Bytes) (fin : Bool)
  | udp (rx tx : List Datagram)
  deriving DecidableEq

/-- The buffers of a socket. -/
def Smoltcp.buffers (S : Smoltcp) : S.Socket → Buffers
  | .tcp c => .tcp (S.tcp.rx_buffer c) (S.tcp.tx_buffer c) (S.tcp.rx_fin_received c)
  | .udp u => .udp (S.udp.rx_buffer u) (S.udp.tx_buffer u)

/-- Closing a TCP socket keeps its buffers. -/
theorem Smoltcp.Spec.buffers_close (spec : S.Spec) (c : S.Tcp) :
    S.buffers (.tcp (S.tcp.close c)) = S.buffers (.tcp c) := by
  obtain ⟨rx, tx, fin⟩ := spec.close_buffer c
  simp only [Smoltcp.buffers, rx, tx, fin]

namespace TcpStack

/-- The buffers of the socket that the handle was made for, while it is in its slot. -/
def buffers (t : TcpStack S) (h : SocketHandle) : Option Buffers :=
  if t.socket_set.gen h.index = some h.incarnation then (t.socket_at h.index).map S.buffers
  else none

/-- The buffers that are seen through a handle are those of its very socket. -/
theorem buffers_eq_some {t : TcpStack S} {h : SocketHandle} {b : Buffers} :
    t.buffers h = some b ↔ t.socket_set.gen h.index = some h.incarnation ∧
      ∃ s, t.socket_at h.index = some s ∧ S.buffers s = b := by
  unfold buffers
  split_ifs with hg <;> simp [hg]

/-- No buffers are seen through a handle whose socket is gone. -/
theorem buffers_eq_none {t : TcpStack S} {h : SocketHandle} :
    t.buffers h = none ↔ t.socket_set.gen h.index ≠ some h.incarnation := by
  constructor
  · intro hb hg
    obtain ⟨s, hs⟩ := Option.isSome_iff_exists.mp
      ((gen_isSome t h.index).symm.trans (Option.isSome_iff_exists.mpr ⟨_, hg⟩))
    rw [buffers_eq_some.mpr ⟨hg, s, hs, rfl⟩] at hb
    cases hb
  · intro hg
    exact if_neg hg

/-- A socket whose slot keeps its generation, and whose buffers hold what they held. -/
theorem buffers_of_slot {t t' : TcpStack S} {h : SocketHandle}
    (gen : t'.socket_set.gen h.index = t.socket_set.gen h.index)
    (socket : ∀ s', t'.socket_at h.index = some s' →
      ∃ s, t.socket_at h.index = some s ∧ S.buffers s' = S.buffers s) :
    t'.buffers h = t.buffers h := by
  cases hb : t'.buffers h with
  | none => exact (buffers_eq_none.mpr (gen ▸ buffers_eq_none.mp hb)).symm
  | some b =>
    obtain ⟨hg, s', hs', rfl⟩ := buffers_eq_some.mp hb
    obtain ⟨s, hs, heq⟩ := socket s' hs'
    exact (buffers_eq_some.mpr ⟨gen ▸ hg, s, hs, heq.symm⟩).symm

/-! ## Steps without effect -/

/-- No request has an effect between `t` and `t'`: the buffers of the requests are as before, and
only requests from `pool` are answered, with errors. -/
structure Silent (t : TcpStack S) (pool : Multiset OperationEvent) (t' : TcpStack S) : Prop where
  memory : t'.memory = t.memory
  answers : ∃ new, t'.answers = t.answers ++ new ∧ ∀ a ∈ new, ∃ e ∈ pool, Declines e a

/-- Nothing is said. -/
theorem Silent.same {t t' : TcpStack S} (pool : Multiset OperationEvent)
    (memory : t'.memory = t.memory) (answers : t'.answers = t.answers) : Silent t pool t' where
  memory := memory
  answers := ⟨[], by rw [answers, List.append_nil], by simp⟩

/-- Wakers run. -/
theorem Silent.woken {t u t' : TcpStack S} {pool : Multiset OperationEvent} (wakes : Wakes u t')
    (memory : u.memory = t.memory) (answers : u.answers = t.answers)
    (waker : ∀ i side e tx, u.waker i side = some e → e.result_tx = some tx → e ∈ pool) :
    Silent t pool t' where
  memory := wakes.memory.trans memory
  answers := by
    obtain ⟨new, hn, hfrom⟩ := wakes.answers
    refine ⟨new, answers ▸ hn, fun a ha => ?_⟩
    obtain ⟨i, side, e, hw, declines⟩ := hfrom a ha
    exact ⟨e, waker i side e a.1 hw declines.1, declines⟩

/-- Before it comes to its events, `drive_once` gives no request an effect. -/
theorem Begins.silent {t t' : TcpStack S} {packet : Option Packet} {now : ℕ}
    {res : Except DriveError Unit} (begins : Begins t packet now t' res) :
    Silent t t.pending t' := by
  cases begins with
  | failed => exact .same _ rfl rfl
  | unready arrived opens adds => exact .same _ adds.memory adds.answers
  | polled =>
    refine .woken (wakes_poll (t.push packet) now) rfl rfl fun i side e tx hw htx => ?_
    rw [waker_advance] at hw
    exact mem_pending_of_waker hw
  | opened arrived opens adds =>
    rename_i p h s accepted u
    refine .woken (wakes_poll (u.push packet) now) adds.memory adds.answers
      fun i side e tx hw htx => ?_
    rw [waker_advance] at hw
    have hw : u.waker i side = some e := hw
    -- The new socket has no waker but that of its Ready, which is no request.
    have hp : e ∈ ({.ready h} : Multiset OperationEvent) + t.pending := by
      rw [← adds.pending]
      exact mem_pending_of_waker hw
    rcases Multiset.mem_add.mp hp with hp | hp
    · rw [Multiset.mem_singleton.mp hp] at htx
      cases htx
    · exact hp

/-! ## Handling an event -/

/-- What handling the event `e` does for requests. -/
inductive Dealt (t : TcpStack S) (e : OperationEvent) (t' : TcpStack S) : Prop
  /-- Nothing moves. -/
  | silent (silent : Silent t ({e} + t.pending) t')
      (buffers : ∀ h, t'.buffers h = t.buffers h ∨ e.result_tx = none ∧ t'.buffers h = none)
  /-- A Read finds its stream at the end. -/
  | eof (handle : SocketHandle) (buffer : BufferId) (tx : ResultTx) (c : S.Tcp)
      (event : e = .read handle buffer tx) (found : t.contains (.tcp handle) = true)
      (socket : t.socket_at handle.index = some (.tcp c)) (drained : S.tcp.recv_queue c = 0)
      (shut : S.tcp.may_recv c = false) (eq : t' = t.answer tx (.ok (.len 0)))
  /-- smoltcp is asked to move data. -/
  | served (tx : ResultTx) (a : Answer) (s s' : S.Socket) (memory : BufferId → IoBuf)
      (result_tx : e.result_tx = some tx) (found : t.contains e.handle = true)
      (socket : t.socket_at e.index = some s) (serves : t.Serves e s s' memory a)
      (eq : t' = { (t.put e.index s').answer tx a with memory })

/-- Handling an event leaves the generations of the slots alone, unless it removes the socket. -/
theorem Outcome.gen {t t' : TcpStack S} {e : OperationEvent} (outcome : Outcome t e t') (i : ℕ) :
    t'.socket_set.gen i = t.socket_set.gen i ∨
      (∃ h, e = .close h) ∧ t'.socket_set.gen i = none := by
  cases outcome.summary with
  | kept same => exact .inl (by rw [same.gen])
  | removed h event removes =>
    rw [removes.gen]
    split_ifs
    · exact .inr ⟨⟨h, event⟩, rfl⟩
    · exact .inl rfl
  | delivered_tcp handle remote local_ event same => exact .inl (by rw [same.gen])
  | delivered_udp handle addr event same => exact .inl (by rw [same.gen])

/-- The buffers are in the socket set. -/
theorem buffers_of_socket_set {t t' : TcpStack S} (h : t'.socket_set = t.socket_set) :
    t'.buffers = t.buffers := by
  funext i
  simp only [buffers, socket_at, h]

/-- A Close or a Shutdown keeps what the buffers hold. -/
theorem socket_of_closed (spec : S.Spec) {t u v : TcpStack S} {i : ℕ} {c : S.Tcp}
    (socket : t.socket_at i = some (.tcp c)) (before : u.socket_at = t.socket_at)
    (wakes : Wakes (u.put i (.tcp (S.tcp.close c))) v) (j : ℕ) (s' : S.Socket)
    (h : v.socket_at j = some s') :
    ∃ s, t.socket_at j = some s ∧ S.buffers s' = S.buffers s := by
  rw [wakes.socket_at, socket_at_put, before] at h
  obtain ⟨s, hs, hs'⟩ := Option.map_eq_some_iff.mp h
  split_ifs at hs' with hi
  · subst hi
    rw [← hs']
    exact ⟨_, socket, spec.buffers_close c⟩
  · exact ⟨s, hs, by rw [hs']⟩

/-- Handling an event does for requests what `Dealt` lists. -/
theorem Outcome.dealt (spec : S.Spec) {t t' : TcpStack S} {e : OperationEvent}
    (outcome : Outcome t e t') : Dealt t e t' := by
  have mem : e ∈ {e} + t.pending := Multiset.mem_add.mpr (.inl (Multiset.mem_singleton_self e))
  have parked : ∀ {i side e₀}, t.waker i side = some e₀ → e₀ ∈ {e} + t.pending :=
    fun hw => Multiset.mem_add.mpr (.inr (mem_pending_of_waker hw))
  -- Only a Close takes a socket's buffers away.
  have kept : (∀ i s', t'.socket_at i = some s' →
      ∃ s, t.socket_at i = some s ∧ S.buffers s' = S.buffers s) →
      ∀ h, t'.buffers h = t.buffers h ∨ e.result_tx = none ∧ t'.buffers h = none := by
    intro socket h
    rcases outcome.gen h.index with same | ⟨⟨h', rfl⟩, gone⟩
    · exact .inl (buffers_of_slot same (socket h.index))
    · exact .inr ⟨rfl, buffers_eq_none.mpr (by simp [gone])⟩
  have same : t'.socket_at = t.socket_at →
      ∀ h, t'.buffers h = t.buffers h ∨ e.result_tx = none ∧ t'.buffers h = none :=
    fun heq => kept fun i s' hs' => ⟨s', by rwa [heq] at hs', rfl⟩
  cases outcome with
  | answered tx a result_tx refuses eq =>
    subst eq
    -- Every refusal but the end of a stream is an error.
    have declined : (∃ err, a = .error err) → Dealt t e (t.answer tx a) := by
      rintro ⟨err, rfl⟩
      refine .silent ⟨rfl, [(tx, .error err)], rfl, fun a ha => ⟨e, mem, ?_⟩⟩ (same rfl)
      obtain rfl := List.mem_singleton.mp ha
      exact ⟨result_tx, fun _ => ⟨err, rfl⟩⟩
    cases refuses with
    | not_found deferred gone => exact declined ⟨_, rfl⟩
    | unknown_shutdown gone => exact declined ⟨_, rfl⟩
    | broken_pipe found socket full shut => exact declined ⟨_, rfl⟩
    | eof found socket drained shut =>
      cases result_tx
      exact .eof _ _ _ _ rfl found socket drained shut rfl
  | served tx a s s' memory result_tx found socket serves eq =>
    exact .served tx a s s' memory result_tx found socket serves eq
  | parked side parks eq =>
    subst eq
    exact .silent (.same _ rfl rfl) (same (by funext i; exact socket_at_register _ _ _ _ _))
  | shutdown handle tx c event found socket eq =>
    subst eq
    have wakes := wakes_close_tcp (t.register handle.index .send e) handle.index c
    refine .silent (.woken wakes rfl rfl fun i side e₀ _ hw _ => ?_) (kept
      (socket_of_closed spec socket (by funext i; exact socket_at_register _ _ _ _ _) wakes))
    rw [waker_put, waker_register] at hw
    split_ifs at hw
    · rwa [← Option.some.inj hw]
    · exact parked hw
  | closing handle c event found socket active eq =>
    subst eq
    have wakes := wakes_close_tcp t handle.index c
    have silent : Silent t ({e} + t.pending) (t.close_tcp handle.index c) :=
      .woken wakes rfl rfl fun i side e₀ _ hw _ => parked (by rwa [waker_put] at hw)
    refine .silent ⟨silent.memory, silent.answers⟩ (kept fun i s' hs' => ?_)
    rw [socket_at_register] at hs'
    exact socket_of_closed spec socket rfl wakes i s' hs'
  | removed h s s' accepted u event found socket closes wakes others woken eq =>
    subst eq
    have silent : Silent t ({e} + t.pending) u :=
      .woken wakes rfl rfl fun i side e₀ _ hw _ => parked (by rwa [waker_put] at hw)
    refine .silent ⟨silent.memory, silent.answers⟩ (kept fun i s₁ hs₁ => ?_)
    have hs₁ : ({ u with socket_set := u.socket_set.remove h.handle.index } : TcpStack S).socket_at
        i = some s₁ := hs₁
    rw [socket_at_remove] at hs₁
    split_ifs at hs₁ with hi
    rw [wakes.socket_at, socket_at_put] at hs₁
    obtain ⟨s₀, hs₀, heq⟩ := Option.map_eq_some_iff.mp hs₁
    rw [if_neg hi] at heq
    exact ⟨s₀, hs₀, by rw [heq]⟩
  | delivered_tcp handle c remote local_ event socket may_recv remote_eq local_eq eq =>
    subst eq
    exact .silent (.same _ rfl rfl) (same rfl)
  | delivered_udp handle u ip event socket bound eq =>
    subst eq
    exact .silent (.same _ rfl rfl) (same rfl)
  | ignored h event gone eq =>
    subst eq
    exact .silent (.same _ rfl rfl) (same rfl)

/-- Serving a request changes the buffers of the socket in its slot, and of no other. -/
theorem buffers_of_served {t : TcpStack S} {i : ℕ} {s : S.Socket}
    (socket : t.socket_at i = some s) (s' : S.Socket) : ∃ g, t.socket_set.gen i = some g ∧
      t.buffers ⟨i, g⟩ = some (S.buffers s) ∧
      ∀ h, (t.put i s').buffers h = if h = ⟨i, g⟩ then some (S.buffers s') else t.buffers h := by
  obtain ⟨g, gen⟩ := Option.isSome_iff_exists.mp
    ((gen_isSome t i).trans (Option.isSome_iff_exists.mpr ⟨s, socket⟩))
  have hgen : ∀ j, (t.put i s').socket_set.gen j = t.socket_set.gen j := fun j => by simp [put]
  refine ⟨g, gen, buffers_eq_some.mpr ⟨gen, s, socket, rfl⟩, fun h => ?_⟩
  split_ifs with hh
  · subst hh
    refine buffers_eq_some.mpr ⟨(hgen i).trans gen, s', ?_, rfl⟩
    rw [socket_at_put, socket, Option.map_some, if_pos rfl]
  · by_cases hi : h.index = i
    · -- Another socket in the same slot is not there.
      have gone : t.socket_set.gen h.index ≠ some h.incarnation := by
        intro hg
        rw [hi, gen] at hg
        exact hh (by cases h; simp_all)
      rw [buffers_eq_none.mpr gone, buffers_eq_none.mpr ((hgen _).symm ▸ gone)]
    · refine buffers_of_slot (hgen _) fun s₁ hs₁ => ?_
      rw [socket_at_put] at hs₁
      obtain ⟨s₀, hs₀, heq⟩ := Option.map_eq_some_iff.mp hs₁
      rw [if_neg hi] at heq
      exact ⟨s₀, hs₀, by rw [heq]⟩

/-! ## What sockets receive -/

/-- A socket that is there after `drive_once` began is new, or it was there before, and was polled
or not. -/
theorem Begins.slot {t t' : TcpStack S} {packet : Option Packet} {now : ℕ}
    {res : Except DriveError Unit} (begins : Begins t packet now t' res) {i g : ℕ} {s' : S.Socket}
    (gen : t'.socket_set.gen i = some g) (socket : t'.socket_at i = some s') :
    t.socket_set.gen i ≠ some g ∨ t.socket_set.gen i = some g ∧ ∃ s, t.socket_at i = some s ∧
      (s' = s ∨ ∃ u : TcpStack S, s' = u.polled_socket now i s) := by
  -- The socket that a packet adds is new, and the others are as before.
  have added : ∀ {h : TypedSocketHandle} {s₁ s₂ : S.Socket} {new : Multiset OperationEvent}
      {accepted : Finset SocketAddr} {u : TcpStack S}, Adds t h s₁ new accepted u →
      u.socket_set.gen i = some g → u.socket_at i = some s₂ →
      t.socket_set.gen i ≠ some g ∨ t.socket_set.gen i = some g ∧ t.socket_at i = some s₂ := by
    intro h s₁ s₂ new accepted u adds hg hs
    by_cases hi : i = h.handle.index
    · left
      rw [hi, adds.handle, show t.socket_set.gen t.next_handle.index = none from Arena.gen_free _]
      simp
    · rw [adds.gen, if_neg hi] at hg
      rw [adds.socket_at, if_neg hi] at hs
      exact .inr ⟨hg, hs⟩
  cases begins with
  | failed => exact .inr ⟨gen, s', socket, .inl rfl⟩
  | unready arrived opens adds =>
    rcases added adds gen socket with new | ⟨hg, hs⟩
    · exact .inl new
    · exact .inr ⟨hg, s', hs, .inl rfl⟩
  | polled quiet =>
    rw [(same_poll _ now).gen] at gen
    rw [socket_at_poll] at socket
    obtain ⟨s, hs, rfl⟩ := Option.map_eq_some_iff.mp socket
    exact .inr ⟨gen, s, hs, .inr ⟨_, rfl⟩⟩
  | opened arrived opens adds =>
    rw [(same_poll _ now).gen] at gen
    rw [socket_at_poll] at socket
    obtain ⟨s, hs, rfl⟩ := Option.map_eq_some_iff.mp socket
    rcases added adds gen hs with new | ⟨hg, hs⟩
    · exact .inl new
    · exact .inr ⟨hg, s, hs, .inr ⟨_, rfl⟩⟩

end TcpStack

/-- What happens to the data that a TCP socket has received, when the request `cause` is handled or,
without one, smoltcp may receive more. A closed socket receives nothing; at the end of TIME-WAIT the
data is cleared. -/
inductive TcpApi.Flows {Socket : Type} (api : TcpApi Socket) (cause : Option ResultTx)
    (c c' : Socket) : Prop
  | grew (none : cause = none) (data : Bytes) (eq : api.rx_buffer c' = api.rx_buffer c ++ data)
      (closed : api.state c = .closed → api.state c' = .closed ∧ data = [])
  | took (id : ResultTx) (some : cause = some id) (data : Bytes)
      (eq : api.rx_buffer c = data ++ api.rx_buffer c')
      (closed : api.state c = .closed → api.state c' = .closed)
  | cleared (none : cause = none) (was : api.state c ≠ .closed) (state : api.state c' = .closed)
      (empty : api.rx_buffer c' = [])

/-- A receive buffer that stays has got and lost nothing. -/
theorem TcpApi.Flows.kept {api : TcpApi S.Tcp} {c c' : S.Tcp} (cause : Option ResultTx)
    (eq : api.rx_buffer c' = api.rx_buffer c)
    (closed : api.state c = .closed → api.state c' = .closed) : api.Flows cause c c' := by
  cases cause with
  | none => exact .grew rfl [] (by rw [eq, List.append_nil]) fun h => ⟨closed h, rfl⟩
  | some id => exact .took id rfl [] eq.symm closed

/-- What happens to the datagrams that a UDP socket has received. -/
inductive UdpApi.Flows {Socket : Type} (api : UdpApi Socket) (cause : Option ResultTx)
    (u u' : Socket) : Prop
  | grew (none : cause = none) (new : List Datagram)
      (eq : api.rx_buffer u' = api.rx_buffer u ++ new)
  | took (id : ResultTx) (some : cause = some id) (old : List Datagram)
      (eq : api.rx_buffer u = old ++ api.rx_buffer u')

/-- A receive queue that stays has got and lost nothing. -/
theorem UdpApi.Flows.kept {api : UdpApi S.Udp} {u u' : S.Udp} (cause : Option ResultTx)
    (eq : api.rx_buffer u' = api.rx_buffer u) : api.Flows cause u u' := by
  cases cause with
  | none => exact .grew rfl [] (by rw [eq, List.append_nil])
  | some id => exact .took id rfl [] eq.symm

namespace TcpStack

/-- In a poll bytes only arrive at a TCP socket, unless smoltcp discards them. -/
theorem polled_tcp_flows (spec : S.Spec) (u : TcpStack S) (now i : ℕ) (c : S.Tcp) :
    S.tcp.Flows none c ((u.poll_result now).tcp i c) := by
  by_cases closed : S.tcp.state c = .closed
  · obtain ⟨state, rx⟩ := spec.poll_closed u.interface now u.virtual_iface.rx_queue u.sockets i c
      closed
    exact .kept none rx fun _ => state
  · rcases spec.poll_buffer u.interface now u.virtual_iface.rx_queue u.sockets i c with
      ⟨data, rx⟩ | ⟨state, rx⟩
    · exact .grew rfl data rx fun h => absurd h closed
    · exact .cleared rfl closed state rx

/-- What happens to the data of a TCP socket that is there after `drive_once` began. -/
theorem Begins.tcp_flows (spec : S.Spec) {t t' : TcpStack S} {packet : Option Packet} {now : ℕ}
    {res : Except DriveError Unit} (begins : Begins t packet now t' res) {i g : ℕ} {c' : S.Tcp}
    (gen : t'.socket_set.gen i = some g) (hc' : t'.tcp_at i = some c') :
    t.socket_set.gen i ≠ some g ∨ t.socket_set.gen i = some g ∧
      ∃ c, t.tcp_at i = some c ∧ S.tcp.Flows none c c' := by
  rcases begins.slot gen (tcp_at_eq_some.mp hc') with new | ⟨hg, s, hs, hs'⟩
  · exact .inl new
  · refine .inr ⟨hg, ?_⟩
    cases s with
    | udp u => rcases hs' with hs' | ⟨u, hs'⟩ <;> cases hs'
    | tcp c =>
      refine ⟨c, tcp_at_eq_some.mpr hs, ?_⟩
      rcases hs' with hs' | ⟨u, hs'⟩
      · cases hs'
        exact .kept none rfl id
      · cases hs'
        exact polled_tcp_flows spec u now i c

/-- What happens to the datagrams of a UDP socket that is there after `drive_once` began. -/
theorem Begins.udp_flows (spec : S.Spec) {t t' : TcpStack S} {packet : Option Packet} {now : ℕ}
    {res : Except DriveError Unit} (begins : Begins t packet now t' res) {i g : ℕ} {u' : S.Udp}
    (gen : t'.socket_set.gen i = some g) (hu' : t'.udp_at i = some u') :
    t.socket_set.gen i ≠ some g ∨ t.socket_set.gen i = some g ∧
      ∃ u, t.udp_at i = some u ∧ S.udp.Flows none u u' := by
  rcases begins.slot gen (udp_at_eq_some.mp hu') with new | ⟨hg, s, hs, hs'⟩
  · exact .inl new
  · refine .inr ⟨hg, ?_⟩
    cases s with
    | tcp c => rcases hs' with hs' | ⟨v, hs'⟩ <;> cases hs'
    | udp u =>
      refine ⟨u, udp_at_eq_some.mpr hs, ?_⟩
      rcases hs' with hs' | ⟨v, hs'⟩
      · cases hs'
        exact .kept none rfl
      · cases hs'
        obtain ⟨new, rx⟩ :=
          spec.udp_poll_buffer v.interface now v.virtual_iface.rx_queue v.sockets i u
        exact .grew rfl new rx

/-- What happens to the data of a TCP socket when an event is handled. -/
theorem Outcome.tcp_flows (spec : S.Spec) {t t' : TcpStack S} {e : OperationEvent}
    (outcome : Outcome t e t') {i : ℕ} {c' : S.Tcp} (hc' : t'.tcp_at i = some c') :
    ∃ c, t.tcp_at i = some c ∧ S.tcp.Flows e.result_tx c c' := by
  rcases outcome.socket_at (tcp_at_eq_some.mp hc') with h | ⟨s, memory, a, hs, serves⟩ |
    ⟨c, hs, heq⟩
  · exact ⟨c', tcp_at_eq_some.mpr h, .kept _ rfl id⟩
  · cases serves with
    | write can_send =>
      have sends := spec.send_slice_buffers
      refine ⟨_, tcp_at_eq_some.mpr hs, .kept _ (sends _ _).rx_buffer fun h => ?_⟩
      rw [(spec.send_slice _ _).1, h]
    | @read handle buffer tx c queued =>
      have receives := spec.recv_slice_buffers c (t.memory buffer).capacity
      have closed : S.tcp.state c = .closed →
          S.tcp.state (S.tcp.recv_slice c (t.memory buffer).capacity).1 = .closed := fun h => by
        rw [(spec.recv_slice _ _).1, h]
      refine ⟨c, tcp_at_eq_some.mpr hs, ?_⟩
      cases hres : (S.tcp.recv_slice c (t.memory buffer).capacity).2 with
      | ok data => exact .took tx rfl data (receives.moved hres).2 closed
      | error err =>
        obtain ⟨rx, rx'⟩ := receives.error err hres
        exact .kept _ (rx'.trans rx.symm) closed
  · cases heq
    refine ⟨c, tcp_at_eq_some.mpr hs, .kept _ (spec.close_buffer c).1 fun h => ?_⟩
    rw [spec.close_state, h]
    rfl

/-- What happens to the datagrams of a UDP socket when an event is handled. -/
theorem Outcome.udp_flows (spec : S.Spec) {t t' : TcpStack S} {e : OperationEvent}
    (outcome : Outcome t e t') {i : ℕ} {u' : S.Udp} (hu' : t'.udp_at i = some u') :
    ∃ u, t.udp_at i = some u ∧ S.udp.Flows e.result_tx u u' := by
  rcases outcome.socket_at (udp_at_eq_some.mp hu') with h | ⟨s, memory, a, hs, serves⟩ |
    ⟨c, hs, heq⟩
  · exact ⟨u', udp_at_eq_some.mpr h, .kept _ rfl⟩
  · cases serves with
    | send can_send =>
      exact ⟨_, udp_at_eq_some.mpr hs, .kept _ (spec.udp_send_slice _ _ _).rx_buffer⟩
    | @recv handle buffer tx u can_recv =>
      have receives := spec.udp_recv_slice u (t.memory buffer).capacity
      refine ⟨u, udp_at_eq_some.mpr hs, ?_⟩
      cases hres : (S.udp.recv_slice u (t.memory buffer).capacity).2 with
      | ok d => exact .took tx rfl [(d.2, d.1)] (receives.ok d.1 d.2 hres).2
      | error err =>
        by_cases hf : err = .truncated
        · subst hf
          obtain ⟨d, -, rx⟩ := receives.truncated hres
          exact .took tx rfl [d] rx
        · exact .kept _ (receives.error err hres hf)
  · cases heq

end TcpStack

end L3Extract
