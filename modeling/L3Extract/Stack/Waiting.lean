import L3Extract.Smoltcp.Wakers
import L3Extract.Stack.Account

/-!
# What parked events wait for

A handler that cannot do what an event asks for registers a waker, and the event comes back when
smoltcp wakes it. An event that is parked while its socket could serve it would wait for a change
that need not come. `Awaits` says for each kind of event what it waits for, and `Waiting` that every
parked event has not got it yet. The handlers keep this (`Waiting.handle`), although several
requests of different users share the two registrations of a socket, and change it under each other;
and so do the polls, by what smoltcp says about its wakers (`Smoltcp.Notifies`).

The same holds of any relation of parked events and their sockets that only what wakes them can end
(`Stable`): a handler and a poll keep it for the events that they leave parked (`Parked.handle`,
`Parked.begin_drive`).
-/

namespace L3Extract

open OperationEvent

variable {S : Smoltcp}

/-- What an event whose waker is on the given side waits for has not come to its socket. -/
inductive Awaits (S : Smoltcp) : OperationEvent → Side → S.Socket → Prop
  /-- The Ready of a new socket waits for a SYN. -/
  | opening {handle : SocketHandle} {c : S.Tcp} (listens : S.tcp.state c = .listen) :
      Awaits S (.ready (.tcp handle)) .send (.tcp c)
  | ready {handle : SocketHandle} {c : S.Tcp} (may_recv : S.tcp.may_recv c = false) :
      Awaits S (.ready (.tcp handle)) .recv (.tcp c)
  | read {handle : SocketHandle} {buffer : BufferId} {tx : ResultTx} {c : S.Tcp}
      (drained : S.tcp.recv_queue c = 0) (may_recv : S.tcp.may_recv c = true) :
      Awaits S (.read handle buffer tx) .recv (.tcp c)
  | write {handle : SocketHandle} {buffer : BufferId} {tx : ResultTx} {c : S.Tcp}
      (full : S.tcp.can_send c = false) (may_send : S.tcp.may_send c = true) :
      Awaits S (.write handle buffer tx) .send (.tcp c)
  | recv {handle : SocketHandle} {buffer : BufferId} {tx : ResultTx} {u : S.Udp}
      (drained : S.udp.can_recv u = false) : Awaits S (.recv handle buffer tx) .recv (.udp u)
  | send {handle : SocketHandle} {src : SocketAddr} {buffer : BufferId} {tx : ResultTx}
      {u : S.Udp} (full : S.udp.can_send u = false) :
      Awaits S (.send handle src buffer tx) .send (.udp u)
  /-- The transmit half is shut, and the next change of the state answers the Shutdown. -/
  | shutdown {handle : SocketHandle} {tx : ResultTx} {c : S.Tcp}
      (shut : (S.tcp.state c).after_close = S.tcp.state c) :
      Awaits S (.shutdown (.tcp handle) tx) .send (.tcp c)
  | closing {handle : SocketHandle} {c : S.Tcp}
      (shut : (S.tcp.state c).after_close = S.tcp.state c) (active : S.tcp.is_active c = true) :
      Awaits S (.close (.tcp handle)) .recv (.tcp c)

/-- A second `close` changes nothing. -/
theorem TcpState.after_close_after_close (state : TcpState) :
    state.after_close.after_close = state.after_close := by
  cases state <;> rfl

/-- An event goes on waiting when nothing happened that it waits for. -/
theorem Awaits.calm (spec : S.Spec) (notifies : S.Notifies) {e : OperationEvent} {side : Side}
    {s s' : S.Socket} (awaits : Awaits S e side s) (calm : Calm S side s s') :
    Awaits S e side s' := by
  cases awaits with
  | opening listens =>
    cases calm with
    | tcp_send state full => exact .opening (state.trans listens)
  | @ready handle c may_recv =>
    cases calm with
    | @tcp_recv _ c' state queue =>
      have was : ¬ ((S.tcp.state c).receiving = true ∨ S.tcp.recv_queue c ≠ 0) := by
        rw [← spec.may_recv, may_recv]
        decide
      have drained : S.tcp.recv_queue c = 0 := by
        by_contra filled
        exact was (.inr filled)
      refine .ready (Bool.eq_false_iff.mpr fun some => ?_)
      rcases (spec.may_recv c').mp some with receiving | filled
      · rw [state] at receiving
        exact was (.inl receiving)
      · exact filled (queue drained)
  | @read handle buffer tx c drained may_recv =>
    cases calm with
    | @tcp_recv _ c' state queue =>
      have receiving : (S.tcp.state c).receiving = true :=
        ((spec.may_recv c).mp may_recv).resolve_right fun filled => filled drained
      refine .read (queue drained) ((spec.may_recv c').mpr (.inl ?_))
      rw [state, receiving]
  | @write handle buffer tx c full may_send =>
    cases calm with
    | @tcp_send _ c' state stays =>
      refine .write (stays full) ?_
      rw [notifies.may_send, state, ← notifies.may_send, may_send]
  | recv drained =>
    cases calm with
    | udp_recv stays => exact .recv (stays drained)
  | send full =>
    cases calm with
    | udp_send stays => exact .send (stays full)
  | shutdown shut =>
    cases calm with
    | tcp_send state full => exact .shutdown (by rw [state, shut])
  | @closing handle c shut active =>
    cases calm with
    | @tcp_recv _ c' state queue =>
      refine .closing (by rw [state, shut]) ?_
      rw [spec.is_active, state, ← spec.is_active, active]

/-- A relation of parked events and their sockets that nothing ends but what wakes the event. -/
def Stable (P : OperationEvent → Side → S.Socket → Prop) : Prop :=
  ∀ ⦃e side s s'⦄, P e side s → Calm S side s s' → P e side s'

/-- What an event awaits comes only with what wakes it. -/
theorem stable_awaits (spec : S.Spec) (notifies : S.Notifies) : Stable (Awaits S) :=
  fun _ _ _ _ awaits calm => awaits.calm spec notifies calm

namespace TcpStack

/-- Every parked event is in the relation with its socket. -/
def Parked (P : OperationEvent → Side → S.Socket → Prop) (t : TcpStack S) : Prop :=
  ∀ i side e, t.waker i side = some e → ∃ s, t.socket_at i = some s ∧ P e side s

/-- Whatever a parked event waits for has not come. -/
def Waiting (t : TcpStack S) : Prop := t.Parked (Awaits S)

variable {P : OperationEvent → Side → S.Socket → Prop}

/-- A waker stays at a socket to which nothing happened that it waits for, or it is new. -/
theorem Parked.of_calm (stable : Stable P) {t t' : TcpStack S} (parked : t.Parked P)
    (each : ∀ i side e, t'.waker i side = some e →
      (t.waker i side = some e ∧ ∀ s, t.socket_at i = some s →
        ∃ s', t'.socket_at i = some s' ∧ Calm S side s s') ∨
      ∃ s', t'.socket_at i = some s' ∧ P e side s') : t'.Parked P := by
  intro i side e waker
  rcases each i side e waker with ⟨was, calm⟩ | new
  · obtain ⟨s, socket, related⟩ := parked i side e was
    obtain ⟨s', socket', calm⟩ := calm s socket
    exact ⟨s', socket', stable related calm⟩
  · exact new

/-! ## Handlers -/

/-- A request that is served takes nothing from the other side of its socket. -/
theorem Serves.calm (spec : S.Spec) (notifies : S.Notifies) {t : TcpStack S} {e : OperationEvent}
    {s s' : S.Socket} {memory : BufferId → IoBuf} {a : Answer} (serves : t.Serves e s s' memory a)
    (side : Side) : Calm S side s s' := by
  cases serves with
  | @write handle buffer tx c can_send =>
    obtain ⟨state, -⟩ := spec.send_slice c (t.memory buffer).as_slice
    have rx := (spec.send_slice_buffers c (t.memory buffer).as_slice).rx_buffer
    cases side with
    | recv =>
      refine .tcp_recv state fun drained => ?_
      rw [spec.recv_queue, rx, ← spec.recv_queue, drained]
    | send => exact .tcp_send state fun full => absurd (full.symm.trans can_send) (by decide)
  | @read handle buffer tx c queued =>
    obtain ⟨state, -⟩ := spec.recv_slice c (t.memory buffer).capacity
    cases side with
    | recv => exact .tcp_recv state fun drained => absurd drained queued
    | send =>
      refine .tcp_send state fun full => ?_
      rw [notifies.recv_can_send, full]
  | @send handle src buffer tx u can_send =>
    cases side with
    | recv =>
      refine .udp_recv fun drained => ?_
      rw [notifies.udp_send_can_recv, drained]
    | send => exact .udp_send fun full => absurd (full.symm.trans can_send) (by decide)
  | @recv handle buffer tx u can_recv =>
    cases side with
    | recv => exact .udp_recv fun drained => absurd (drained.symm.trans can_recv) (by decide)
    | send =>
      refine .udp_send fun full => ?_
      rw [notifies.udp_recv_can_send, full]

/-- An event that is parked waits. -/
theorem Parks.awaits {t : TcpStack S} {e : OperationEvent} {side : Side} (parks : t.Parks e side) :
    ∃ s, t.socket_at e.index = some s ∧ Awaits S e side s := by
  cases parks with
  | ready socket may_recv => exact ⟨_, socket, .ready may_recv⟩
  | read found socket drained may_recv => exact ⟨_, socket, .read drained may_recv⟩
  | write found socket full may_send => exact ⟨_, socket, .write full may_send⟩
  | recv found socket drained => exact ⟨_, socket, .recv drained⟩
  | send found socket full => exact ⟨_, socket, .send full⟩

/-- `close` of a TCP socket sets its value. -/
theorem socket_at_close_tcp {t : TcpStack S} {i : ℕ} {c c' : S.Tcp}
    (socket : t.socket_at i = some (.tcp c')) (j : ℕ) : (t.close_tcp i c).socket_at j =
      if j = i then some (.tcp (S.tcp.close c)) else t.socket_at j := by
  rw [(wakes_close_tcp t i c).socket_at, socket_at_put]
  split_ifs with hj
  · rw [hj, socket]
    rfl
  · cases t.socket_at j <;> rfl

/-- A waker that `close` of a TCP socket leaves is at another socket, or the state did not change.
-/
theorem waker_of_close_tcp {t : TcpStack S} {i j : ℕ} {c : S.Tcp} {side : Side} {e : OperationEvent}
    (parked : (t.close_tcp i c).waker j side = some e) :
    t.waker j side = some e ∧ (j = i → S.tcp.state (S.tcp.close c) = S.tcp.state c) := by
  unfold close_tcp at parked
  dsimp only at parked
  split_ifs at parked with same
  · rw [waker_put] at parked
    exact ⟨parked, fun _ => same⟩
  · rw [wake_both, waker_wake, waker_wake] at parked
    split_ifs at parked with send recv
    rw [waker_put] at parked
    refine ⟨parked, fun hj => ?_⟩
    cases side with
    | recv => exact absurd ⟨hj, rfl⟩ recv
    | send => exact absurd ⟨hj, rfl⟩ send

/-- `close` of a socket whose transmit half was shut is no event for its wakers. -/
theorem calm_close (spec : S.Spec) (notifies : S.Notifies) {c : S.Tcp}
    (same : S.tcp.state (S.tcp.close c) = S.tcp.state c) (side : Side) :
    Calm S side (.tcp c) (.tcp (S.tcp.close c)) := by
  cases side with
  | recv => exact .tcp_recv same fun drained => (spec.close_queue c).trans drained
  | send => exact .tcp_send same fun full => (notifies.close_can_send c same).trans full

/-- `close` of a TCP socket keeps a stable relation: it wakes both wakers if it changes the state.
-/
theorem Parked.close_tcp (spec : S.Spec) (notifies : S.Notifies) (stable : Stable P)
    {t : TcpStack S} {i : ℕ} {c : S.Tcp} (socket : t.socket_at i = some (.tcp c))
    (parked : t.Parked P) : (t.close_tcp i c).Parked P := by
  refine parked.of_calm stable fun j side e waker => .inl ?_
  obtain ⟨was, same⟩ := waker_of_close_tcp waker
  refine ⟨was, fun s hs => ?_⟩
  rw [socket_at_close_tcp socket]
  split_ifs with hj
  · subst hj
    cases hs.symm.trans socket
    exact ⟨_, rfl, calm_close spec notifies (same rfl) side⟩
  · exact ⟨s, hs, .refl side s⟩

/-- A waker that is registered brings its own relation. -/
theorem Parked.register {t : TcpStack S} {i : ℕ} {side : Side} {e : OperationEvent} {s : S.Socket}
    (parked : t.Parked P) (socket : t.socket_at i = some s) (related : P e side s) :
    (t.register i side e).Parked P := by
  intro j side' e' waker
  rw [waker_register] at waker
  rw [socket_at_register]
  split_ifs at waker with hj
  · cases waker
    rw [hj.1, hj.2.1]
    exact ⟨s, socket, related⟩
  · exact parked j side' e' waker

/-- The handler keeps a stable relation. The event itself comes into it if it is parked, where what
it waits for has not come; the socket of a Ready is as it was then. -/
theorem Parked.handle (spec : S.Spec) (notifies : S.Notifies) (stable : Stable P)
    {t t' : TcpStack S} {e : OperationEvent} (parked : t.Parked P) (ok : t.handle e = .ok t')
    (own : ∀ side s, Awaits S e side s →
      (∀ h, e = .ready h → t.parks e = some side ∧ t.socket_at e.index = some s) → P e side s) :
    t'.Parked P := by
  cases handle_outcome ok with
  | answered tx a result_tx refuses eq => subst eq; exact parked
  | served tx a s s' memory result_tx found socket serves eq =>
    subst eq
    refine parked.of_calm stable fun j side e' waker => .inl ?_
    have was : (t.put e.index s').waker j side = some e' := waker
    rw [waker_put] at was
    refine ⟨was, fun r hr => ?_⟩
    have put : (t.put e.index s').socket_at j = some (if j = e.index then s' else r) := by
      rw [socket_at_put, hr]
      rfl
    refine ⟨_, put, ?_⟩
    split_ifs with hj
    · rw [hj, socket] at hr
      cases hr
      exact serves.calm spec notifies side
    · exact .refl side r
  | parked side parks eq =>
    subst eq
    obtain ⟨s, socket, awaits⟩ := parks.awaits
    exact parked.register socket (own side s awaits fun _ _ => ⟨parks_of_parks parks, socket⟩)
  | shutdown handle tx c event found socket eq =>
    subst eq event
    have registered := (socket_at_register t handle.index handle.index .send
      (.shutdown (.tcp handle) tx)).trans socket
    refine parked.of_calm stable fun j side e' waker => ?_
    obtain ⟨was, same⟩ := waker_of_close_tcp waker
    rw [socket_at_close_tcp registered]
    rw [waker_register] at was
    split_ifs at was with hj
    · -- The Shutdown itself: `close` left the state as it was.
      cases was
      rw [if_pos hj.1, hj.2.1]
      refine .inr ⟨_, rfl, own _ _ (.shutdown ?_) (by rintro h ⟨⟩)⟩
      rw [spec.close_state, TcpState.after_close_after_close]
    · refine .inl ⟨was, fun s hs => ?_⟩
      rw [socket_at_register]
      split_ifs with hi
      · subst hi
        cases hs.symm.trans socket
        exact ⟨_, rfl, calm_close spec notifies (same rfl) side⟩
      · exact ⟨s, hs, .refl side s⟩
  | closing handle c event found socket active eq =>
    subst eq event
    have closed := (socket_at_close_tcp (c := c) socket handle.index).trans (if_pos rfl)
    refine (parked.close_tcp spec notifies stable socket).register closed
      (own _ _ (.closing ?_ active) (by rintro h ⟨⟩))
    rw [spec.close_state, TcpState.after_close_after_close]
  | removed h s s' accepted u event found socket closes wakes others woken eq =>
    refine parked.of_calm stable fun j side e' waker => .inl ?_
    have other : j ≠ h.handle.index ∧ u.waker j side = some e' := by
      rw [eq] at waker
      simp only [TcpStack.waker, Arena.val_remove] at waker ⊢
      split_ifs at waker with hj
      · cases waker
      · exact ⟨hj, waker⟩
    have was : t.waker j side = some e' := by
      rw [← other.2, TcpStack.waker, TcpStack.waker, others j other.1]
    refine ⟨was, fun r hr => ⟨r, ?_, .refl side r⟩⟩
    rw [eq]
    refine (socket_at_remove u h.handle.index j).trans ?_
    rw [if_neg other.1, ← hr, socket_at, socket_at, others j other.1]
  | delivered_tcp handle c remote local_ event socket may_recv remote_eq local_eq eq =>
    subst eq; exact parked
  | delivered_udp handle u ip event socket bound eq => subst eq; exact parked
  | ignored h event gone eq => subst eq; exact parked

/-- After a handler what the parked events wait for has not come. -/
theorem Waiting.handle (spec : S.Spec) (notifies : S.Notifies) {t t' : TcpStack S}
    {e : OperationEvent} (waiting : t.Waiting) (ok : t.handle e = .ok t') : t'.Waiting :=
  Parked.handle spec notifies (stable_awaits spec notifies) waiting ok fun _ _ awaits _ => awaits

/-! ## Polls -/

/-- A waker that a poll leaves is at a socket to which nothing happened that it waits for. -/
theorem Parked.poll (notifies : S.Notifies) (stable : Stable P) {t : TcpStack S}
    (parked : t.Parked P) (now : ℕ) : (t.poll now).Parked P := by
  refine parked.of_calm stable fun i side e waker => .inl ?_
  have asleep : (i, side) ∉ (t.poll_result now).woken := fun woken => by
    have none : (t.poll now).waker i side = none := waker_foldl woken (t.advance now)
    rw [none] at waker
    cases waker
  have was := (wakes_poll t now).waker_of_some waker
  rw [waker_advance] at was
  refine ⟨was, fun s socket => ⟨_, by rw [socket_at_poll, socket, Option.map_some], ?_⟩⟩
  have slot := (get_sockets t i).trans socket
  cases s with
  | tcp c => exact notifies.calm_poll_tcp slot asleep
  | udp u => exact notifies.calm_poll_udp slot asleep

/-- The other tables of the stack do not matter. -/
theorem Parked.of_socket_set {t t' : TcpStack S} (parked : t.Parked P)
    (same : t'.socket_set = t.socket_set) : t'.Parked P := by
  unfold Parked waker socket_at at parked ⊢
  rw [same]
  exact parked

/-- A new socket has no waker. -/
theorem Parked.add {t : TcpStack S} (parked : t.Parked P) (s : S.Socket) : (t.add s).Parked P := by
  intro i side e waker
  rw [waker_add] at waker
  rw [socket_at_add]
  split_ifs at waker with hi
  rw [if_neg hi]
  exact parked i side e waker

/-- `init_tcp` parks the Ready of its listener. -/
theorem Parked.init_tcp (spec : S.Spec) {t : TcpStack S} (parked : t.Parked P) (dst : SocketAddr)
    (fresh : ∀ handle c, S.tcp.state c = .listen → P (.ready (.tcp handle)) .send (.tcp c)) :
    (t.init_tcp dst).1.Parked P := by
  unfold TcpStack.init_tcp
  cases listens : S.tcp.listen (S.tcp.new t.tcp_socket_buf_size) (.from dst) with
  | error err => exact parked
  | ok c =>
    have added : (t.add (.tcp c)).socket_at t.next_handle.index = some (.tcp c) :=
      (socket_at_add t _ _).trans (if_pos rfl)
    have parked : ({ t.add (.tcp c) with
        socket_handles := insert (TypedSocketHandle.tcp t.next_handle).key
          (t.add (.tcp c)).socket_handles } : TcpStack S).Parked P :=
      (parked.add (.tcp c)).of_socket_set rfl
    exact parked.register added (fresh _ c (spec.listens listens).2.1)

/-- `try_init_udp` parks nothing. -/
theorem Parked.try_init_udp {t : TcpStack S} (parked : t.Parked P) (dst : SocketAddr) :
    (t.try_init_udp dst).1.Parked P := by
  unfold TcpStack.try_init_udp
  split_ifs
  · exact parked
  · cases S.udp.bind (S.udp.new socket_buf_size) (.from dst) with
    | error err => exact parked
    | ok u =>
      -- The Ready is sent at once, and not parked.
      dsimp only
      split_ifs <;> exact (parked.add (.udp u)).of_socket_set rfl

/-- A packet that is queued leaves what is parked. -/
theorem Parked.push {t : TcpStack S} (parked : t.Parked P) (packet : Option Packet) :
    (t.push packet).Parked P := parked.of_socket_set rfl

/-- What `drive_once` does before the events keeps a stable relation, into which the Ready of a new
listener comes. -/
theorem Parked.begin_drive (spec : S.Spec) (notifies : S.Notifies) (stable : Stable P)
    (fresh : ∀ handle c, S.tcp.state c = .listen → P (.ready (.tcp handle)) .send (.tcp c))
    {t t' : TcpStack S} {packet : Option Packet} {now : ℕ} {res : Except DriveError Unit}
    (parked : t.Parked P) (ok : t.begin_drive packet now = .ok (t', res)) : t'.Parked P := by
  cases packet with
  | none =>
    obtain ⟨-, rfl, -⟩ := try_poll_eq_ok.mp ok
    exact parked.poll notifies stable now
  | some p =>
    simp only [TcpStack.begin_drive, receive, bind, Except.bind, pure, Except.pure] at ok
    cases parsed : parse_packet p with
    | error panic =>
      simp only [parsed] at ok
      cases ok
    | ok packet_type =>
      rcases packet_type with - | ⟨src, dst⟩ | ⟨src, dst⟩
      · simp only [parsed] at ok
        obtain ⟨-, rfl, -⟩ := try_poll_eq_ok.mp ok
        exact (parked.push (some p)).poll notifies stable now
      · have begun := parked.init_tcp spec dst fresh
        generalize hu : t.init_tcp dst = r at begun
        obtain ⟨u, err | done⟩ := r
        all_goals simp only [parsed, hu] at ok
        · cases ok
          exact begun
        · obtain ⟨-, rfl, -⟩ := try_poll_eq_ok.mp ok
          exact (Parked.push begun (some p)).poll notifies stable now
      · have begun := parked.try_init_udp dst
        generalize hu : t.try_init_udp dst = r at begun
        obtain ⟨u, err | new⟩ := r
        all_goals simp only [parsed, hu, Except.map] at ok
        · cases ok
          exact begun
        · obtain ⟨-, rfl, -⟩ := try_poll_eq_ok.mp ok
          exact (Parked.push begun (some p)).poll notifies stable now

/-- When `drive_once` comes to its events, what the parked events wait for has not come. -/
theorem Waiting.begin_drive (spec : S.Spec) (notifies : S.Notifies) {t t' : TcpStack S}
    {packet : Option Packet} {now : ℕ} {res : Except DriveError Unit} (waiting : t.Waiting)
    (ok : t.begin_drive packet now = .ok (t', res)) : t'.Waiting :=
  Parked.begin_drive spec notifies (stable_awaits spec notifies)
    (fun _ _ listens => .opening listens)
    waiting ok

/-! ## Handling once more -/

/-- Handling a parked Read, Write, Recv, or Send once more would park it again. -/
theorem handle_of_awaits {t : TcpStack S} {i : ℕ} {side : Side} {e : OperationEvent} {s : S.Socket}
    (index : e.index = i) (found : t.contains e.handle = true) (socket : t.socket_at i = some s)
    (awaits : Awaits S e side s) {p : Protocol} (deferred : e.deferred = some p) :
    t.handle e = .ok (t.register i side e) := by
  subst index
  cases awaits with
  | opening => cases deferred
  | ready => cases deferred
  | shutdown => cases deferred
  | closing => cases deferred
  | @read handle buffer tx c drained may_recv =>
    have get : t.get_tcp handle = .ok c := get_tcp_eq_ok.mpr socket
    have found : t.contains (.tcp handle) = true := found
    simp only [TcpStack.handle, handle_tcp_wake_event, found, get, drained, may_recv, bind,
      Except.bind, Bool.not_true, Bool.false_eq_true, if_true, if_false]
    rfl
  | @write handle buffer tx c full may_send =>
    have get : t.get_tcp handle = .ok c := get_tcp_eq_ok.mpr socket
    have found : t.contains (.tcp handle) = true := found
    simp only [TcpStack.handle, handle_tcp_wake_event, found, get, full, may_send, bind,
      Except.bind, Bool.not_true, Bool.not_false, Bool.false_eq_true, if_true, if_false]
    rfl
  | @recv handle buffer tx u drained =>
    have get : t.get_udp handle = .ok u := get_udp_eq_ok.mpr socket
    have found : t.contains (.udp handle) = true := found
    simp only [TcpStack.handle, handle_udp_wake_event, found, get, drained, bind, Except.bind,
      Bool.not_true, Bool.not_false, Bool.false_eq_true, if_true, if_false]
    rfl
  | @send handle src buffer tx u full =>
    have get : t.get_udp handle = .ok u := get_udp_eq_ok.mpr socket
    have found : t.contains (.udp handle) = true := found
    simp only [TcpStack.handle, handle_udp_wake_event, found, get, full, bind, Except.bind,
      Bool.not_true, Bool.not_false, Bool.false_eq_true, if_true, if_false]
    rfl

/-- Registering the waker that is there changes nothing. -/
theorem register_of_waker {t : TcpStack S} {i : ℕ} {side : Side} {e : OperationEvent}
    (parked : t.waker i side = some e) : t.register i side e = t := by
  obtain ⟨item, slot, waker⟩ := Option.bind_eq_some_iff.mp parked
  have fixed : item.register side e = item := by
    unfold Item.register
    rw [← waker, Function.update_eq_self]
  rw [register, Arena.modify_of_val slot fixed]

end TcpStack

end L3Extract
