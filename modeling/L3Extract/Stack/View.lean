import L3Extract.Lib.Projection
import L3Extract.Stack.Account

/-!
# What is seen through one handle

`SameView` says what of a stack is seen through one handle: its entry in the handle table, its slot
with the socket and the wakers, and the answers and buffers of its requests. `SameTraffic` adds the
messages about the handle that were put into the event channel and into the acceptors' channels.
Handling the event of another handle does not change this view (`Settled.frame`), and the handle's
own events are handled alike in stacks with the same view (`Settled.own`), so that `Projects`
applies.
-/

namespace L3Extract

open OperationEvent

variable {S : Smoltcp}

namespace TcpStack

/-! ## The view through a handle -/

/-- Two stacks look the same through the handle with the key `k`, whose requests use the result
channels in `T` and the buffers in `B`. -/
structure SameView (k : Protocol × ℕ) (T : Set ResultTx) (B : Set BufferId)
    (t u : TcpStack S) : Prop where
  found : k ∈ u.socket_handles ↔ k ∈ t.socket_handles
  item : k ∈ t.socket_handles → u.socket_set.val k.2 = t.socket_set.val k.2
  answers : ∀ tx ∈ T, (u.answers.filter fun a => a.1 = tx) = t.answers.filter fun a => a.1 = tx
  memory : ∀ b ∈ B, u.memory b = t.memory b
  connected : u.operation_event.connected = t.operation_event.connected

variable {k : Protocol × ℕ} {T : Set ResultTx} {B : Set BufferId}

/-- A stack looks like itself. -/
theorem SameView.refl (t : TcpStack S) : SameView k T B t t :=
  ⟨Iff.rfl, fun _ => rfl, fun _ _ => rfl, fun _ _ => rfl, rfl⟩

/-- Looking the same through a handle goes both ways. -/
theorem SameView.symm {t u : TcpStack S} (h : SameView k T B t u) : SameView k T B u t where
  found := h.found.symm
  item hk := (h.item (h.found.mp hk)).symm
  answers tx htx := (h.answers tx htx).symm
  memory b hb := (h.memory b hb).symm
  connected := h.connected.symm

/-- Looking the same through a handle goes on from stack to stack. -/
theorem SameView.trans {t u v : TcpStack S} (h : SameView k T B t u) (h' : SameView k T B u v) :
    SameView k T B t v where
  found := h'.found.trans h.found
  item hk := (h'.item (h.found.mpr hk)).trans (h.item hk)
  answers tx htx := (h'.answers tx htx).trans (h.answers tx htx)
  memory b hb := (h'.memory b hb).trans (h.memory b hb)
  connected := h'.connected.trans h.connected

/-- The event is for the handle with the key `k`. -/
def is_own (k : Protocol × ℕ) (e : OperationEvent) : Bool := e.handle.key = k

/-- Two stacks look the same through a handle, and the same messages about it were put into the
event channel and into the acceptors' channels. -/
structure SameTraffic (k : Protocol × ℕ) (T : Set ResultTx) (B : Set BufferId)
    (t u : TcpStack S) : Prop extends SameView k T B t u where
  events : u.operation_event.sent.filter (is_own k) = t.operation_event.sent.filter (is_own k)
  tcp_acceptor : u.tcp_stream.connected = t.tcp_stream.connected
  udp_acceptor : u.udp_stream.connected = t.udp_stream.connected
  tcp_infos : (u.tcp_stream.sent.filter fun info => (TypedSocketHandle.tcp info.handle).key = k) =
    t.tcp_stream.sent.filter fun info => (TypedSocketHandle.tcp info.handle).key = k
  udp_infos : (u.udp_stream.sent.filter fun info => (TypedSocketHandle.udp info.handle).key = k) =
    t.udp_stream.sent.filter fun info => (TypedSocketHandle.udp info.handle).key = k

/-- A stack has its own traffic. -/
theorem SameTraffic.refl (t : TcpStack S) : SameTraffic k T B t t where
  toSameView := .refl t
  events := rfl
  tcp_acceptor := rfl
  udp_acceptor := rfl
  tcp_infos := rfl
  udp_infos := rfl

/-- Having the same traffic goes both ways. -/
theorem SameTraffic.symm {t u : TcpStack S} (h : SameTraffic k T B t u) :
    SameTraffic k T B u t where
  toSameView := h.toSameView.symm
  events := h.events.symm
  tcp_acceptor := h.tcp_acceptor.symm
  udp_acceptor := h.udp_acceptor.symm
  tcp_infos := h.tcp_infos.symm
  udp_infos := h.udp_infos.symm

/-- Having the same traffic goes on from stack to stack. -/
theorem SameTraffic.trans {t u v : TcpStack S} (h : SameTraffic k T B t u)
    (h' : SameTraffic k T B u v) : SameTraffic k T B t v where
  toSameView := h.toSameView.trans h'.toSameView
  events := h'.events.trans h.events
  tcp_acceptor := h'.tcp_acceptor.trans h.tcp_acceptor
  udp_acceptor := h'.udp_acceptor.trans h.udp_acceptor
  tcp_infos := h'.tcp_infos.trans h.tcp_infos
  udp_infos := h'.udp_infos.trans h.udp_infos

/-- What a filter keeps of two channels stays the same when both are sent the same value. -/
theorem filter_send {α : Type} {ch ch' : Channel α} {p : α → Bool}
    (connected : ch'.connected = ch.connected)
    (sent : ch'.sent.filter p = ch.sent.filter p) (v : α) :
    (ch'.send v).sent.filter p = (ch.send v).sent.filter p := by
  rw [Channel.send_eq_extend, Channel.send_eq_extend, connected]
  simp only [Channel.extend, List.filter_append, sent]

/-! ## Reading through a handle -/

section Reads

variable {t u : TcpStack S} (same : SameView k T B t u)

include same

/-- The handle is in both tables or in none. -/
theorem SameView.contains {h : TypedSocketHandle} (hk : h.key = k) :
    u.contains h = t.contains h := by
  rw [TcpStack.contains, TcpStack.contains, hk]
  exact decide_eq_decide.mpr same.found

/-- The slot of a handle that is there holds the same socket. -/
theorem SameView.socket_at (live : k ∈ t.socket_handles) : u.socket_at k.2 = t.socket_at k.2 := by
  rw [TcpStack.socket_at, TcpStack.socket_at, same.item live]

/-- The slot of a handle that is there has the same wakers. -/
theorem SameView.waker (live : k ∈ t.socket_handles) (side : Side) :
    u.waker k.2 side = t.waker k.2 side := by
  rw [TcpStack.waker, TcpStack.waker, same.item live]

/-- `get_mut::<TcpSocket>` comes to the same for a handle that is there. -/
theorem SameView.get_tcp (live : k ∈ t.socket_handles) (handle : SocketHandle)
    (hk : handle.index = k.2) : u.get_tcp handle = t.get_tcp handle := by
  rw [TcpStack.get_tcp, TcpStack.get_tcp, hk, same.socket_at live]

/-- `get_mut::<UdpSocket>` comes to the same for a handle that is there. -/
theorem SameView.get_udp (live : k ∈ t.socket_handles) (handle : SocketHandle)
    (hk : handle.index = k.2) : u.get_udp handle = t.get_udp handle := by
  rw [TcpStack.get_udp, TcpStack.get_udp, hk, same.socket_at live]

end Reads

/-! ## Acting through a handle -/

section Acts

variable {t u : TcpStack S} (same : SameTraffic k T B t u)

include same

/-- Answering the same request keeps the traffic the same. -/
theorem SameTraffic.answer (tx : ResultTx) (a : Answer) :
    SameTraffic k T B (t.answer tx a) (u.answer tx a) where
  found := same.found
  item := same.item
  answers tx' htx' := by
    have hu : (u.answer tx a).answers = u.answers ++ [(tx, a)] := rfl
    have ht : (t.answer tx a).answers = t.answers ++ [(tx, a)] := rfl
    rw [hu, ht, List.filter_append, List.filter_append, same.answers tx' htx']
  memory := same.memory
  connected := same.connected
  events := same.events
  tcp_acceptor := same.tcp_acceptor
  udp_acceptor := same.udp_acceptor
  tcp_infos := same.tcp_infos
  udp_infos := same.udp_infos

/-- Filling a buffer of the handle's requests keeps the traffic the same. -/
theorem SameTraffic.fill (b : BufferId) (data : Bytes) (hb : b ∈ B) :
    SameTraffic k T B (t.fill b data) (u.fill b data) where
  found := same.found
  item := same.item
  answers := same.answers
  memory b' hb' := by
    simp only [TcpStack.fill, same.memory b hb]
    by_cases hbb : b' = b
    · subst hbb
      simp
    · simp [hbb, same.memory b' hb']
  connected := same.connected
  events := same.events
  tcp_acceptor := same.tcp_acceptor
  udp_acceptor := same.udp_acceptor
  tcp_infos := same.tcp_infos
  udp_infos := same.udp_infos

/-- The same change to the item in the handle's slot. -/
theorem SameTraffic.modify (f : Item S → Item S) :
    SameTraffic k T B { t with socket_set := t.socket_set.modify k.2 f }
      { u with socket_set := u.socket_set.modify k.2 f } where
  found := same.found
  item live := by rw [Arena.val_modify, Arena.val_modify, same.item live]
  answers := same.answers
  memory := same.memory
  connected := same.connected
  events := same.events
  tcp_acceptor := same.tcp_acceptor
  udp_acceptor := same.udp_acceptor
  tcp_infos := same.tcp_infos
  udp_infos := same.udp_infos

/-- Setting the socket of the handle keeps the traffic the same. -/
theorem SameTraffic.put (s : S.Socket) : SameTraffic k T B (t.put k.2 s) (u.put k.2 s) :=
  same.modify (.put s)

/-- Registering a waker at the handle's slot keeps the traffic the same. -/
theorem SameTraffic.register (side : Side) (e : OperationEvent) :
    SameTraffic k T B (t.register k.2 side e) (u.register k.2 side e) :=
  same.modify (.register side e)

/-- The waker of an event runs. -/
theorem SameTraffic.run_waker (e : OperationEvent) :
    SameTraffic k T B (t.run_waker e) (u.run_waker e) := by
  have ha : u.waker_answers e = t.waker_answers e := by
    cases e <;> simp only [waker_answers, same.connected]
  rw [run_waker_eq, run_waker_eq, ha]
  refine ⟨⟨same.found, same.item, fun tx htx => ?_, same.memory, ?_⟩, ?_, same.tcp_acceptor,
    same.udp_acceptor, same.tcp_infos, same.udp_infos⟩
  · simp only [List.filter_append]
    rw [same.answers tx htx]
  · dsimp only
    split
    · rw [Channel.connected_send, Channel.connected_send, same.connected]
    · exact same.connected
  · dsimp only
    split
    · exact filter_send same.connected same.events e
    · exact same.events

/-- Waking a side of the handle's slot keeps the traffic the same. -/
theorem SameTraffic.wake (live : k ∈ t.socket_handles) (side : Side) :
    SameTraffic k T B (t.wake k.2 side) (u.wake k.2 side) := by
  have hw := same.waker live side
  cases h : t.waker k.2 side with
  | none => rwa [wake_of_none h, wake_of_none (hw.trans h)]
  | some e =>
    rw [wake_of_some h, wake_of_some (hw.trans h)]
    exact (same.modify (.unregister side)).run_waker e

/-- Waking both sides of the handle's slot keeps the traffic the same. -/
theorem SameTraffic.wake_both (live : k ∈ t.socket_handles) :
    SameTraffic k T B (t.wake_both k.2) (u.wake_both k.2) := by
  refine (same.wake live .recv).wake ?_ .send
  rwa [(same_wake t k.2 .recv).socket_handles]

/-- Closing the handle's TCP socket keeps the traffic the same. -/
theorem SameTraffic.close_tcp (live : k ∈ t.socket_handles) (c : S.Tcp) :
    SameTraffic k T B (t.close_tcp k.2 c) (u.close_tcp k.2 c) := by
  unfold TcpStack.close_tcp
  dsimp only
  split_ifs
  · exact same.put _
  · exact (same.put _).wake_both live

/-- Closing the handle's UDP socket keeps the traffic the same. -/
theorem SameTraffic.close_udp (live : k ∈ t.socket_handles) (c : S.Udp) :
    SameTraffic k T B (t.close_udp k.2 c) (u.close_udp k.2 c) := (same.put _).wake_both live

end Acts

/-! ## Own events -/

section Own

variable {t t' u : TcpStack S} {handle : SocketHandle} {b : BufferId} {tx : ResultTx}

/-- A request finds its handle in both tables or in neither, and is answered the same error, or
finds the same socket. -/
theorem SameTraffic.request {α : Type} {get get' : Except Panic α}
    {serve serve' : α → Except Panic (TcpStack S)} {a : Answer} {h : TypedSocketHandle}
    (same : SameTraffic h.key T B t u) (found : h.key ∈ t.socket_handles → get' = get)
    (own : ∀ c, serve c = .ok t' → ∃ u', serve' c = .ok u' ∧ SameTraffic h.key T B t' u')
    (ok : (if (!t.contains h) = true then pure (t.answer tx a) else get >>= serve) = .ok t') :
    ∃ u', (if (!u.contains h) = true then pure (u.answer tx a) else get' >>= serve') = .ok u' ∧
      SameTraffic h.key T B t' u' := by
  rw [same.contains rfl]
  cases hc : t.contains h with
  | false =>
    rw [hc] at ok
    cases ok
    exact ⟨_, rfl, same.answer _ _⟩
  | true =>
    -- The socket is the same, and so is what its state asks for.
    rw [hc] at ok
    obtain ⟨c, hg, ok⟩ := except_bind_eq_ok.mp ok
    obtain ⟨u', hu, same'⟩ := own c ok
    refine ⟨u', ?_, same'⟩
    rw [found (of_decide_eq_true hc), hg]
    exact hu

/-- Handling a Read of the handle keeps the traffic the same. -/
theorem SameTraffic.read (same : SameTraffic (TypedSocketHandle.tcp handle).key T B t u)
    (hb : b ∈ B)
    (ok : t.handle (.read handle b tx) = .ok t') :
    ∃ u', u.handle (.read handle b tx) = .ok u' ∧
      SameTraffic (TypedSocketHandle.tcp handle).key T B t' u' := by
  simp only [TcpStack.handle, handle_tcp_wake_event] at ok ⊢
  refine same.request (fun live => same.get_tcp live handle rfl) (fun c ok => ?_) ok
  simp only [same.memory b hb] at ok ⊢
  split_ifs at ok ⊢
  · cases ok
    exact ⟨_, rfl, same.answer _ _⟩
  · cases ok
    exact ⟨_, rfl, same.register _ _⟩
  · have put := same.put (.tcp (S.tcp.recv_slice c (t.memory b).capacity).1)
    cases hres : (S.tcp.recv_slice c (t.memory b).capacity).2 with
    | error err =>
      simp only [hres] at ok ⊢
      cases err <;> cases ok <;> exact ⟨_, rfl, put.answer _ _⟩
    | ok data =>
      simp only [hres] at ok ⊢
      cases ok
      exact ⟨_, rfl, (put.fill b data hb).answer _ _⟩

/-- Handling a Write of the handle keeps the traffic the same. -/
theorem SameTraffic.write (same : SameTraffic (TypedSocketHandle.tcp handle).key T B t u)
    (hb : b ∈ B)
    (ok : t.handle (.write handle b tx) = .ok t') :
    ∃ u', u.handle (.write handle b tx) = .ok u' ∧
      SameTraffic (TypedSocketHandle.tcp handle).key T B t' u' := by
  simp only [TcpStack.handle, handle_tcp_wake_event] at ok ⊢
  refine same.request (fun live => same.get_tcp live handle rfl) (fun c ok => ?_) ok
  simp only [same.memory b hb] at ok ⊢
  split_ifs at ok ⊢
  · cases ok
    exact ⟨_, rfl, same.answer _ _⟩
  · cases ok
    exact ⟨_, rfl, same.register _ _⟩
  · have put := same.put (.tcp (S.tcp.send_slice c (t.memory b).as_slice).1)
    cases hres : (S.tcp.send_slice c (t.memory b).as_slice).2 with
    | error err =>
      simp only [hres] at ok ⊢
      cases ok
      exact ⟨_, rfl, put.answer _ _⟩
    | ok n =>
      simp only [hres] at ok ⊢
      cases ok
      exact ⟨_, rfl, put.answer _ _⟩

/-- Handling a Recv of the handle keeps the traffic the same. -/
theorem SameTraffic.recv (same : SameTraffic (TypedSocketHandle.udp handle).key T B t u)
    (hb : b ∈ B)
    (ok : t.handle (.recv handle b tx) = .ok t') :
    ∃ u', u.handle (.recv handle b tx) = .ok u' ∧
      SameTraffic (TypedSocketHandle.udp handle).key T B t' u' := by
  simp only [TcpStack.handle, handle_udp_wake_event] at ok ⊢
  refine same.request (fun live => same.get_udp live handle rfl) (fun c ok => ?_) ok
  simp only [same.memory b hb] at ok ⊢
  split_ifs at ok ⊢
  · cases ok
    exact ⟨_, rfl, same.register _ _⟩
  · have put := same.put (.udp (S.udp.recv_slice c (t.memory b).capacity).1)
    cases hres : (S.udp.recv_slice c (t.memory b).capacity).2 with
    | error err =>
      simp only [hres] at ok ⊢
      cases ok
      exact ⟨_, rfl, put.answer _ _⟩
    | ok data =>
      simp only [hres] at ok ⊢
      cases ok
      exact ⟨_, rfl, (put.fill b data.1 hb).answer _ _⟩

/-- Handling a Send of the handle keeps the traffic the same. -/
theorem SameTraffic.send {src : SocketAddr}
    (same : SameTraffic (TypedSocketHandle.udp handle).key T B t u)
    (hb : b ∈ B) (ok : t.handle (.send handle src b tx) = .ok t') :
    ∃ u', u.handle (.send handle src b tx) = .ok u' ∧
      SameTraffic (TypedSocketHandle.udp handle).key T B t' u' := by
  simp only [TcpStack.handle, handle_udp_wake_event] at ok ⊢
  refine same.request (fun live => same.get_udp live handle rfl) (fun c ok => ?_) ok
  simp only [same.memory b hb] at ok ⊢
  split_ifs at ok ⊢
  · cases ok
    exact ⟨_, rfl, same.register _ _⟩
  · have put := same.put (.udp (S.udp.send_slice c (t.memory b).as_slice (.from src)).1)
    cases hres : (S.udp.send_slice c (t.memory b).as_slice (.from src)).2 with
    | error err =>
      simp only [hres] at ok ⊢
      cases ok
      exact ⟨_, rfl, put.answer _ _⟩
    | ok n =>
      simp only [hres] at ok ⊢
      cases ok
      exact ⟨_, rfl, put.answer _ _⟩

/-- Handling a Shutdown of the handle keeps the traffic the same. -/
theorem SameTraffic.shutdown {h : TypedSocketHandle} (same : SameTraffic h.key T B t u)
    (ok : t.handle (.shutdown h tx) = .ok t') :
    ∃ u', u.handle (.shutdown h tx) = .ok u' ∧ SameTraffic h.key T B t' u' := by
  have hc := same.contains rfl
  simp only [TcpStack.handle, handle_shutdown_event, hc] at ok ⊢
  cases found : t.contains h with
  | false =>
    simp only [found, Bool.false_eq_true, if_false] at ok ⊢
    cases ok
    exact ⟨_, rfl, same.answer _ _⟩
  | true =>
    simp only [found, if_true] at ok ⊢
    cases h with
    | udp handle => cases ok
    | tcp handle =>
      have live := of_decide_eq_true found
      have hget := same.get_tcp live handle rfl
      obtain ⟨c, hg, ok⟩ := except_bind_eq_ok.mp ok
      cases ok
      simp only [hget, hg, bind, Except.bind]
      exact ⟨_, rfl, (same.register .send _).close_tcp live c⟩

/-- The socket that one stack removes is there in the other. -/
theorem SameTraffic.remove {h : TypedSocketHandle} (same : SameTraffic h.key T B t u)
    (live : h.key ∈ t.socket_handles) (there : (t.socket_at h.handle.index).isSome) :
    u.remove h.handle = .ok { u with socket_set := u.socket_set.remove h.handle.index } := by
  refine remove_eq_ok.mpr ⟨?_, rfl⟩
  have hs : u.socket_at h.handle.index = t.socket_at h.handle.index := same.socket_at live
  rwa [hs]

/-- The same socket is removed. -/
theorem SameTraffic.removed {h : TypedSocketHandle} (same : SameTraffic h.key T B t u)
    (accepted accepted' : Finset SocketAddr) :
    SameTraffic h.key T B
      { t with
        socket_set := t.socket_set.remove h.handle.index
        socket_handles := t.socket_handles.erase h.key
        accepted_udp_sockets := accepted }
      { u with
        socket_set := u.socket_set.remove h.handle.index
        socket_handles := u.socket_handles.erase h.key
        accepted_udp_sockets := accepted' } where
  found := iff_of_false (Finset.notMem_erase _ _) (Finset.notMem_erase _ _)
  item live := absurd live (Finset.notMem_erase _ _)
  answers := same.answers
  memory := same.memory
  connected := same.connected
  events := same.events
  tcp_acceptor := same.tcp_acceptor
  udp_acceptor := same.udp_acceptor
  tcp_infos := same.tcp_infos
  udp_infos := same.udp_infos

/-- Handling a Close of the handle keeps the traffic the same. -/
theorem SameTraffic.close {h : TypedSocketHandle} (same : SameTraffic h.key T B t u)
    (ok : t.handle (.close h) = .ok t') :
    ∃ u', u.handle (.close h) = .ok u' ∧ SameTraffic h.key T B t' u' := by
  have hc := same.contains rfl
  simp only [TcpStack.handle, handle_close_event, hc] at ok ⊢
  cases found : t.contains h with
  | false =>
    simp only [found, Bool.false_eq_true, if_false] at ok ⊢
    cases ok
    exact ⟨_, rfl, same⟩
  | true =>
    simp only [found, if_true] at ok ⊢
    have live := of_decide_eq_true found
    cases h with
    | tcp handle =>
      have hget := same.get_tcp live handle rfl
      obtain ⟨c, hg, ok⟩ := except_bind_eq_ok.mp ok
      have closed : SameTraffic _ T B (t.close_tcp handle.index c) (u.close_tcp handle.index c) :=
        same.close_tcp live c
      have live' : (TypedSocketHandle.tcp handle).key ∈
          (t.close_tcp handle.index c).socket_handles := by
        rw [(wakes_close_tcp t handle.index c).same.socket_handles]
        exact live
      simp only [hget, hg, bind, Except.bind]
      split_ifs at ok ⊢
      · obtain ⟨v, hv, ok⟩ := except_bind_eq_ok.mp ok
        obtain ⟨hs, rfl⟩ := remove_eq_ok.mp hv
        cases ok
        have hu := closed.remove (h := .tcp handle) live' hs
        simp only [remove_tcp_socket, show (u.close_tcp handle.index c).remove handle = _ from hu,
          bind, Except.bind]
        exact ⟨_, rfl, closed.removed _ _⟩
      · cases ok
        exact ⟨_, rfl, closed.register .recv _⟩
    | udp handle =>
      have hget := same.get_udp live handle rfl
      obtain ⟨c, hg, ok⟩ := except_bind_eq_ok.mp ok
      have closed : SameTraffic _ T B (t.close_udp handle.index c) (u.close_udp handle.index c) :=
        same.close_udp live c
      have live' : (TypedSocketHandle.udp handle).key ∈
          (t.close_udp handle.index c).socket_handles := by
        rw [(wakes_close_udp t handle.index c).same.socket_handles]
        exact live
      simp only [hget, hg, bind, Except.bind]
      cases hb : (S.udp.endpoint c).addr with
      | none => simp only [hb] at ok; cases ok
      | some ip =>
        simp only [hb] at ok ⊢
        obtain ⟨v, hv, ok⟩ := except_bind_eq_ok.mp ok
        obtain ⟨hs, rfl⟩ := remove_eq_ok.mp hv
        cases ok
        have hu := closed.remove (h := .udp handle) live' hs
        simp only [remove_udp_socket, show (u.close_udp handle.index c).remove handle = _ from hu,
          bind, Except.bind]
        exact ⟨_, rfl, closed.removed _ _⟩

/-- Handling a Ready of the handle keeps the traffic the same. -/
theorem SameTraffic.ready {h : TypedSocketHandle} (same : SameTraffic h.key T B t u)
    (tables : t.Tables) (ok : t.handle (.ready h) = .ok t') :
    ∃ u', u.handle (.ready h) = .ok u' ∧ SameTraffic h.key T B t' u' := by
  simp only [TcpStack.handle, handle_ready_wake_event] at ok ⊢
  cases h with
  | tcp handle =>
    obtain ⟨c, hg, ok⟩ := except_bind_eq_ok.mp ok
    have live := (tables _ _).mpr (kind_of_tcp (get_tcp_eq_ok.mp hg))
    have hget := same.get_tcp live handle rfl
    simp only [hget, hg, bind, Except.bind]
    split_ifs at ok ⊢
    · cases ok
      exact ⟨_, rfl, same.register .recv _⟩
    · cases hr : S.tcp.remote_endpoint c with
      | none => simp only [hr] at ok; cases ok
      | some remote =>
        cases hl : S.tcp.local_endpoint c with
        | none => simp only [hr, hl] at ok; cases ok
        | some local_ =>
          simp only [hr, hl] at ok ⊢
          cases ok
          exact ⟨_, rfl, ⟨same.found, same.item, same.answers, same.memory, same.connected⟩,
            same.events, (Channel.connected_send _ _).trans (same.tcp_acceptor.trans
              (Channel.connected_send _ _).symm), same.udp_acceptor,
            filter_send same.tcp_acceptor same.tcp_infos _, same.udp_infos⟩
  | udp handle =>
    obtain ⟨c, hg, ok⟩ := except_bind_eq_ok.mp ok
    have live := (tables _ _).mpr (kind_of_udp (get_udp_eq_ok.mp hg))
    have hget := same.get_udp live handle rfl
    simp only [hget, hg, bind, Except.bind]
    cases hb : (S.udp.endpoint c).addr with
    | none => simp only [hb] at ok; cases ok
    | some ip =>
      simp only [hb] at ok ⊢
      cases ok
      exact ⟨_, rfl, ⟨same.found, same.item, same.answers, same.memory, same.connected⟩,
        same.events, same.tcp_acceptor, (Channel.connected_send _ _).trans
          (same.udp_acceptor.trans (Channel.connected_send _ _).symm), same.tcp_infos,
        filter_send same.udp_acceptor same.udp_infos _⟩

end Own

/-! ## Events of others -/

/-- The result channel and the buffer of an event are among those of the handle exactly when the
event is the handle's. -/
structure Separate (k : Protocol × ℕ) (T : Set ResultTx) (B : Set BufferId)
    (e : OperationEvent) : Prop where
  result_tx : ∀ tx, e.result_tx = some tx → (tx ∈ T ↔ e.handle.key = k)
  buffer : ∀ b, e.buffer = some b → (b ∈ B ↔ e.handle.key = k)

/-- The tables agree, the wakers are in place, and their requests are separate from the handle's. -/
structure Settled (k : Protocol × ℕ) (T : Set ResultTx) (B : Set BufferId)
    (t : TcpStack S) : Prop where
  tables : t.Tables
  placed : t.Placed
  separate : ∀ i side e, t.waker i side = some e → Separate k T B e

/-- A waker that is there after an event was handled was there before, or is that of the event. -/
theorem Outcome.waker {t t' : TcpStack S} {e e₀ : OperationEvent} (outcome : Outcome t e t')
    {i : ℕ} {side : Side} (h : t'.waker i side = some e₀) :
    t.waker i side = some e₀ ∨ e₀ = e := by
  have register : ∀ {u : TcpStack S} {j : ℕ} {side' : Side},
      (u.register j side' e).waker i side = some e₀ → u.waker i side = some e₀ ∨ e₀ = e := by
    intro u j side' hw
    rw [waker_register] at hw
    split_ifs at hw
    · exact .inr (Option.some.inj hw).symm
    · exact .inl hw
  cases outcome with
  | answered tx a result_tx refuses eq => subst eq; exact .inl h
  | served tx a s s' memory result_tx found socket serves eq =>
    subst eq
    exact .inl ((waker_put t e.index i s' side).symm.trans h)
  | parked side' park eq =>
    subst eq
    exact register h
  | shutdown handle tx c event found socket eq =>
    rw [eq] at h
    have hw := (wakes_close_tcp _ handle.index c).waker_of_some h
    rw [waker_put] at hw
    exact register hw
  | closing handle c event found socket active eq =>
    rw [eq] at h
    refine (register h).imp (fun hw => ?_) id
    have hw := (wakes_close_tcp t handle.index c).waker_of_some hw
    rwa [waker_put] at hw
  | removed h' s s' accepted u event found socket closes hwakes others woken eq =>
    have hu : u.waker i side = some e₀ := by
      rw [eq] at h
      simp only [TcpStack.waker, Arena.val_remove] at h ⊢
      split_ifs at h
      · cases h
      · exact h
    have hw := hwakes.waker_of_some hu
    rw [waker_put] at hw
    exact .inl hw
  | delivered_tcp handle c remote local_ event socket may_recv remote_eq local_eq eq =>
    subst eq; exact .inl h
  | delivered_udp handle u ip event socket bound eq => subst eq; exact .inl h
  | ignored h' event gone eq => subst eq; exact .inl h

/-- Handling any event that keeps to its channels and buffers leaves the stack settled. -/
theorem Settled.handle {t t' : TcpStack S} {e : OperationEvent} (settled : Settled k T B t)
    (separate : Separate k T B e) (ok : t.handle e = .ok t') : Settled k T B t' where
  tables := tables_handle settled.tables ok
  placed := (handle_outcome ok).placed settled.tables settled.placed
  separate i side e₀ h := by
    rcases (handle_outcome ok).waker h with hw | rfl
    · exact settled.separate i side e₀ hw
    · exact separate

/-- An event whose handle is not in the table changes no socket, unless it is a Ready. -/
theorem Outcome.socket_set_of_not_contains {t t' : TcpStack S} {e : OperationEvent}
    (outcome : Outcome t e t') (tables : t.Tables) (gone : t.contains e.handle = false) :
    t'.socket_set = t.socket_set := by
  cases outcome with
  | answered tx a result_tx refuses eq => subst eq; rfl
  | served tx a s s' memory result_tx found => cases found.symm.trans gone
  | parked side park => cases (park.found tables).symm.trans gone
  | shutdown handle tx c event found => subst event; cases found.symm.trans gone
  | closing handle c event found => subst event; cases found.symm.trans gone
  | removed h s s' accepted u event found => subst event; cases found.symm.trans gone
  | delivered_tcp handle c remote local_ event socket may_recv remote_eq local_eq eq =>
    subst eq; rfl
  | delivered_udp handle u ip event socket bound eq => subst eq; rfl
  | ignored h event _ eq => subst eq; rfl

/-- A handler changes no buffer but that of its event. -/
theorem Outcome.memory_of_ne {t t' : TcpStack S} {e : OperationEvent} (outcome : Outcome t e t')
    {b : BufferId} (hb : e.buffer ≠ some b) : t'.memory b = t.memory b := by
  have filled : ∀ {α : Type} {data : α → Bytes} {res : Except SocketError α} {b' : BufferId},
      b ≠ b' → t.filled b' data res b = t.memory b := by
    intro α data res b' hne
    cases res with
    | error err => rfl
    | ok a => exact Function.update_of_ne hne _ _
  cases outcome with
  | served tx a s s' memory result_tx found socket serves eq =>
    subst eq
    cases serves with
    | write can_send => rfl
    | read queued => exact filled fun h => hb (by rw [h]; rfl)
    | send can_send => rfl
    | recv can_recv => exact filled fun h => hb (by rw [h]; rfl)
  | shutdown handle tx c event found socket eq =>
    subst eq
    exact congrFun (wakes_close_tcp (t.register handle.index .send e) handle.index c).memory b
  | closing handle c event found socket active eq =>
    subst eq
    exact congrFun (wakes_close_tcp t handle.index c).memory b
  | removed h s s' accepted u event found socket closes wakes others woken eq =>
    subst eq
    exact congrFun wakes.memory b
  | answered tx a result_tx refuses eq => subst eq; rfl
  | parked side park eq => subst eq; rfl
  | delivered_tcp handle c remote local_ event socket may_recv remote_eq local_eq eq =>
    subst eq; rfl
  | delivered_udp handle u ip event socket bound eq => subst eq; rfl
  | ignored h event gone eq => subst eq; rfl

/-- What handling `e` puts into channels is for `e` itself, or comes from wakers at its socket when
its handle is in the table. -/
structure Speaks (t : TcpStack S) (e : OperationEvent) (t' : TcpStack S) : Prop where
  answers : ∃ new, t'.answers = t.answers ++ new ∧ ∀ a ∈ new, e.result_tx = some a.1 ∨
    t.contains e.handle = true ∧ ∃ side e₀, t.waker e.index side = some e₀ ∧
      e₀.result_tx = some a.1
  resent : ∃ new, t'.operation_event = t.operation_event.extend new ∧ ∀ e₀ ∈ new, e₀ = e ∨
    t.contains e.handle = true ∧ ∃ side, t.waker e.index side = some e₀

/-- The request is answered, or nothing is said. -/
theorem Speaks.own {t t' : TcpStack S} {e : OperationEvent} (new : List (ResultTx × Answer))
    (answers : t'.answers = t.answers ++ new) (own : ∀ a ∈ new, e.result_tx = some a.1)
    (channel : t'.operation_event = t.operation_event) : Speaks t e t' where
  answers := ⟨new, answers, fun a ha => .inl (own a ha)⟩
  resent := ⟨[], channel.trans (Channel.extend_nil _).symm, by simp⟩

/-- Wakers run, one of which may be that of the event. -/
theorem Speaks.of_woken {t u t' : TcpStack S} {e : OperationEvent} (woken : WokenAt u e.index t')
    (answers : u.answers = t.answers) (channel : u.operation_event = t.operation_event)
    (found : t.contains e.handle = true)
    (waker : ∀ side e₀, u.waker e.index side = some e₀ →
      t.waker e.index side = some e₀ ∨ e₀ = e) : Speaks t e t' where
  answers := by
    obtain ⟨new, hn, hfrom⟩ := woken.answers
    refine ⟨new, answers ▸ hn, fun a ha => ?_⟩
    obtain ⟨side, e₀, hw, htx⟩ := hfrom a ha
    rcases waker side e₀ hw with hw | rfl
    · exact .inr ⟨found, side, e₀, hw, htx⟩
    · exact .inl htx
  resent := by
    obtain ⟨new, hn, hfrom⟩ := woken.resent
    refine ⟨new, channel ▸ hn, fun e₀ he => ?_⟩
    obtain ⟨side, hw⟩ := hfrom e₀ he
    exact (waker side e₀ hw).symm.imp_right fun hw => ⟨found, side, hw⟩

/-- An event is heard of only through its own channels and buffers and those that it wakes. -/
theorem Outcome.speaks {t t' : TcpStack S} {e : OperationEvent} (outcome : Outcome t e t') :
    Speaks t e t' := by
  cases outcome with
  | answered tx a result_tx refuses eq =>
    subst eq
    exact .own [(tx, a)] rfl (fun a' ha => by rw [List.mem_singleton.mp ha, result_tx]) rfl
  | served tx a s s' memory result_tx found socket serves eq =>
    subst eq
    exact .own [(tx, a)] rfl (fun a' ha => by rw [List.mem_singleton.mp ha, result_tx]) rfl
  | shutdown handle tx c event found socket eq =>
    subst eq event
    have woken := woken_close_tcp (t.register handle.index .send (.shutdown (.tcp handle) tx))
      handle.index c
    refine .of_woken (e := .shutdown (.tcp handle) tx) woken rfl rfl found fun side e₀ hw => ?_
    -- The waker of the send side is that of the Shutdown.
    rw [waker_register] at hw
    split_ifs at hw
    · exact .inr (Option.some.inj hw).symm
    · exact .inl hw
  | closing handle c event found socket active eq =>
    subst eq event
    have woken := woken_close_tcp t handle.index c
    exact .of_woken (e := .close (.tcp handle)) ⟨woken.answers, woken.resent⟩ rfl rfl found
      fun side e₀ hw => .inl hw
  | removed h s s' accepted u event found socket closes wakes others woken eq =>
    subst eq event
    exact .of_woken (e := .close h) ⟨woken.answers, woken.resent⟩ rfl rfl found
      fun side e₀ hw => .inl hw
  | parked side park eq => subst eq; exact .own [] (List.append_nil _).symm (by simp) rfl
  | delivered_tcp handle c remote local_ event socket may_recv remote_eq local_eq eq =>
    subst eq; exact .own [] (List.append_nil _).symm (by simp) rfl
  | delivered_udp handle u ip event socket bound eq =>
    subst eq; exact .own [] (List.append_nil _).symm (by simp) rfl
  | ignored h event gone eq =>
    subst eq; exact .own [] (List.append_nil _).symm (by simp) rfl

/-- What is about the handle in the acceptors' channels comes from the Ready of the handle. -/
theorem Outcome.infos_of_ne {t t' : TcpStack S} {e : OperationEvent} (outcome : Outcome t e t')
    (other : e.handle.key ≠ k) :
    ((t'.tcp_stream.sent.filter fun info => (TypedSocketHandle.tcp info.handle).key = k) =
      t.tcp_stream.sent.filter fun info => (TypedSocketHandle.tcp info.handle).key = k) ∧
    (t'.udp_stream.sent.filter fun info => (TypedSocketHandle.udp info.handle).key = k) =
      t.udp_stream.sent.filter fun info => (TypedSocketHandle.udp info.handle).key = k := by
  have send : ∀ {α : Type} (ch : Channel α) (p : α → Bool) (v : α), p v = false →
      (ch.send v).sent.filter p = ch.sent.filter p := by
    intro α ch p v hv
    rw [Channel.send_eq_extend]
    cases ch.connected <;> simp [Channel.extend, hv]
  cases outcome.summary with
  | kept same pending tcp_stream udp_stream => rw [tcp_stream, udp_stream]; exact ⟨rfl, rfl⟩
  | removed h event removes pending =>
    rw [removes.tcp_stream, removes.udp_stream]
    exact ⟨rfl, rfl⟩
  | delivered_tcp handle remote local_ event same pending tcp_stream udp_stream =>
    subst event
    rw [tcp_stream, udp_stream]
    exact ⟨send _ _ _ (decide_eq_false other), rfl⟩
  | delivered_udp handle addr event same pending tcp_stream udp_stream =>
    subst event
    rw [tcp_stream, udp_stream]
    exact ⟨rfl, send _ _ _ (decide_eq_false other)⟩

/-- The acceptors are not dropped by a handler. -/
theorem Outcome.acceptors {t t' : TcpStack S} {e : OperationEvent} (outcome : Outcome t e t') :
    t'.tcp_stream.connected = t.tcp_stream.connected ∧
      t'.udp_stream.connected = t.udp_stream.connected := by
  cases outcome.summary with
  | kept same pending tcp_stream udp_stream => rw [tcp_stream, udp_stream]; exact ⟨rfl, rfl⟩
  | removed h event removes pending =>
    rw [removes.tcp_stream, removes.udp_stream]
    exact ⟨rfl, rfl⟩
  | delivered_tcp handle remote local_ event same pending tcp_stream udp_stream =>
    rw [tcp_stream, udp_stream]
    exact ⟨Channel.connected_send _ _, rfl⟩
  | delivered_udp handle addr event same pending tcp_stream udp_stream =>
    rw [tcp_stream, udp_stream]
    exact ⟨rfl, Channel.connected_send _ _⟩

/-- In a slot that holds a socket of the handle, the table has no other handle. -/
theorem Tables.unique {t : TcpStack S} (tables : t.Tables) {p p' : Protocol} {i : ℕ}
    (h : (p, i) ∈ t.socket_handles) (h' : (p', i) ∈ t.socket_handles) : p = p' := by
  rw [tables] at h h'
  exact Option.some.inj (h.symm.trans h')

/-- Handling an event of another handle is not seen. -/
theorem Settled.frame {t t' : TcpStack S} {e : OperationEvent} (settled : Settled k T B t)
    (separate : Separate k T B e) (other : e.handle.key ≠ k) (ok : t.handle e = .ok t') :
    SameTraffic k T B t t' := by
  have outcome := handle_outcome ok
  -- In the slot of the handle, an event of the other protocol finds nothing.
  have gone : k ∈ t.socket_handles → e.index = k.2 → t.contains e.handle = false := by
    intro live hi
    rw [TcpStack.contains, decide_eq_false_iff_not]
    intro hm
    have hk : e.handle.key = (e.handle.protocol, k.2) := Prod.ext rfl hi
    rw [hk] at hm other
    exact other (Prod.ext (settled.tables.unique hm live) rfl)
  -- So the wakers at its socket, if the event finds it, are not those of the handle.
  have woken : t.contains e.handle = true → ∀ side e₀, t.waker e.index side = some e₀ →
      e₀.handle.key ≠ k := by
    intro found side e₀ hw hk
    obtain ⟨hindex, -, hfound⟩ := settled.placed _ _ _ hw
    have hi : e.index = k.2 := hindex.symm.trans (congrArg Prod.snd hk)
    have live : k ∈ t.socket_handles := by
      rw [← hk]
      exact of_decide_eq_true hfound
    cases found.symm.trans (gone live hi)
  obtain ⟨tcp_acceptor, udp_acceptor⟩ := outcome.acceptors
  obtain ⟨tcp_infos, udp_infos⟩ := outcome.infos_of_ne other
  refine ⟨⟨?_, fun live => ?_, fun tx htx => ?_, fun b hb => ?_, outcome.connected⟩, ?_,
    tcp_acceptor, udp_acceptor, tcp_infos, udp_infos⟩
  · rcases outcome.tables with same | ⟨h, rfl, removes⟩
    · rw [same.socket_handles]
    · rw [removes.socket_handles, Finset.mem_erase]
      exact and_iff_right fun hk => other hk.symm
  · by_cases hi : e.index = k.2
    · rw [outcome.socket_set_of_not_contains settled.tables (gone live hi)]
    · exact outcome.val_of_ne fun h => hi h.symm
  · obtain ⟨new, hn, hfrom⟩ := outcome.speaks.answers
    have hnone : (new.filter fun a => a.1 = tx) = [] := by
      refine List.filter_eq_nil_iff.mpr fun a ha => ?_
      rw [decide_eq_true_eq]
      rintro rfl
      rcases hfrom a ha with htx' | ⟨found, side, e₀, hw, htx'⟩
      · exact other ((separate.result_tx _ htx').mp htx)
      · exact woken found side e₀ hw (((settled.separate _ _ _ hw).result_tx _ htx').mp htx)
    rw [hn, List.filter_append, hnone, List.append_nil]
  · exact outcome.memory_of_ne fun h => other ((separate.buffer b h).mp hb)
  · obtain ⟨new, hn, hfrom⟩ := outcome.speaks.resent
    have hnone : new.filter (is_own k) = [] := by
      refine List.filter_eq_nil_iff.mpr fun e₀ he => ?_
      rw [is_own, decide_eq_true_eq]
      rcases hfrom e₀ he with rfl | ⟨found, side, hw⟩
      · exact other
      · exact woken found side e₀ hw
    rw [hn, Channel.extend, List.filter_append, hnone, List.append_nil]

/-- Handling an event of the handle is determined by what is seen. -/
theorem Settled.own {t t' u : TcpStack S} {e : OperationEvent} (settled : Settled k T B t)
    (separate : Separate k T B e) (own : e.handle.key = k) (ok : t.handle e = .ok t')
    (same : SameTraffic k T B t u) : ∃ u', u.handle e = .ok u' ∧ SameTraffic k T B t' u' := by
  subst own
  cases e with
  | ready h => exact same.ready settled.tables ok
  | read handle b tx => exact same.read ((separate.buffer b rfl).mpr rfl) ok
  | write handle b tx => exact same.write ((separate.buffer b rfl).mpr rfl) ok
  | recv handle b tx => exact same.recv ((separate.buffer b rfl).mpr rfl) ok
  | send handle src b tx => exact same.send ((separate.buffer b rfl).mpr rfl) ok
  | shutdown h tx => exact same.shutdown ok
  | close h => exact same.close ok

/-- What is seen through a handle is determined by its own events. -/
theorem projects (k : Protocol × ℕ) (T : Set ResultTx) (B : Set BufferId) :
    Projects (σ := TcpStack S) TcpStack.handle
      (fun t u => Settled k T B t ∧ Settled k T B u ∧ SameTraffic k T B t u) (is_own k)
      (Separate k T B) where
  frame := by
    rintro e t t' u separate other ok ⟨ht, hu, same⟩
    have frame := ht.frame separate (of_decide_eq_false other) ok
    exact ⟨ht.handle separate ok, hu, frame.symm.trans same⟩
  own := by
    rintro e t t' u separate own ok ⟨ht, hu, same⟩
    obtain ⟨u', hok, same'⟩ := ht.own separate (of_decide_eq_true own) ok same
    exact ⟨u', hok, ht.handle separate ok, hu.handle separate hok, same'⟩

end TcpStack

end L3Extract
