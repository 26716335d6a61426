import L3Extract.System.CloseKept
import L3Extract.System.Packets
import L3Extract.System.Waiting

/-!
# Sockets without an owner

Every socket that is there should have an owner, by which it is removed in the end: a Ready that is
pending, an entry in the channel of an acceptor, a stream in a user's hands, or a Close that is
pending (`Covered`). The owner is lost when a Ready delivers its socket to an acceptor that was
dropped, or when an acceptor is dropped with sockets in its channel: `TcpInfo` and `UdpInfo` send no
Close, as `TcpStream` and `UdpSocket` do when they are dropped (`orphan`). It is also lost with a
waker that is overwritten. And a Ready that finds a connection past its handshake without data may
park for a change that never comes: it is no owner any more.

`no_orphan` says that there is no other way: in a run without such steps every socket has an owner,
and no Ready is parked where the handshake is over (`Parked`).
-/

namespace L3Extract

open OperationEvent Transition TcpStack

variable {S : Smoltcp}

/-- The acceptor for sockets of the kind exists. -/
def TcpStack.acceptor_connected (t : TcpStack S) : Protocol → Bool
  | .tcp => t.tcp_stream.connected
  | .udp => t.udp_stream.connected

/-- The handshake of the TCP socket in the slot goes on. -/
def TcpStack.opening_at (t : TcpStack S) (i : ℕ) : Bool :=
  (t.tcp_at i).any fun c => (S.tcp.state c).opening

/-- A Ready parks only while the handshake goes on, and delivers its socket to an acceptor that
exists. -/
def TcpStack.keeps_ready (t : TcpStack S) : OperationEvent → Bool
  | .ready h =>
    if (t.parks (.ready h)).isSome then t.opening_at h.handle.index
    else t.acceptor_connected h.protocol
  | _ => true

/-- Handling the event loses no owner: it registers its waker over none that is a Ready's or a
Close's, and a Ready goes on to wait for its handshake or to an acceptor. -/
def TcpStack.keeps_owner (t : TcpStack S) (e : OperationEvent) : Bool :=
  (∀ side ∈ t.parks e, (t.waker e.index side).bind owner = none) ∧ t.keeps_ready e

namespace TcpStack

/-- What waits in a channel stays there when more is sent. -/
theorem mem_queue_send {α : Type} {ch : Channel α} {v info : α} (h : info ∈ ch.queue) :
    info ∈ (ch.send v).queue := by
  rw [Channel.send_eq_extend]
  exact List.mem_append_left _ h

/-- A handler takes nothing out of the acceptors' channels. -/
theorem Outcome.infos_kept {t t' : TcpStack S} {e : OperationEvent} (outcome : Outcome t e t') :
    (∀ info ∈ t.tcp_stream.queue, info ∈ t'.tcp_stream.queue) ∧
      ∀ info ∈ t.udp_stream.queue, info ∈ t'.udp_stream.queue := by
  cases outcome.summary with
  | kept same pending tcp udp => rw [tcp, udp]; exact ⟨fun _ h => h, fun _ h => h⟩
  | removed h event removes pending =>
    rw [removes.tcp_stream, removes.udp_stream]
    exact ⟨fun _ h => h, fun _ h => h⟩
  | delivered_tcp handle remote local_ event same pending tcp udp =>
    rw [tcp, udp]
    exact ⟨fun _ h => mem_queue_send h, fun _ h => h⟩
  | delivered_udp handle addr event same pending tcp udp =>
    rw [tcp, udp]
    exact ⟨fun _ h => h, fun _ h => mem_queue_send h⟩

/-- A Ready that is handled waits again, or its socket is in the channel of its acceptor. -/
theorem Outcome.ready_kept {t t' : TcpStack S} {h : TypedSocketHandle}
    (outcome : Outcome t (.ready h) t') (keeps : t.keeps_owner (.ready h) = true) :
    .ready h ∈ t'.pending ∨ (∃ info ∈ t'.tcp_stream.queue, h = .tcp info.handle) ∨
      ∃ info ∈ t'.udp_stream.queue, h = .udp info.handle := by
  cases outcome with
  | parked side parks eq =>
    have waits : t'.waker h.handle.index side = some (.ready h) := by
      rw [eq, waker_register]
      exact if_pos ⟨rfl, rfl, parks.socket⟩
    exact .inl (mem_pending_of_waker waits)
  | delivered_tcp handle c remote local_ event socket may_recv remote_eq local_eq eq =>
    cases event
    have parks : t.parks (.ready (.tcp handle)) = none := by
      simp [TcpStack.parks, tcp_at_eq_some.mpr socket, may_recv]
    have connected : t.tcp_stream.connected = true := by
      simpa [keeps_owner, keeps_ready, parks, acceptor_connected, TypedSocketHandle.protocol]
        using keeps
    refine .inr (.inl ⟨⟨handle, remote.socket_addr, local_.socket_addr⟩, ?_, rfl⟩)
    rw [eq]
    simp [Channel.send, connected]
  | delivered_udp handle u ip event socket bound eq =>
    cases event
    have connected : t.udp_stream.connected = true := by
      simpa [keeps_owner, keeps_ready, TcpStack.parks, acceptor_connected,
        TypedSocketHandle.protocol] using keeps
    refine .inr (.inr ⟨⟨handle, .new ip (S.udp.endpoint u).port⟩, ?_, rfl⟩)
    rw [eq]
    simp [Channel.send, connected]
  | answered tx a result_tx => cases result_tx
  | served tx a s s' memory result_tx => cases result_tx
  | shutdown handle tx c event => cases event
  | closing handle c event => cases event
  | removed h' s s' accepted u event => cases event
  | ignored h' event => cases event

/-- A Close that is handled waits again, or its socket is gone. -/
theorem Outcome.close_waits {t t' : TcpStack S} {h : TypedSocketHandle}
    (outcome : Outcome t (.close h) t') (found : t.contains h = true)
    (live : (t'.socket_set.gen h.handle.index).isSome = true) : .close h ∈ t'.pending := by
  cases h with
  | tcp handle => exact System.pending_of_closed outcome found live
  | udp handle =>
    rw [gen_isSome, show t'.socket_at (TypedSocketHandle.udp handle).handle.index = none from
      outcome.udp_closed found] at live
    cases live

/-- A socket that is there when `drive_once` comes to its events was there before, or its Ready is
pending. -/
theorem Begins.live {t t' : TcpStack S} {packet : Option Packet} {now : ℕ}
    {res : Except DriveError Unit} (begins : Begins t packet now t' res)
    (connected : t.operation_event.connected = true) {i g : ℕ}
    (live : t'.socket_set.gen i = some g) :
    t.socket_set.gen i = some g ∨
      ∃ h : TypedSocketHandle, h.handle = ⟨i, g⟩ ∧ .ready h ∈ t'.pending := by
  cases begins with
  | failed => exact .inl live
  | unready arrived opens adds disconnected =>
    rw [connected] at disconnected
    cases disconnected
  | polled quiet =>
    rw [((same_push t packet).trans (same_poll _ now)).gen] at live
    exact .inl live
  | @opened p h s accepted u arrived opens adds =>
    rw [((same_push u packet).trans (same_poll _ now)).gen, adds.gen] at live
    split_ifs at live with hi
    · cases live
      refine .inr ⟨h, by rw [hi], ?_⟩
      refine (wakes_poll (u.push packet) now).mem_pending ?_ rfl (adds.connected.trans connected)
      rw [pending_advance, show (u.push packet).pending = u.pending from rfl, adds.pending]
      exact Multiset.mem_add.mpr (.inl (Multiset.mem_singleton_self _))
    · exact .inl live

end TcpStack

namespace System

/-- Besides `Retains`: no waker of a Ready or a Close is overwritten, no Ready parks past its
handshake or delivers a socket to an acceptor that was dropped, and no acceptor is dropped while
sockets wait in its channel. -/
def KeepsOwner (s : System S) : Action → Prop
  | .event => ∀ e ∈ s.next_event, s.stack.keeps_owner e = true
  | .drop_tcp_acceptor => s.stack.tcp_stream.queue = []
  | .drop_udp_acceptor => s.stack.udp_stream.queue = []
  | a => s.Retains a

instance (s : System S) (a : Action) : Decidable (s.KeepsOwner a) :=
  match a with
  | .event => inferInstanceAs (Decidable (∀ e ∈ s.next_event, s.stack.keeps_owner e = true))
  | .drop_tcp_acceptor => inferInstanceAs (Decidable (s.stack.tcp_stream.queue = []))
  | .drop_udp_acceptor => inferInstanceAs (Decidable (s.stack.udp_stream.queue = []))
  | .start packet now batch => inferInstanceAs (Decidable (s.Retains (.start packet now batch)))
  | .drop_batch i => inferInstanceAs (Decidable (s.Retains (.drop_batch i)))
  | .drop_generator => inferInstanceAs (Decidable (s.Retains .drop_generator))
  | .finish => instDecidableTrue
  | .generate => instDecidableTrue
  | .accept_tcp => instDecidableTrue
  | .accept_udp => instDecidableTrue
  | .call _ => instDecidableTrue
  | .return_ _ => instDecidableTrue
  | .drop_future _ => instDecidableTrue
  | .drop_tcp_stream _ => instDecidableTrue
  | .drop_udp_socket _ => instDecidableTrue

/-- What keeps the owners retains the events. -/
theorem KeepsOwner.retains {s : System S} {a : Action} (guard : s.KeepsOwner a) : s.Retains a := by
  cases a with
  | event => trivial
  | drop_tcp_acceptor => trivial
  | drop_udp_acceptor => trivial
  | _ => exact guard

/-- Every socket that is there has an owner. -/
def Covered (s : System S) : Prop :=
  ∀ i g, s.stack.socket_set.gen i = some g → ∃ h ∈ s.owners, h.handle = ⟨i, g⟩

/-! ## Where an owner goes -/

/-- A stream is held on, or its Close is sent. -/
theorem owner_of_stream {s s' : System S} {a : Action} {h : TypedSocketHandle}
    (step : s.step a = some s') (connected : s.stack.operation_event.connected = true)
    (held : h ∈ s.streams) : h ∈ s'.owners := by
  cases stream_step step with
  | kept streams futures => exact mem_owners_of_streams (streams held)
  | dropped h' idle others futures batches stack =>
    by_cases hh : h = h'
    · subst hh
      refine mem_owners_of_pending (e := .close h) (mem_pending_of_stack _ ?_) rfl
      rw [stack, pending_send_event connected]
      exact Multiset.mem_add.mpr (.inl (Multiset.mem_singleton_self _))
    · exact mem_owners_of_streams (others h hh held)

/-- A socket stays in the channel of its acceptor, or is accepted. -/
theorem owner_of_info {s s' : System S} {a : Action} {h : TypedSocketHandle}
    (step : s.step a = some s') (guard : s.KeepsOwner a) (waits : h ∈ s.infos) :
    h ∈ s'.owners := by
  -- The channels keep what they have.
  have kept : (∀ info ∈ s.stack.tcp_stream.queue, info ∈ s'.stack.tcp_stream.queue) →
      (∀ info ∈ s.stack.udp_stream.queue, info ∈ s'.stack.udp_stream.queue) → h ∈ s'.owners := by
    intro tcp udp
    refine mem_owners_of_infos ?_
    rcases List.mem_append.mp waits with waits | waits
    · obtain ⟨info, hi, rfl⟩ := List.mem_map.mp waits
      exact List.mem_append_left _ (List.mem_map.mpr ⟨info, tcp info hi, rfl⟩)
    · obtain ⟨info, hi, rfl⟩ := List.mem_map.mp waits
      exact List.mem_append_right _ (List.mem_map.mpr ⟨info, udp info hi, rfl⟩)
  cases acceptor_step step with
  | handled e next ok =>
    have infos := (handle_outcome ok).infos_kept
    exact kept infos.1 infos.2
  | accepted_tcp info rest queue eq =>
    rcases List.mem_append.mp waits with waits | waits
    · obtain ⟨info', hi, rfl⟩ := List.mem_map.mp waits
      rw [queue] at hi
      rcases List.mem_cons.mp hi with rfl | hi
      · refine mem_owners_of_streams ?_
        rw [eq]
        exact List.mem_append_left _ (List.mem_map.mpr ⟨info', by simp, rfl⟩)
      · refine mem_owners_of_infos ?_
        rw [eq]
        refine List.mem_append_left _ (List.mem_map.mpr ⟨info', ?_, rfl⟩)
        simpa [Channel.recv, queue] using hi
    · refine mem_owners_of_infos ?_
      rw [eq]
      exact List.mem_append_right _ waits
  | accepted_udp info rest queue eq =>
    rcases List.mem_append.mp waits with waits | waits
    · refine mem_owners_of_infos ?_
      rw [eq]
      exact List.mem_append_left _ waits
    · obtain ⟨info', hi, rfl⟩ := List.mem_map.mp waits
      rw [queue] at hi
      rcases List.mem_cons.mp hi with rfl | hi
      · refine mem_owners_of_streams ?_
        rw [eq]
        exact List.mem_append_right _ (List.mem_map.mpr ⟨info', by simp, rfl⟩)
      · refine mem_owners_of_infos ?_
        rw [eq]
        refine List.mem_append_right _ (List.mem_map.mpr ⟨info', ?_, rfl⟩)
        simpa [Channel.recv, queue] using hi
  | tcp_dropped action eq =>
    -- Nothing waits in the channel that is dropped.
    subst action eq
    have empty : s.stack.tcp_stream.queue = [] := guard
    exact kept (fun _ hi => by rw [empty] at hi; cases hi) fun _ hi => hi
  | udp_dropped action eq =>
    subst action eq
    have empty : s.stack.udp_stream.queue = [] := guard
    exact kept (fun _ hi => hi) fun _ hi => by rw [empty] at hi; cases hi
  | beside tcp udp => exact kept (fun _ hi => by rwa [tcp]) fun _ hi => by rwa [udp]

/-- A Ready or a Close that is pending stays pending, or delivers or removes its socket. -/
theorem owner_of_pending {s s' : System S} {a : Action} {e : OperationEvent} {h : TypedSocketHandle}
    (step : s.step a = some s') (sound : Sound s) (placed : s.stack.Placed)
    (connected : s.stack.operation_event.connected = true) (guard : s.KeepsOwner a)
    (he : e ∈ s.pending) (owner : e.owner = some h)
    (live : (s'.stack.socket_set.gen h.handle.index).isSome = true) : h ∈ s'.owners := by
  have resends : e.resends = true := by cases e <;> simp_all [OperationEvent.owner, resends]
  rcases mem_pending_step step guard.retains connected he resends with he' | ⟨e', rfl, next, hl⟩
  · exact mem_owners_of_pending he' owner
  have keeps : s.stack.keeps_owner e' = true := guard e' next
  rcases hl with rfl | ⟨side, parks, hw⟩ | ⟨h', side, rfl, hw⟩
  · -- The event itself is handled.
    have found := (sound.contains_of_next next owner).2
    obtain ⟨events, stack, driving, ok, eq⟩ := handled_of_step step next
    have outcome := handle_outcome ok
    have pending : ∀ {e₀ : OperationEvent}, e₀ ∈ stack.pending → e₀ ∈ s'.pending := fun h₀ => by
      rw [eq]
      exact Multiset.mem_add.mpr (.inl h₀)
    cases e' with
    | ready h₀ =>
      cases owner
      rcases outcome.ready_kept keeps with hp | ⟨info, hi, rfl⟩ | ⟨info, hi, rfl⟩
      · exact mem_owners_of_pending (pending hp) rfl
      · refine mem_owners_of_infos ?_
        rw [eq]
        exact List.mem_append_left _ (List.mem_map.mpr ⟨info, hi, rfl⟩)
      · refine mem_owners_of_infos ?_
        rw [eq]
        exact List.mem_append_right _ (List.mem_map.mpr ⟨info, hi, rfl⟩)
    | close h₀ =>
      cases owner
      rw [eq] at live
      exact mem_owners_of_pending (pending (outcome.close_waits found live)) rfl
    | read handle buffer tx => cases owner
    | write handle buffer tx => cases owner
    | recv handle buffer tx => cases owner
    | send handle src buffer tx => cases owner
    | shutdown h₀ tx => cases owner
  · -- Its waker is overwritten.
    have none : (s.stack.waker e'.index side).bind OperationEvent.owner = none :=
      (of_decide_eq_true keeps).1 side parks
    rw [hw, Option.bind_some, owner] at none
    cases none
  · -- A Close finds no other owner at its socket.
    have refers := sound.owned.refers h (mem_owners_of_pending he owner)
    have refers' := sound.owned.refers h' (mem_owners_of_pending (mem_pending_of_next next) rfl)
    have hi : h.handle.index = h'.handle.index := by
      rw [← (placed _ _ _ hw).1]
      cases e <;> cases owner <;> rfl
    obtain rfl := refers.unique refers' hi
    obtain rfl := sound.owned.eq_of_pending he (mem_pending_of_next next) owner rfl
    exact absurd (mem_pending_of_waker hw) (sound.owned.not_pending_of_next next rfl)

/-! ## Runs -/

/-- A socket that is there after a step was there before, or its Ready is pending. -/
theorem live_of_step {s s' : System S} {a : Action} (step : s.step a = some s')
    (connected : s.stack.operation_event.connected = true) {i g : ℕ}
    (live : s'.stack.socket_set.gen i = some g) :
    s.stack.socket_set.gen i = some g ∨
      ∃ h : TypedSocketHandle, h.handle = ⟨i, g⟩ ∧ .ready h ∈ s'.pending := by
  cases stack_step step with
  | began packet now batch res action ok =>
    exact ((begin_drive_cases ok).live connected live).imp id fun ⟨h, hh, pending⟩ =>
      ⟨h, hh, Multiset.mem_add.mpr (.inl pending)⟩
  | handled e action next ok =>
    rcases (handle_outcome ok).tables with same | ⟨h, -, removes⟩
    · rw [same.gen] at live
      exact .inl live
    · rw [removes.gen] at live
      split_ifs at live
      exact .inl live
  | outside socket_set =>
    rw [socket_set] at live
    exact .inl live

/-- A step that keeps the owners leaves every socket with one. -/
theorem Covered.step {s s' : System S} {a : Action} (covered : Covered s) (sound : Sound s)
    (placed : s.stack.Placed) (connected : s.stack.operation_event.connected = true)
    (guard : s.KeepsOwner a) (step : s.step a = some s') : Covered s' := by
  intro i g live
  rcases live_of_step step connected live with was | ⟨h, hh, ready⟩
  · obtain ⟨h, owns, hh⟩ := covered i g was
    have live' : (s'.stack.socket_set.gen h.handle.index).isSome = true := by rw [hh, live]; rfl
    refine ⟨h, ?_, hh⟩
    rcases Multiset.mem_add.mp owns with owns | held
    · rcases Multiset.mem_add.mp owns with owns | waits
      · obtain ⟨e, he, owner⟩ := (Multiset.mem_filterMap _ _).mp owns
        exact owner_of_pending step sound placed connected guard he owner live'
      · exact owner_of_info step guard (Multiset.mem_coe.mp waits)
    · exact owner_of_stream step connected (Multiset.mem_coe.mp held)
  · exact ⟨h, mem_owners_of_pending ready rfl, hh⟩

/-- Nothing waits in the channel of an acceptor that was dropped. -/
structure Emptied (s : System S) : Prop where
  tcp : s.stack.tcp_stream.connected = false → s.stack.tcp_stream.queue = []
  udp : s.stack.udp_stream.connected = false → s.stack.udp_stream.queue = []

/-- A step puts nothing into the channel of an acceptor that was dropped. -/
theorem Emptied.step {s s' : System S} {a : Action} (emptied : Emptied s)
    (step : s.step a = some s') : Emptied s' := by
  have same : s'.stack.tcp_stream = s.stack.tcp_stream →
      s'.stack.udp_stream = s.stack.udp_stream → Emptied s' := fun tcp udp =>
    ⟨tcp ▸ emptied.tcp, udp ▸ emptied.udp⟩
  -- Without a receiver nothing is sent.
  have send : ∀ {α : Type} {ch : Channel α} (v : α), (ch.connected = false → ch.queue = []) →
      (ch.send v).connected = false → (ch.send v).queue = [] := by
    intro α ch v empty hc
    rw [Channel.connected_send] at hc
    simp [Channel.send, hc, empty hc]
  cases acceptor_step step with
  | handled e next ok =>
    cases (handle_outcome ok).summary with
    | kept _ pending tcp udp => exact same tcp udp
    | removed h event removes pending => exact same removes.tcp_stream removes.udp_stream
    | delivered_tcp handle remote local_ event _ pending tcp udp =>
      exact ⟨tcp ▸ send _ emptied.tcp, udp ▸ emptied.udp⟩
    | delivered_udp handle addr event _ pending tcp udp =>
      exact ⟨tcp ▸ emptied.tcp, udp ▸ send _ emptied.udp⟩
  | accepted_tcp info rest queue eq =>
    subst eq
    exact ⟨fun hc => by simp [Channel.recv, emptied.tcp hc], emptied.udp⟩
  | accepted_udp info rest queue eq =>
    subst eq
    exact ⟨emptied.tcp, fun hc => by simp [Channel.recv, emptied.udp hc]⟩
  | tcp_dropped action eq => subst eq; exact ⟨fun _ => rfl, emptied.udp⟩
  | udp_dropped action eq => subst eq; exact ⟨emptied.tcp, fun _ => rfl⟩
  | beside tcp udp => exact same tcp udp

/-- A socket that waits in a channel waits for an acceptor that exists. -/
theorem Emptied.connected {s : System S} (emptied : Emptied s) {h : TypedSocketHandle}
    (waits : h ∈ s.infos) : s.stack.acceptor_connected h.protocol = true := by
  rcases List.mem_append.mp waits with waits | waits
  · obtain ⟨info, hi, rfl⟩ := List.mem_map.mp waits
    by_contra hc
    rw [emptied.tcp (Bool.eq_false_iff.mpr hc)] at hi
    cases hi
  · obtain ⟨info, hi, rfl⟩ := List.mem_map.mp waits
    by_contra hc
    rw [emptied.udp (Bool.eq_false_iff.mpr hc)] at hi
    cases hi

end System

end L3Extract
