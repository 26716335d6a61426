import L3Extract.Smoltcp.HopByHop
import L3Extract.Stack.Origins
import L3Extract.System.Ready

/-!
# The addresses of delivered sockets

A Ready does not carry the addresses that the acceptor gets: `handle_ready_wake_event` reads them
from the socket in the slot, when the handshake is long over. `Openings` records where they should
come from: what `parse_packet` returned for SYNs, which SYNs listeners took, and for which address
every socket was made.

`delivered_addresses` shows that the remote address is always the one that the socket was made for,
whatever happened to the slot and to the listener in between. The local address is the source of the
SYN that the listener took. `parse_packet` returned it as long as it reads the SYNs that listeners
take (`Recognized`). But a listener that is left over takes any SYN, and smoltcp reads packets that
`parse_packet` does not: with a hop-by-hop header in front of it, for one (`unparsed_address`).
-/

namespace L3Extract

open OperationEvent Transition TcpStack

variable {S : Smoltcp}

/-- What the packets of a run opened. -/
structure Openings where
  /-- What `parse_packet` returned for SYNs: source and destination. -/
  syns : List (SocketAddr × SocketAddr)
  /-- The addresses of the SYNs that listeners took. -/
  taken : List (SocketAddr × SocketAddr)
  /-- The sockets that were added, with the address that `init_tcp` listened on or `try_init_udp`
  bound them to. -/
  made : List (TypedSocketHandle × SocketAddr)

namespace Openings

/-- The record of a run that has not begun. -/
def empty : Openings := ⟨[], [], []⟩

/-- The record after one more step. -/
def note (r : Openings) (s : System S) : Action → System S → Openings
  | .start packet _ _, s' => {
      syns := r.syns ++ (packet.bind parsed_syn).toList
      -- After an error there is no poll.
      taken := r.taken ++ if s'.driving.isSome then s.stack.takes packet else []
      made := r.made ++ (s.stack.made packet).toList }
  | _, _ => r

end Openings

namespace System

/-- `parse_packet` returned the addresses of the SYN that a listener takes, for its packet or for an
earlier one. -/
def Recognized (p : System S × Openings) : Action → Prop
  | .start packet _ _ => p.1.stack.takes packet ⊆ p.2.syns ++ (packet.bind parsed_syn).toList
  | _ => True

instance (p : System S × Openings) (a : Action) : Decidable (Recognized p a) :=
  match a with
  | .start _ _ _ => List.instDecidableRelSubsetOfDecidableEq _ _
  | .event => instDecidableTrue
  | .finish => instDecidableTrue
  | .generate => instDecidableTrue
  | .drop_batch _ => instDecidableTrue
  | .drop_generator => instDecidableTrue
  | .accept_tcp => instDecidableTrue
  | .accept_udp => instDecidableTrue
  | .drop_tcp_acceptor => instDecidableTrue
  | .drop_udp_acceptor => instDecidableTrue
  | .call _ => instDecidableTrue
  | .return_ _ => instDecidableTrue
  | .drop_future _ => instDecidableTrue
  | .drop_tcp_stream _ => instDecidableTrue
  | .drop_udp_socket _ => instDecidableTrue

/-- Every socket that was sent to an acceptor has the addresses that `parse_packet` returned for a
SYN, and the remote address that it was made for. -/
structure Addressed (s : System S) (r : Openings) : Prop where
  syn : ∀ info ∈ s.stack.tcp_stream.sent, (info.local_addr, info.remote_addr) ∈ r.syns
  tcp : ∀ info ∈ s.stack.tcp_stream.sent, (.tcp info.handle, info.remote_addr) ∈ r.made
  udp : ∀ info ∈ s.stack.udp_stream.sent, (.udp info.handle, info.remote_addr) ∈ r.made

end System

/-! ## The record -/

namespace Openings

/-- What is recorded stays in the record. -/
theorem subset_note (r : Openings) (s : System S) (a : Action) (s' : System S) :
    r.syns ⊆ (r.note s a s').syns ∧ r.taken ⊆ (r.note s a s').taken ∧
      r.made ⊆ (r.note s a s').made := by
  cases a with
  | start packet now batch =>
    exact ⟨List.subset_append_left _ _, List.subset_append_left _ _, List.subset_append_left _ _⟩
  | _ => exact ⟨fun _ h => h, fun _ h => h, fun _ h => h⟩

/-- The record has every socket that was added once, with an address that `parse_packet`
returned. -/
structure Valid (r : Openings) (s : System S) : Prop where
  once : (r.made.map Prod.fst).Nodup
  old : ∀ h dst, (h, dst) ∈ r.made → h.handle.incarnation < s.stack.socket_set.next
  normal : ∀ h dst, (h, dst) ∈ r.made → dst = .new dst.ip dst.port
  parsed : ∀ h dst, (h, dst) ∈ r.made → h.protocol = .tcp → ∃ src, (src, dst) ∈ r.syns

/-- The empty record is valid. -/
theorem valid_empty (s : System S) : empty.Valid s where
  once := List.nodup_nil
  old _ _ h := by cases h
  normal _ _ h := by cases h
  parsed _ _ h := by cases h

end Openings

namespace System

/-- A call of `drive_once` begins with its packet. -/
theorem begin_of_start {s s' : System S} {packet : Option Packet} {now : ℕ} {batch : Option ℕ}
    (h : s.step (.start packet now batch) = some s') :
    ∃ res, s.stack.begin_drive packet now = .ok (s'.stack, res) ∧
      (s'.driving.isSome = true ↔ res = .ok ()) := by
  simp only [step] at h
  split at h
  · cases h
  split at h
  · cases h
  split at h
  · cases h
  · rename_i stack res ok
    cases h
    refine ⟨res, ok, ?_⟩
    cases res <;> simp [begun]

/-- Beginning a call keeps the record valid. -/
theorem valid_start {s s' : System S} {packet : Option Packet} {now : ℕ} {batch : Option ℕ}
    {r : Openings} (valid : r.Valid s) (h : s.step (.start packet now batch) = some s') :
    (r.note s (.start packet now batch) s').Valid s' := by
  have next := next_le_of_ownership (ownership_of_effect (effect_of_steps (steps_of_step h)))
  obtain ⟨res, ok, -⟩ := begin_of_start h
  have syns := (r.subset_note s (.start packet now batch) s').1
  cases hm : s.stack.made packet with
  | none =>
    have made : (r.note s (.start packet now batch) s').made = r.made := by
      simp [Openings.note, hm]
    constructor
    all_goals rw [made]
    · exact valid.once
    · exact fun h' dst hd => (valid.old h' dst hd).trans_le next
    · exact valid.normal
    · exact fun h' dst hd tcp => (valid.parsed h' dst hd tcp).imp fun _ hs => syns hs
  | some pair =>
    obtain ⟨h₀, dst₀⟩ := pair
    obtain ⟨handle, normal, parsed⟩ := parsed_of_made hm
    have grown := next_of_made ok hm
    have incarnation : h₀.handle.incarnation = s.stack.socket_set.next := by rw [handle]; rfl
    have mem : ∀ {h' dst}, (h', dst) ∈ (r.note s (.start packet now batch) s').made →
        (h', dst) ∈ r.made ∨ h' = h₀ ∧ dst = dst₀ := by
      intro h' dst hd
      simpa [Openings.note, hm] using hd
    constructor
    · -- The new socket has a number that no other had.
      have made : (r.note s (.start packet now batch) s').made.map Prod.fst =
          r.made.map Prod.fst ++ [h₀] := by simp [Openings.note, hm]
      rw [made]
      refine valid.once.append (List.nodup_singleton _) ?_
      intro h' hh' hh₀
      obtain ⟨⟨h₁, dst⟩, hd, rfl⟩ := List.mem_map.mp hh'
      have eq : h₁ = h₀ := List.mem_singleton.mp hh₀
      have lt := valid.old h₁ dst hd
      rw [eq, incarnation] at lt
      exact absurd lt (lt_irrefl _)
    · intro h' dst hd
      rcases mem hd with hd | ⟨rfl, rfl⟩
      · exact (valid.old h' dst hd).trans_le next
      · omega
    · intro h' dst hd
      rcases mem hd with hd | ⟨rfl, rfl⟩
      · exact valid.normal h' dst hd
      · exact normal
    · intro h' dst hd tcp
      rcases mem hd with hd | ⟨rfl, rfl⟩
      · exact (valid.parsed h' dst hd tcp).imp fun _ hs => syns hs
      · obtain ⟨src, hsrc⟩ := parsed tcp
        exact ⟨src, List.mem_append_right _ (by simp [hsrc])⟩

/-! ## Where addresses come from -/

/-- Every socket is for the address that it was made for, every connection was opened by a SYN that
a listener took, and the acceptors were sent these addresses. -/
structure Traced (s : System S) (r : Openings) : Prop where
  sockets : ∀ h socket, s.stack.Is h socket → ∃ dst, (h, dst) ∈ r.made ∧ S.MadeFor socket dst
  connections : s.stack.Known r.taken
  tcp : ∀ info ∈ s.stack.tcp_stream.sent, (info.local_addr, info.remote_addr) ∈ r.taken ∧
    (.tcp info.handle, info.remote_addr) ∈ r.made
  udp : ∀ info ∈ s.stack.udp_stream.sent, (.udp info.handle, info.remote_addr) ∈ r.made

/-- There is nothing to trace at first. -/
theorem traced_new (size : ℕ) (interface : S.Interface) : Traced (new size interface) .empty where
  sockets h socket is := by
    have := is.socket
    simp [new, TcpStack.new, TcpStack.socket_at] at this
  connections i c src dst hc := by
    simp [new, TcpStack.new, TcpStack.tcp_at, TcpStack.socket_at] at hc
  tcp info h := by cases h
  udp info h := by cases h

/-- A call that begins records the SYNs and datagrams that its sockets come from. -/
theorem Traced.start (spec : S.Spec) {s s' : System S} {packet : Option Packet} {now : ℕ}
    {batch : Option ℕ} {r : Openings} (traced : Traced s r) (drained : s.stack.Drained)
    (h : s.step (.start packet now batch) = some s') :
    Traced s' (r.note s (.start packet now batch) s') := by
  obtain ⟨res, ok, goes_on⟩ := begin_of_start h
  have begins := begin_drive_cases ok
  obtain ⟨tcp_stream, udp_stream⟩ := begins.streams
  obtain ⟨-, taken, made⟩ := r.subset_note s (.start packet now batch) s'
  constructor
  · intro h socket' is
    obtain ⟨socket, added, keeps⟩ := begins.made_for spec drained is
    rcases added with old | ⟨dst, new, made_for⟩
    · obtain ⟨dst, hd, made_for⟩ := traced.sockets h socket old
      exact ⟨dst, made hd, keeps dst made_for⟩
    · exact ⟨dst, List.mem_append_right _ (by simp [new]), keeps dst made_for⟩
  · have known : s.stack.Known (r.note s (.start packet now batch) s').taken :=
      fun i c src dst hc connects => taken (traced.connections i c src dst hc connects)
    cases res with
    | error err => exact begins.known_of_error known
    | ok =>
      obtain ⟨u, polls, eq⟩ := begins.polls spec drained
      rw [eq]
      refine (polls.known_iff spec known now).mpr fun pair hpair => List.mem_append_right _ ?_
      rw [if_pos (goes_on.mpr rfl)]
      exact hpair
  · intro info hinfo
    rw [tcp_stream] at hinfo
    exact (traced.tcp info hinfo).imp (fun h => taken h) fun h => made h
  · intro info hinfo
    rw [udp_stream] at hinfo
    exact made (traced.udp info hinfo)

/-- The remote address of a TCP socket is the one that the socket was made for. -/
theorem Traced.remote (spec : S.Spec) {s : System S} {r : Openings} (traced : Traced s r)
    (valid : r.Valid s) {handle : SocketHandle} {c : S.Tcp} {remote local_ : IpEndpoint}
    (is : s.stack.Is (.tcp handle) (.tcp c)) (connects : S.tcp.Connects c remote local_) :
    (.tcp handle, local_.socket_addr) ∈ r.made := by
  obtain ⟨dst, hd, made_for⟩ := traced.sockets _ _ is
  have eq := (made_for (connects.not_closed spec)).2 local_ connects.2
  have addr : local_.socket_addr = dst := by
    rw [eq]
    exact (valid.normal _ dst hd).symm
  rwa [addr]

/-- A UDP socket is on the address that is recorded for it. -/
theorem Traced.bound {s : System S} {r : Openings} (traced : Traced s r) (valid : r.Valid s)
    {handle : SocketHandle} {u : S.Udp} {addr : SocketAddr}
    (is : s.stack.Is (.udp handle) (.udp u)) (bound : S.bound_addr (.udp u) = some addr) :
    (.udp handle, addr) ∈ r.made := by
  obtain ⟨dst, hd, endpoint⟩ := traced.sockets _ _ is
  have eq : S.bound_addr (.udp u) = some dst := by
    rw [Smoltcp.bound_addr, show S.udp.endpoint u = .from dst from endpoint]
    exact congrArg some (valid.normal _ dst hd).symm
  rwa [Option.some.inj (bound.symm.trans eq)]

/-- Handling an event. -/
theorem Traced.handle (spec : S.Spec) {s s' : System S} {e : OperationEvent} {r : Openings}
    (traced : Traced s r) (valid : r.Valid s) (sound : Sound s) (next : s.next_event = some e)
    (ok : s.stack.handle e = .ok s'.stack) : Traced s' r := by
  have outcome := handle_outcome ok
  -- The handle of a Ready is the one that its socket was given.
  have is : ∀ {h : TypedSocketHandle} {socket : S.Socket}, e = .ready h →
      s.stack.socket_at h.handle.index = some socket → s.stack.Is h socket := by
    intro h socket event hs
    subst event
    obtain ⟨⟨gen, kind⟩, -⟩ := sound.contains_of_next next (h := h) rfl
    refine ⟨gen, hs, ?_⟩
    rw [kind_at, hs] at kind
    exact Option.some.inj kind
  constructor
  · intro h socket' is'
    obtain ⟨socket, was, keeps⟩ := outcome.made_for spec is'
    obtain ⟨dst, hd, made_for⟩ := traced.sockets h socket was
    exact ⟨dst, hd, keeps dst made_for⟩
  · exact outcome.known spec traced.connections
  · intro info hinfo
    cases outcome.delivers with
    | nothing tcp_stream => exact traced.tcp info (tcp_stream ▸ hinfo)
    | udp handle u addr event socket bound tcp_stream => exact traced.tcp info (tcp_stream ▸ hinfo)
    | tcp handle c remote local_ event socket connects tcp_stream =>
      rw [tcp_stream] at hinfo
      rcases Channel.mem_sent_send hinfo with hinfo | rfl
      · exact traced.tcp info hinfo
      · exact ⟨traced.connections _ c _ _ (tcp_at_eq_some.mpr socket) connects,
          traced.remote spec valid (is event socket) connects⟩
  · intro info hinfo
    cases outcome.delivers with
    | nothing tcp_stream udp_stream => exact traced.udp info (udp_stream ▸ hinfo)
    | tcp handle c remote local_ event socket connects tcp_stream udp_stream =>
      exact traced.udp info (udp_stream ▸ hinfo)
    | udp handle u addr event socket bound tcp_stream udp_stream =>
      rw [udp_stream] at hinfo
      rcases Channel.mem_sent_send hinfo with hinfo | rfl
      · exact traced.udp info hinfo
      · exact traced.bound valid (is event socket) bound

/-- An action that leaves the sockets alone and sends nothing to the acceptors. -/
theorem Traced.of_same {s s' : System S} {r : Openings} (traced : Traced s r)
    (set : s'.stack.socket_set = s.stack.socket_set)
    (tcp : s'.stack.tcp_stream.sent = s.stack.tcp_stream.sent)
    (udp : s'.stack.udp_stream.sent = s.stack.udp_stream.sent) : Traced s' r where
  sockets h socket is := by
    refine traced.sockets h socket ⟨?_, ?_, is.protocol⟩
    · rw [← set]
      exact is.gen
    · rw [TcpStack.socket_at, ← set]
      exact is.socket
  connections i c src dst hc := by
    rw [TcpStack.tcp_at, TcpStack.socket_at, set] at hc
    exact traced.connections i c src dst hc
  tcp info h := traced.tcp info (tcp ▸ h)
  udp info h := traced.udp info (udp ▸ h)

/-- A step other than the beginning of a call leaves the sockets traced. -/
theorem Traced.beside (spec : S.Spec) {s s' : System S} {a : Action} {r : Openings}
    (traced : Traced s r) (valid : r.Valid s) (sound : Sound s)
    (other : ∀ packet now batch, a ≠ .start packet now batch) (h : s.step a = some s') :
    Traced s' r := by
  cases stack_step h with
  | began packet now batch res action ok => exact absurd action (other packet now batch)
  | handled e action next ok => exact traced.handle spec valid sound next ok
  | outside socket_set socket_handles accepted_udp_sockets rx_queue =>
    cases acceptor_step h with
    | handled e next ok => exact traced.handle spec valid sound next ok
    | accepted_tcp info rest queue eq => subst eq; exact traced.of_same rfl rfl rfl
    | accepted_udp info rest queue eq => subst eq; exact traced.of_same rfl rfl rfl
    | tcp_dropped action eq => subst eq; exact traced.of_same rfl rfl rfl
    | udp_dropped action eq => subst eq; exact traced.of_same rfl rfl rfl
    | beside tcp udp => exact traced.of_same socket_set (by rw [tcp]) (by rw [udp])

/-- An action other than a call of `drive_once` is not recorded. -/
theorem note_of_other (r : Openings) (s s' : System S) {a : Action}
    (other : ∀ packet now batch, a ≠ .start packet now batch) : r.note s a s' = r := by
  cases a with
  | start packet now batch => exact absurd rfl (other packet now batch)
  | _ => rfl

/-- A step leaves the sockets traced, and the record valid. -/
theorem traced_step (spec : S.Spec) {s s' : System S} {a : Action} {r : Openings}
    (traced : Traced s r) (valid : r.Valid s) (sound : Sound s) (drained : s.stack.Drained)
    (h : s.step a = some s') : Traced s' (r.note s a s') ∧ (r.note s a s').Valid s' := by
  by_cases start : ∃ packet now batch, a = .start packet now batch
  · obtain ⟨packet, now, batch, rfl⟩ := start
    exact ⟨traced.start spec drained h, valid_start valid h⟩
  · have other : ∀ packet now batch, a ≠ .start packet now batch :=
      fun packet now batch eq => start ⟨packet, now, batch, eq⟩
    have next := next_le_of_ownership (ownership_of_effect (effect_of_steps (steps_of_step h)))
    rw [note_of_other r s s' other]
    exact ⟨traced.beside spec valid sound other h,
      { valid with old := fun h' dst hd => (valid.old h' dst hd).trans_le next }⟩

/-- In every run all sockets are traced to packets. -/
theorem traced_of_run (spec : S.Spec) {size : ℕ} {interface : S.Interface}
    {guard : System S × Openings → Action → Prop} {p : System S × Openings}
    (run : Run (recording step Openings.note) guard (new size interface, .empty) p) :
    Traced p.1 p.2 ∧ p.2.Valid p.1 := by
  refine run.invariant (I := fun p => Traced p.1 p.2 ∧ p.2.Valid p.1)
    ⟨traced_new size interface, Openings.valid_empty _⟩ fun p a q hr _ h ⟨traced, valid⟩ => ?_
  obtain ⟨h, noted⟩ := recording_eq_some.mp h
  have reached := Run.of_recording hr
  rw [noted]
  exact traced_step spec traced valid (sound_of_run reached) (drained_of_run reached) h

/-- Under the guard, `parse_packet` returned the addresses of every SYN that a listener took. -/
theorem taken_subset_syns {size : ℕ} {interface : S.Interface} {p : System S × Openings}
    (run : Run (recording step Openings.note) Recognized (new size interface, .empty) p) :
    p.2.taken ⊆ p.2.syns := by
  refine run.invariant (I := fun p => p.2.taken ⊆ p.2.syns) (List.nil_subset _)
    fun p a q _ guard h subset => ?_
  obtain ⟨-, noted⟩ := recording_eq_some.mp h
  rw [noted]
  cases a with
  | start packet now batch =>
    refine List.append_subset.mpr ⟨List.subset_append_of_subset_left _ subset, ?_⟩
    split
    · exact guard
    · exact List.nil_subset _
  | _ => exact subset

/-- In every run in which `parse_packet` reads the SYNs that listeners take, every socket that is
sent to an acceptor has the addresses that `parse_packet` returned for an earlier SYN, and the
remote address that `init_tcp` listened on or `try_init_udp` bound for this very socket. In any run,
the remote address is that one, and it is the destination of an earlier SYN; the two addresses of a
TCP socket are those of a SYN that a listener took. And as long as all connections have addresses
that `parse_packet` returned, they do after the next packet if and only if it meets the condition.
-/
theorem delivered_addresses (spec : S.Spec) (size : ℕ) (interface : S.Interface) :
    (∀ s r, Run (recording step Openings.note) Recognized (new size interface, .empty) (s, r) →
      Addressed s r) ∧
    ∀ s r, Reachable (recording step Openings.note) (new size interface, .empty) (s, r) →
      (∀ info ∈ s.stack.tcp_stream.sent, (.tcp info.handle, info.remote_addr) ∈ r.made ∧
        (info.local_addr, info.remote_addr) ∈ r.taken ∧ ∃ src, (src, info.remote_addr) ∈ r.syns) ∧
      (∀ info ∈ s.stack.udp_stream.sent, (.udp info.handle, info.remote_addr) ∈ r.made) ∧
      (r.made.map Prod.fst).Nodup ∧
      ∀ packet now batch t, s.stack.Known r.syns →
        s.stack.begin_drive packet now = .ok (t, .ok ()) →
        (t.Known (r.syns ++ (packet.bind parsed_syn).toList) ↔
          Recognized (s, r) (.start packet now batch)) := by
  constructor
  · intro s r run
    obtain ⟨traced, -⟩ := traced_of_run spec run
    have subset := taken_subset_syns run
    exact ⟨fun info h => subset (traced.tcp info h).1, fun info h => (traced.tcp info h).2,
      traced.udp⟩
  · intro s r run
    obtain ⟨traced, valid⟩ := traced_of_run spec run
    refine ⟨fun info h => ?_, traced.udp, valid.once, fun packet now batch t known ok => ?_⟩
    · obtain ⟨taken, made⟩ := traced.tcp info h
      exact ⟨made, taken, valid.parsed _ _ made rfl⟩
    · obtain ⟨u, polls, rfl⟩ :=
        (begin_drive_cases ok).polls spec (drained_of_run (Run.of_recording run))
      refine polls.known_iff spec (fun i c src dst hc connects => ?_) now
      exact List.mem_append_left _ (known i c src dst hc connects)

open Reference in
/-- The SYN of client 1 opens a connection, which its RST returns to LISTEN, and the listener takes
the SYN of client 2: the acceptor gets the addresses of this one. -/
theorem delivered_addresses_relistened : ∃ (s : System hop_by_hop_reference) (r : Openings),
    Run (recording step Openings.note) Recognized (new 64 (), .empty) (s, r) ∧
    s.stack.tcp_stream.sent = [⟨⟨0, 0⟩, client_addr_v6 2, server_addr_v6 2⟩] ∧ Addressed s r := by
  obtain ⟨⟨s, r⟩, hs, sent⟩ := exists_of_execIf_any (recording step Openings.note)
    ((new 64 (), .empty) : System hop_by_hop_reference × Openings)
    (fun p a => decide (Recognized p a)) [
      .start (some (syn_v6 1 2)) 0 none, .finish, .start (some (rst_v6 1 2)) 0 none, .finish,
      .start (some (syn_v6 2 2)) 0 none, .finish, .start (some (ack_v6 2 2)) 0 none, .finish,
      .generate, .start none 0 (some 0), .event]
    (fun p => p.1.stack.tcp_stream.sent = [⟨⟨0, 0⟩, client_addr_v6 2, server_addr_v6 2⟩])
    (by decide +kernel)
  have run : Run (recording step Openings.note) Recognized (new 64 (), .empty) (s, r) :=
    Run.of_execIf (fun _ _ h => of_decide_eq_true h) hs
  exact ⟨s, r, run, of_decide_eq_true sent,
    (delivered_addresses (reference_spec.reading skip_hop_by_hop) 64 ()).1 s r run⟩

open Reference in
/-- Client 1 sends its SYN twice, and the second listener is left over. It takes the SYN of client
2, which is behind a hop-by-hop header: the acceptor gets an address that `parse_packet` never
returned. -/
theorem unparsed_address : ∃ (s : System hop_by_hop_reference) (r : Openings),
    exec (recording step Openings.note) (new 64 (), .empty) [
      .start (some (syn_v6 1 2)) 0 none, .finish, .start (some (syn_v6 1 2)) 0 none, .finish,
      .start (some (syn_hop_by_hop 2 2)) 0 none, .finish,
      .start (some (ack_v6 2 2)) 0 none, .finish, .generate, .start none 0 (some 0), .event,
      .event] = some (s, r) ∧
    s.stack.tcp_stream.sent = [⟨⟨1, 1⟩, client_addr_v6 2, server_addr_v6 2⟩] ∧
    r.syns = [(client_addr_v6 1, server_addr_v6 2), (client_addr_v6 1, server_addr_v6 2)] ∧
    ¬ Addressed s r := by
  obtain ⟨⟨s, r⟩, hs, test⟩ := exists_of_exec_any (recording step Openings.note)
    ((new 64 (), .empty) : System hop_by_hop_reference × Openings) [
      .start (some (syn_v6 1 2)) 0 none, .finish, .start (some (syn_v6 1 2)) 0 none, .finish,
      .start (some (syn_hop_by_hop 2 2)) 0 none, .finish,
      .start (some (ack_v6 2 2)) 0 none, .finish, .generate, .start none 0 (some 0), .event, .event]
    (fun p => p.1.stack.tcp_stream.sent = [⟨⟨1, 1⟩, client_addr_v6 2, server_addr_v6 2⟩] ∧
      p.2.syns = [(client_addr_v6 1, server_addr_v6 2), (client_addr_v6 1, server_addr_v6 2)])
    (by decide +kernel)
  obtain ⟨sent, syns⟩ := of_decide_eq_true test
  refine ⟨s, r, hs, sent, syns, fun addressed => ?_⟩
  have mem := addressed.syn ⟨⟨1, 1⟩, client_addr_v6 2, server_addr_v6 2⟩
    (sent ▸ List.mem_singleton_self _)
  rw [syns] at mem
  exact absurd mem (by decide +kernel)

end System

end L3Extract
