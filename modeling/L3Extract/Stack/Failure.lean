import L3Extract.Stack.Accepted

/-!
# Calls that return an error

`drive_once` returns an error before the poll or not at all: `init_tcp` passes on the error of
`listen`, and `try_init_udp` that of `bind` and the failure to send its Ready. `receive_ok` says
for which packets it goes on to the poll. An error comes after the call took the batch and before it
looked at it, and in `try_init_udp` after the new socket was entered in the tables;
`failed_drive_keeps` says when nothing is lost by that.
-/

namespace L3Extract

open OperationEvent Transition

variable {S : Smoltcp}

/-- The packet is a SYN or a datagram to port 0. -/
def to_port_zero (packet : Packet) : Bool :=
  match parse_packet packet with
  | .ok (some (.tcp _ dst)) => dst.port = 0
  | .ok (some (.udp _ dst)) => dst.port = 0
  | _ => false

namespace TcpStack

/-! ## Which packets are accepted -/

/-- The version of an empty packet is read behind its end, and `drive_once` panics. -/
theorem empty_packet_panics : parse_packet [] = .error .index_out_of_bounds ∧
    ∀ (S : Smoltcp) (t : TcpStack S) now events,
      t.drive_once (some []) now events = .error .index_out_of_bounds :=
  ⟨rfl, fun _ _ _ _ => rfl⟩

/-- With the `EventGenerator` there, a packet that has a byte comes to the poll, unless it opens a
socket on port 0. It causes no panic before the poll. -/
theorem receive_ok (spec : S.Spec) {t : TcpStack S} (accepted : t.Accepted)
    (connected : t.operation_event.connected = true) {packet : Packet} (filled : packet ≠ []) :
    ∃ u res, t.receive packet = .ok (u, res) ∧ (res = .ok () ↔ to_port_zero packet = false) := by
  obtain ⟨r, parsed, -⟩ := parse_packet_reads filled
  simp only [receive, to_port_zero, parsed, bind, Except.bind, pure, Except.pure]
  cases r with
  | none => exact ⟨_, _, rfl, by simp⟩
  | some parse =>
  cases parse with
  | tcp src dst =>
    rcases init_tcp_cases t dst with ⟨err, hl, hi⟩ | ⟨c, u, hl, hi, -⟩
    · refine ⟨_, _, by simp only [hi]; rfl, ?_⟩
      have port : dst.port = 0 := by
        by_contra port
        obtain ⟨c, hc, -⟩ := spec.listen_ok t.tcp_socket_buf_size (.from dst) port
        rw [hc] at hl
        cases hl
      simp [port]
    · refine ⟨_, _, by simp only [hi]; rfl, ?_⟩
      have port : dst.port ≠ 0 := (spec.listens hl).1
      simp [port]
  | udp src dst =>
    rcases try_init_udp_cases t dst with ⟨mem, hi⟩ | ⟨-, ⟨err, hb, hi⟩ |
      ⟨c, u, hb, ⟨hc, -⟩ | ⟨-, hi, -⟩⟩⟩
    · -- An address is accepted only with a port.
      exact ⟨_, _, by simp only [hi, Except.map]; rfl, by simp [accepted.port dst mem]⟩
    · refine ⟨_, _, by simp only [hi, Except.map]; rfl, ?_⟩
      have port : dst.port = 0 := by
        by_contra port
        obtain ⟨c, hc⟩ := spec.bind_ok socket_buf_size (.from dst) port
        rw [hc] at hb
        cases hb
      simp [port]
    · rw [connected] at hc
      cases hc
    · refine ⟨_, _, by simp only [hi, Except.map]; rfl, ?_⟩
      have port : dst.port ≠ 0 := spec.port_of_bind hb
      simp [port]

/-- A call with a packet comes to its batch when the packet comes to the poll and smoltcp does not
panic there. -/
theorem begin_drive_ok_iff {t v : TcpStack S} {packet : Packet} {now : ℕ} :
    t.begin_drive (some packet) now = .ok (v, .ok ()) ↔
      ∃ u, t.receive packet = .ok (u, .ok ()) ∧ u.poll_panics now = false ∧ u.poll now = v := by
  unfold begin_drive
  dsimp only
  cases received : t.receive packet with
  | error panic => simp
  | ok r =>
    obtain ⟨u, err | done⟩ := r
    · simp
    · simp [try_poll_eq_ok]

/-- A call returns `Ok` when it comes to its batch and handles all of it. -/
theorem drive_once_ok_iff {t : TcpStack S} {packet : Option Packet} {now : ℕ}
    {events : Option (List OperationEvent)} :
    (∃ t' r, t.drive_once packet now events = .ok (t', .ok r)) ↔
      ∃ u v, t.begin_drive packet now = .ok (u, .ok ()) ∧
        u.handle_in_order (passes (events.getD [])) = .ok v := by
  constructor
  · rintro ⟨t', r, ok⟩
    rcases drive_once_eq_ok ok with ⟨err, -, hr⟩ | ⟨u, v, hb, hv, -, -⟩
    · cases hr
    · exact ⟨u, v, hb, hv⟩
  · rintro ⟨u, v, hb, hv⟩
    simp only [drive_once, hb, bind, Except.bind, pure, Except.pure]
    cases events with
    | none =>
      cases hv
      exact ⟨_, _, rfl⟩
    | some events =>
      rw [← handle_events_eq] at hv
      simp only [show u.handle_events events = .ok v from hv]
      exact ⟨_, _, rfl⟩

/-! ## What an error leaves behind -/

/-- The packet is a datagram to an address, other than port 0, that no UDP socket is open for. -/
def OpensUdp (t : TcpStack S) (packet : Option Packet) : Prop :=
  ∃ p src dst, packet = some p ∧ parse_packet p = .ok (some (.udp src dst)) ∧ dst.port ≠ 0 ∧
    dst ∉ t.accepted_udp_sockets

/-- An error leaves the stack as it was, or with a UDP socket whose Ready was not sent. -/
theorem Begins.of_error (spec : S.Spec) {t t' : TcpStack S} {packet : Option Packet} {now : ℕ}
    {err : DriveError} (begins : Begins t packet now t' (.error err)) :
    (t' = t ∧ (t.operation_event.connected = true ∨ ¬ t.OpensUdp packet)) ∨
    (t.operation_event.connected = false ∧ t.OpensUdp packet) ∧
      ∃ h s accepted, Adds t h s 0 accepted t' := by
  cases begins with
  | failed arrived fails =>
    refine .inl ⟨rfl, .inr ?_⟩
    rintro ⟨p, src, dst, hp, parsed, port, fresh⟩
    obtain rfl := Option.some.inj (arrived.symm.trans hp)
    cases fails with
    | listen parsed' refuses => rw [parsed] at parsed'; cases parsed'
    | bind parsed' fresh refuses =>
      rw [parsed] at parsed'
      cases parsed'
      obtain ⟨u, hu⟩ := spec.bind_ok socket_buf_size (.from dst) port
      rw [hu] at refuses
      cases refuses
  | unready arrived opens adds disconnected protocol =>
    refine .inr ⟨⟨disconnected, ?_⟩, _, _, _, adds⟩
    cases opens with
    | tcp parsed listens => cases protocol
    | udp parsed fresh binds =>
      exact ⟨_, _, _, arrived, parsed, spec.port_of_bind binds, fresh⟩

/-- A call of `drive_once` that returns an error loses nothing (the sockets and the tables are as
before, and the events of its batch are still pending) if and only if it was given no events and did
not open a UDP socket whose Ready cannot be sent, as the `EventGenerator` is gone. -/
theorem failed_drive_keeps (spec : S.Spec) {t t' : TcpStack S} {packet : Option Packet} {now : ℕ}
    {events : Option (List OperationEvent)} {err : DriveError}
    (failed : t.drive_once packet now events = .ok (t', .error err)) :
    (t'.socket_set = t.socket_set ∧ t'.socket_handles = t.socket_handles ∧
      t'.accepted_udp_sockets = t.accepted_udp_sockets ∧
      t.pending + ↑(events.getD []) ≤ t'.pending) ↔
    events.getD [] = [] ∧ (t.operation_event.connected = true ∨ ¬ t.OpensUdp packet) := by
  rcases drive_once_eq_ok failed with ⟨err', hb, -⟩ | ⟨u, v, -, -, -, hres⟩
  swap
  · cases hres
  have no_room : ∀ l : List OperationEvent, t.pending + ↑l ≤ t.pending ↔ l = [] := by
    intro l
    rw [add_le_iff_nonpos_right, Multiset.le_zero, Multiset.coe_eq_zero]
  rcases (begin_drive_cases hb).of_error spec with ⟨rfl, hears⟩ | ⟨⟨deaf, unknown⟩, h, s, _, adds⟩
  · simp only [true_and, no_room]
    exact ⟨fun empty => ⟨empty, hears⟩, fun h => h.1⟩
  · constructor
    · rintro ⟨set, -⟩
      -- The slot of the new socket was free.
      have free := adds.socket_free
      have filled := adds.socket_at h.handle.index
      rw [socket_at, set] at filled
      rw [socket_at, filled] at free
      simp at free
    · rintro ⟨-, hears | known⟩
      · rw [deaf] at hears
        cases hears
      · exact absurd unknown known

open Reference in
/-- A SYN to port 0 makes the call fail that has the Ready of slot 0 in its batch. -/
def loses_ready (u : TcpStack reference) : Bool :=
  (u.drive_once (some (syn 1 0)) 0 (some [.ready (.tcp ⟨0, 0⟩)])).toOption.any fun r =>
    r.2 = .error (.listen .unaddressable) ∧ .ready (.tcp ⟨0, 0⟩) ∉ r.1.pending

open Reference in
/-- A SYN to port 0 makes a call fail that was given the Ready of a connection: the event is
lost. -/
theorem failed_drive_loses : ∃ t u v : TcpStack reference,
    exec move (new 64 ()) [.drive_once (some (syn 1 2)) 0 none,
      .drive_once (some (ack 1 2 [])) 0 none] = some t ∧
    t.operation_event.queue = [.ready (.tcp ⟨0, 0⟩)] ∧
    u = { t with operation_event := t.operation_event.drain } ∧
    u.drive_once (some (syn 1 0)) 0 (some [.ready (.tcp ⟨0, 0⟩)]) =
      .ok (v, .error (.listen .unaddressable)) ∧
    .ready (.tcp ⟨0, 0⟩) ∉ v.pending := by
  obtain ⟨t, ht, hs⟩ := exists_of_exec_any move (new 64 () : TcpStack reference)
    [.drive_once (some (syn 1 2)) 0 none, .drive_once (some (ack 1 2 [])) 0 none]
    (fun t => t.operation_event.queue = [.ready (.tcp ⟨0, 0⟩)] ∧
      loses_ready { t with operation_event := t.operation_event.drain } = true) (by decide +kernel)
  obtain ⟨hq, hd⟩ := of_decide_eq_true hs
  obtain ⟨⟨v, res⟩, hv, hr⟩ := exists_of_toOption_any hd
  obtain ⟨hres, lost⟩ := of_decide_eq_true hr
  obtain rfl : res = _ := hres
  exact ⟨t, _, v, ht, hq, rfl, hv, lost⟩

open Reference in
/-- A SYN to port 0 alone leaves the stack as it was. -/
theorem failed_drive_keeps_listen : ∃ t : TcpStack reference,
    (new 64 ()).drive_once (some (syn 1 0)) 0 none = .ok (t, .error (.listen .unaddressable)) ∧
    t.socket_set = (new 64 () : TcpStack reference).socket_set ∧ t.socket_handles = ∅ ∧
    t.accepted_udp_sockets = ∅ := by
  have fails : ((new 64 () : TcpStack reference).drive_once (some (syn 1 0)) 0 none).toOption.any
      (fun r : TcpStack reference × Except DriveError (List Packet × Option ℕ) =>
        r.2 = .error (.listen .unaddressable)) = true := by decide +kernel
  obtain ⟨⟨t, res⟩, ht, hr⟩ := exists_of_toOption_any fails
  obtain rfl : res = _ := of_decide_eq_true hr
  obtain ⟨set, handles, keys, -⟩ :=
    (failed_drive_keeps reference_spec ht).mpr ⟨rfl, .inl rfl⟩
  exact ⟨t, ht, set, handles, keys⟩

end TcpStack

end L3Extract
