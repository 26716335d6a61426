import L3Extract.System.Session
import L3Extract.System.Shutdown

/-!
# `read_exact` and `write_all` at work

A task calls `write_all` or `read_exact` on a stream, and no other task writes to it, or reads from
it, meanwhile. `write_all_written` and `read_exact_returned` say what the two functions do to the
stream of bytes: the one puts its buffer into it, the other takes its next bytes out. This is so in
every run in which nobody drops the future of a write, or of a read or recv, before it returns. The
request of a dropped future is served all the same, and it may be on another socket by then: a write
puts bytes into the stream that no write on it was told of, and a read takes bytes out that nobody
gets.
-/

namespace L3Extract

open OperationEvent Transition TcpStack

variable {S : Smoltcp}

/-! ## `write_all` -/

/-- What the writes of a stream are told is what they had accepted. -/
theorem told_write_calls (s : System S) (r : Record) (h : SocketHandle) :
    (write_calls h).told s r = s.accepted r h := by
  refine List.flatMap_congr fun x _ => ?_
  obtain ⟨id, answer⟩ := x
  unfold CallKind.tells Record.accepts
  dsimp only
  cases r.calls[id]? with
  | none => rfl
  | some c =>
    cases c with
    | write stream buf =>
      by_cases mine : stream.handle = h
      · simp only [write_calls, mine, decide_true, if_true, CallKind.moved]
        cases answer with
        | error err => rfl
        | ok reply => cases reply <;> rfl
      · simp [write_calls, mine]
    | _ => rfl

/-- A `write` is told of no more bytes than it has. -/
theorem fits_write_calls (h : SocketHandle) : (write_calls h).Fits := by
  intro r id memory c a mine truthful x hx
  cases truthful with
  | declined declines untouched kept =>
    have deferred : (c.event id).deferred.isSome = true := by
      cases c <;> first | rfl | cases mine
    obtain ⟨err, rfl⟩ := declines.2 deferred
    cases hx
  | @wrote stream buf n _ _ _ le moved kept =>
    cases hx
    rw [IoBuf.as_slice, List.length_take] at le
    exact le.trans (min_le_left _ _)
  | _ => cases mine

/-- A write gives back the slice that it was handed. -/
theorem write_gives_back {h : SocketHandle} {r : Record} {id : ResultTx} {memory : IoBuf} {c : Call}
    {a : Answer} {slice : Slice} (mine : (write_calls h).mine c = true)
    (truthful : Truthful r id memory c a) (shown : c.buf = slice.io_buf) :
    memory = (slice.write ((write_calls h).value memory a)).2.io_buf := by
  have same : ∀ result, (slice.write result).2 = slice := by
    intro result
    cases result <;> rfl
  rw [same, ← shown]
  cases truthful with
  | declined declines untouched kept => exact kept
  | wrote le moved kept => exact kept
  | _ => cases mine

/-- What the calls of `write_all` move is in front of the initialized bytes of its buffer, and is
all of them when it has returned `Ok`, but not when it has returned an error. -/
theorem moved_by_write_all {buf : IoBuf} (valid : buf.Valid) (h : SocketHandle)
    {results : List WriteResult} {loop : Loop} (ok : write_all buf results = .ok loop)
    (fits : CallsFit id (fun slice => slice.io_buf.buf_len) loop results) :
    (write_calls h).moved_by loop results <+: buf.as_slice ∧
    ∀ res buf', loop.returned = some (res, buf') →
      buf' = buf ∧ (res = .ok () ↔ (write_calls h).moved_by loop results = buf.as_slice) := by
  obtain ⟨sent, goes⟩ := exists_goes (write_turns valid) rfl (Nat.zero_le _) ok fits
  have moved : (write_calls h).moved_by loop results = buf.as_slice.take sent.sum := by
    have each : ∀ p : Slice × WriteResult,
        (write_calls h).moved p.1.io_buf p.2 = accepted_of p := by
      rintro ⟨slice, result⟩
      cases result <;> rfl
    obtain ⟨last, turns, nothing⟩ := goes.turns
    have rest : last.flatMap accepted_of = [] := by
      rw [List.flatMap_eq_nil_iff]
      exact fun p hp => accepted_of_nothing (nothing p hp)
    simp only [CallKind.moved_by, each]
    rw [turns, List.flatMap_append, accepted_of_course valid, rest, List.append_nil, List.drop_zero]
  have length : buf.as_slice.length = buf.buf_len := by
    rw [IoBuf.as_slice, List.length_take]
    exact min_eq_left valid
  -- Less than the whole was sent by a loop that ended early.
  have whole : sent.sum < buf.buf_len → buf.as_slice.take sent.sum ≠ buf.as_slice := by
    intro short eq
    have := congrArg List.length eq
    rw [List.length_take, length] at this
    omega
  rw [moved]
  refine ⟨List.take_prefix _ _, fun res buf' returned => ?_⟩
  have course := goes.course
  rw [Nat.sub_zero, effects_const] at course
  cases course with
  | awaits calls short returns =>
    rw [returns] at returned
    cases returned
  | done rest calls full returns =>
    rw [returns] at returned
    cases returned
    rw [List.map_id] at full
    refine ⟨rfl, iff_of_true rfl ?_⟩
    rw [full, ← length, List.take_length]
  | failed last rest err calls last_eq short returns =>
    rw [returns] at returned
    cases returned
    rw [List.map_id] at short
    exact ⟨rfl, iff_of_false (by rintro ⟨⟩) (whole short)⟩

namespace System

/-- A `write_all` that begins when no other `write` is under way on its stream, while no other is
made, in a run in which nobody drops the future of a write before it returns: what the writes on the
stream are told from then on is the front of its buffer, and the whole of it if and only if the loop
returns `Ok`. These bytes follow upon what was written before, in what left the transmit buffer of
the socket and what is there. A call that is answered gives back the slice that the loop goes on
with. -/
theorem write_all_written (spec : S.Spec) (streams : S.Streams) {size : ℕ} {interface : S.Interface}
    {s t : System S} {r r' : Record} {h : SocketHandle} {buf : IoBuf} {sess : Session ℕ}
    (valid : buf.Valid)
    (run : Run (recording step Record.note) KeepsWrites (new size interface, .empty) (s, r))
    (free : ∀ f ∈ s.futures, ∀ c ∈ r.calls[f.rx]?, (write_calls h).mine c = false)
    (later : Run (recording (recording step Record.note) (Session.note (write_calls h)))
      (fun p a => KeepsWrites p.1 a ∧ p.2.follows (write_calls h) (write_all buf) a = true)
      ((s, r), .begin_) ((t, r'), sess)) :
    ∃ loop sent, write_all buf sess.results = .ok loop ∧
      t.accepted r' h = s.accepted r h ++ sent ∧ sent <+: buf.as_slice ∧
      (∀ res buf', loop.returned = some (res, buf') →
        buf' = buf ∧ (res = .ok () ↔ sent = buf.as_slice)) ∧
      (∀ c, t.stack.IsTcp h c → s.accepted r h ++ sent = r'.drained h ++ S.tcp.tx_buffer c) ∧
      ∀ rx ∈ sess.awaits, ∀ answer, (rx, answer) ∈ t.stack.answers → ∃ slice,
        loop.next = some slice ∧
        t.stack.memory rx = (slice.write ((write_calls h).outcome t rx)).2.io_buf := by
  have faithful := faithful_of_run spec run
  have writing := writing_of_run spec run
  have alone := faithful.not_pending_of_free free fun e he id c event mine => by
    have writes : e.writes = true := by
      rw [event]
      cases c <;> first | rfl | cases mine
    exact writing.waiting e he writes id (by rw [event, c.event_result_tx])
  obtain ⟨faithful', loop, ok, underway⟩ := underway_of_run (write_turns valid) rfl
    (fits_write_calls h) spec faithful alone (fun _ _ meets => meets.2) later
  obtain ⟨results, loop', ok', fits', told, same⟩ :=
    underway.settled (write_turns valid) rfl (fits_write_calls h) ok faithful'
  rw [told_write_calls, told_write_calls] at told
  obtain ⟨front, returns⟩ := moved_by_write_all valid h ok' fits'
  have recorded : Run (recording step Record.note) KeepsWrites (new size interface, .empty)
      (t, r') := run.trans (later.mono fun _ _ meets => meets.1).erase_record
  refine ⟨loop, _, ok, told, front, fun res buf' returned => ?_, fun c is => ?_,
    fun rx awaits answer answered => ?_⟩
  · obtain rfl := same (by rw [returned]; rfl)
    obtain rfl : loop = loop' := Except.ok.inj (ok.symm.trans ok')
    exact returns res buf' returned
  · rw [← told, (writing_of_run spec recorded).accepted h]
    exact (poured_of_run spec streams recorded).tcp h c is
  · obtain ⟨slice, -, next, -⟩ := underway.awaited rx awaits
    obtain ⟨value, c, mine, shown, truthful⟩ := underway.truthful faithful' awaits next answered
    rw [value]
    exact ⟨slice, next, write_gives_back mine truthful shown⟩

open Reference in
/-- `write_all` of three bytes, through a transmit buffer with room for two. -/
def write_three : List Action := [
  .call (.write ⟨⟨0, 0⟩, client_addr 1, server_addr 2⟩ ⟨[1, 2, 3], 3⟩), .generate,
  .start none 0 (some 0), .event, .finish, .return_ 0, .start (some (ack 1 2 [])) 0 none, .finish,
  .call (.write ⟨⟨0, 0⟩, client_addr 1, server_addr 2⟩ ⟨[3], 1⟩), .generate,
  .start none 0 (some 0), .event, .finish, .return_ 1]

/-- The loop has returned. The peer has got two bytes, and the third is still to be sent. -/
theorem write_all_written_three : ∃ (t : System reference) (r : Record) (c : reference.Tcp),
    t.stack.IsTcp ⟨0, 0⟩ c ∧ t.accepted r ⟨0, 0⟩ = [1, 2, 3] ∧ r.drained ⟨0, 0⟩ = [1, 2] ∧
    reference.tcp.tx_buffer c = [3] := by
  obtain ⟨⟨s, r⟩, hs, ht⟩ := exists_of_execIf_any (recording step Record.note)
    ((new 2 () : System reference), Record.empty) (fun p a => decide (KeepsWrites p a))
    accepted_connection
    (fun p => p.1.futures = [] ∧ p.1.accepted p.2 ⟨0, 0⟩ = [] ∧
      (execIf (recording (recording step Record.note) (Session.note (write_calls ⟨0, 0⟩)))
        (fun p a => decide (KeepsWrites p.1 a) &&
          p.2.follows (write_calls ⟨0, 0⟩) (write_all ⟨[1, 2, 3], 3⟩) a)
        (p, .begin_) write_three).any fun q =>
          q.2.results = [.ok 2, .ok 1] ∧ q.1.2.drained ⟨0, 0⟩ = [1, 2] ∧
          q.1.1.stack.socket_set.gen 0 = some 0 ∧ (q.1.1.stack.tcp_at 0).isSome)
    (by decide +kernel)
  obtain ⟨idle, nothing, ht⟩ := of_decide_eq_true ht
  obtain ⟨⟨⟨t, r'⟩, sess⟩, later, ht⟩ := (Option.any_eq_true _ _).mp ht
  obtain ⟨results, drained, gen, socket⟩ := of_decide_eq_true ht
  obtain ⟨c, hc⟩ := Option.isSome_iff_exists.mp socket
  obtain ⟨loop, sent, ok, accepted, -, returns, leaves, -⟩ :=
    write_all_written reference_spec reference_streams
      (by simp [IoBuf.Valid, IoBuf.capacity] : (⟨[1, 2, 3], 3⟩ : IoBuf).Valid)
      (Run.of_execIf (fun _ _ => of_decide_eq_true) hs) (by simp [show s.futures = [] from idle])
      (Run.of_execIf (fun p a meets => by simpa using meets) later)
  have results : sess.results = [.ok 2, .ok 1] := results
  rw [results] at ok
  cases ok
  have whole := (returns _ _ rfl).2.mp rfl
  have nothing : s.accepted r ⟨0, 0⟩ = [] := nothing
  have drained : r'.drained ⟨0, 0⟩ = [1, 2] := drained
  have rest := leaves c ⟨gen, hc⟩
  rw [nothing, whole, drained] at rest
  have rest : [1, 2] ++ [3] = [1, 2] ++ reference.tcp.tx_buffer c := rest
  rw [nothing, whole] at accepted
  exact ⟨t, r', c, ⟨gen, hc⟩, accepted, drained, (List.append_cancel_left rest).symm⟩

end System

/-! ## `read_exact` -/

/-- What the reads of a stream are told is what they returned. -/
theorem told_read_calls (s : System S) (r : Record) (h : SocketHandle) :
    (read_calls h).told s r = s.returned r h := by
  refine List.flatMap_congr fun x _ => ?_
  obtain ⟨id, answer⟩ := x
  unfold CallKind.tells System.gives
  dsimp only
  cases r.calls[id]? with
  | none => rfl
  | some c =>
    cases c with
    | read stream buf =>
      by_cases mine : stream.handle = h
      · simp only [read_calls, mine, decide_true, if_true, CallKind.moved]
        cases answer with
        | error err => rfl
        | ok reply => cases reply <;> rfl
      · simp [read_calls, mine]
    | _ => rfl

/-- A `read` is told of no more bytes than it has room for. -/
theorem fits_read_calls (h : SocketHandle) : (read_calls h).Fits := by
  intro r id memory c a mine truthful x hx
  cases truthful with
  | declined declines untouched kept =>
    have deferred : (c.event id).deferred.isSome = true := by
      cases c <;> first | rfl | cases mine
    obtain ⟨err, rfl⟩ := declines.2 deferred
    cases hx
  | @read stream buf data _ _ _ le moved filled =>
    cases hx
    exact (List.length_take_le _ _).trans le
  | _ => cases mine

/-- A read gives back the slice that it was handed, with what was read in front. -/
theorem read_gives_back {h : SocketHandle} {r : Record} {id : ResultTx} {memory : IoBuf} {c : Call}
    {a : Answer} {slice : Slice} (mine : (read_calls h).mine c = true)
    (truthful : Truthful r id memory c a) (shown : c.buf = slice.io_buf) (inside : slice.Inside)
    (whole : slice.end_ = slice.buffer.capacity) :
    memory = (slice.read ((read_calls h).value memory a)).2.io_buf := by
  cases truthful with
  | declined declines untouched kept =>
    have deferred : (c.event id).deferred.isSome = true := by
      cases c <;> first | rfl | cases mine
    obtain ⟨err, rfl⟩ := declines.2 deferred
    exact kept.trans shown
  | @read stream buf data _ _ _ le moved filled =>
    have shown : buf = slice.io_buf := shown
    have value : (read_calls h).value memory (.ok (.len data.length)) = .ok data := by
      rw [filled]
      exact congrArg Except.ok List.take_left
    have order : slice.begin_ ≤ slice.end_ := whole ▸ le_of_lt inside.1
    rw [shown] at le
    rw [value, Slice.read, Slice.io_buf_fill order (le_of_eq whole) le, filled, shown]
  | _ => cases mine

/-- What the calls of `read_exact` move is no more than fits into its buffer. What it has returned
is the buffer with these bytes in front, and `Ok` if and only if they fill it. -/
theorem moved_by_read_exact {buf : IoBuf} (h : SocketHandle) {results : List ReadResult}
    {loop : Loop} (ok : read_exact buf results = .ok loop)
    (fits : CallsFit List.length (fun slice => slice.io_buf.capacity) loop results) :
    ((read_calls h).moved_by loop results).length ≤ buf.capacity ∧
    ∀ res buf', loop.returned = some (res, buf') →
      buf' = buf.fill ((read_calls h).moved_by loop results) ∧
      (res = .ok () ↔ ((read_calls h).moved_by loop results).length = buf.capacity) := by
  have inv : ReadLoop buf.capacity 0 buf := ⟨fun _ => rfl, Nat.zero_le _⟩
  obtain ⟨chunks, goes⟩ := exists_goes (read_turns buf.capacity) inv (Nat.zero_le _) ok fits
  have moved : (read_calls h).moved_by loop results = chunks.flatten := by
    obtain ⟨last, turns, nothing⟩ := goes.turns
    have rest : (last.flatMap fun p => (read_calls h).moved p.1.io_buf p.2) = [] := by
      rw [List.flatMap_eq_nil_iff]
      rintro ⟨slice, result⟩ hp
      cases result with
      | error err => rfl
      | ok data => exact List.eq_nil_of_length_eq_zero (nothing _ hp data rfl)
    have chunks : ∀ (done : ℕ) (buf : IoBuf) (chunks : List Bytes),
        ((course_turns List.length IoBuf.write_at done buf chunks).flatMap fun p =>
          (read_calls h).moved p.1.io_buf p.2) = chunks.flatten := by
      intro done buf chunks
      induction chunks generalizing done buf with
      | nil => rfl
      | cons data chunks ih =>
        rw [course_turns, List.flatMap_cons, ih]
        rfl
    rw [CallKind.moved_by, turns, List.flatMap_append, chunks, rest, List.append_nil]
  have after : chunks.flatten.length ≤ buf.capacity →
      effects List.length IoBuf.write_at 0 buf chunks = buf.fill chunks.flatten := by
    intro fits
    rw [effects_write_at (by omega) (Nat.zero_le _), IoBuf.write_at_zero]
  rw [moved]
  have course := goes.course
  rw [Nat.sub_zero] at course
  cases course with
  | awaits calls short returns =>
    rw [← List.length_flatten] at short
    exact ⟨le_of_lt short, by simp [returns]⟩
  | done rest calls full returns =>
    rw [← List.length_flatten] at full
    refine ⟨le_of_eq full, fun res buf' returned => ?_⟩
    rw [returns, after (le_of_eq full)] at returned
    cases returned
    exact ⟨rfl, iff_of_true rfl full⟩
  | failed last rest err calls last_eq short returns =>
    rw [← List.length_flatten] at short
    refine ⟨le_of_lt short, fun res buf' returned => ?_⟩
    rw [returns, after (le_of_lt short)] at returned
    cases returned
    exact ⟨rfl, iff_of_false (by rintro ⟨⟩) (ne_of_lt short)⟩

namespace System

/-- A `read_exact` that begins when no other `read` is under way on its stream, while no other is
made, in a run in which nobody drops the future of a read or a recv before it returns: what the
reads on the stream return from then on are no more bytes than its buffer has room for, and the loop
returns the buffer with them in front. It returns `Ok` if and only if they fill the buffer. They are
the next bytes of what arrived on the stream. A call that is answered gives back the slice that the
loop goes on with. -/
theorem read_exact_returned (spec : S.Spec) {size : ℕ} {interface : S.Interface} {s t : System S}
    {r r' : Record} {h : SocketHandle} {buf : IoBuf} {sess : Session Bytes}
    (run : Run (recording step Record.note) KeepsReads (new size interface, .empty) (s, r))
    (free : ∀ f ∈ s.futures, ∀ c ∈ r.calls[f.rx]?, (read_calls h).mine c = false)
    (later : Run (recording (recording step Record.note) (Session.note (read_calls h)))
      (fun p a => KeepsReads p.1 a ∧ p.2.follows (read_calls h) (read_exact buf) a = true)
      ((s, r), .begin_) ((t, r'), sess)) :
    ∃ loop got, read_exact buf sess.results = .ok loop ∧
      t.returned r' h = s.returned r h ++ got ∧ got.length ≤ buf.capacity ∧
      (∀ res buf', loop.returned = some (res, buf') →
        buf' = buf.fill got ∧ (res = .ok () ↔ got.length = buf.capacity)) ∧
      (.tcp h ∈ t.streams → s.returned r h ++ got <+: r'.arrived Buffers.received h) ∧
      ∀ rx ∈ sess.awaits, ∀ answer, (rx, answer) ∈ t.stack.answers → ∃ slice,
        loop.next = some slice ∧
        t.stack.memory rx = (slice.read ((read_calls h).outcome t rx)).2.io_buf := by
  have faithful := faithful_of_run spec run
  have delivering := delivering_of_run spec run
  have inv : ReadLoop buf.capacity 0 buf := ⟨fun _ => rfl, Nat.zero_le _⟩
  have alone := faithful.not_pending_of_free free fun e he id c event mine => by
    have receives : e.receives = true := by
      rw [event]
      cases c <;> first | rfl | cases mine
    exact delivering.waiting e he receives id (by rw [event, c.event_result_tx])
  obtain ⟨faithful', loop, ok, underway⟩ := underway_of_run (read_turns buf.capacity) inv
    (fits_read_calls h) spec faithful alone (fun _ _ meets => meets.2) later
  obtain ⟨results, loop', ok', fits', told, same⟩ :=
    underway.settled (read_turns buf.capacity) inv (fits_read_calls h) ok faithful'
  rw [told_read_calls, told_read_calls] at told
  obtain ⟨short, returns⟩ := moved_by_read_exact h ok' fits'
  have recorded : Run (recording step Record.note) KeepsReads (new size interface, .empty)
      (t, r') := run.trans (later.mono fun _ _ meets => meets.1).erase_record
  refine ⟨loop, _, ok, told, short, fun res buf' returned => ?_, fun held => ?_,
    fun rx awaits answer answered => ?_⟩
  · obtain rfl := same (by rw [returned]; rfl)
    obtain rfl : loop = loop' := Except.ok.inj (ok.symm.trans ok')
    exact returns res buf' returned
  · have refers := (sound_of_run recorded.of_recording).owned.refers _ (mem_owners_of_streams held)
    obtain ⟨c, hc⟩ := tcp_of_kind refers.2
    rw [← told, (delivering_of_run spec recorded).returned h]
    rcases (stored_of_run spec recorded).tcp h c ⟨refers.1, tcp_at_eq_some.mpr hc⟩ with
      ⟨-, conserved⟩ | ⟨-, -, -, le⟩
    · exact conserved.prefix_put
    · exact le
  · obtain ⟨slice, -, next, -⟩ := underway.awaited rx awaits
    obtain ⟨value, c, mine, shown, truthful⟩ := underway.truthful faithful' awaits next answered
    obtain ⟨inside, whole⟩ := inside_of_next (read_turns buf.capacity) inv ok next
    rw [value]
    exact ⟨slice, next, read_gives_back mine truthful shown inside whole⟩

open Reference in
/-- `read_exact` of two bytes, which come one by one. -/
def read_two : List Action := [
  .start (some (ack 1 2 [7])) 0 none, .finish,
  .call (.read ⟨⟨0, 0⟩, client_addr 1, server_addr 2⟩ ⟨[0, 0], 0⟩), .generate,
  .start none 0 (some 0), .event, .finish, .return_ 0,
  .call (.read ⟨⟨0, 0⟩, client_addr 1, server_addr 2⟩ ⟨[0], 0⟩), .generate,
  .start none 0 (some 0), .event, .finish, .start (some (ack 1 2 [8, 9])) 0 none, .finish,
  .generate, .start none 0 (some 0), .event, .finish, .return_ 1]

/-- The loop has returned with the first two of the three bytes that arrived. -/
theorem read_exact_returned_two : ∃ (t : System reference) (r : Record) (loop : Loop),
    read_exact ⟨[0, 0], 0⟩ [.ok [7], .ok [8]] = .ok loop ∧
    loop.returned = some (.ok (), ⟨[7, 8], 2⟩) ∧ t.returned r ⟨0, 0⟩ = [7, 8] ∧
    r.arrived Buffers.received ⟨0, 0⟩ = [7, 8, 9] := by
  obtain ⟨⟨s, r⟩, hs, ht⟩ := exists_of_execIf_any (recording step Record.note)
    ((new 64 () : System reference), Record.empty) (fun p a => decide (KeepsReads p a))
    accepted_connection
    (fun p => p.1.futures = [] ∧ p.1.returned p.2 ⟨0, 0⟩ = [] ∧
      (execIf (recording (recording step Record.note) (Session.note (read_calls ⟨0, 0⟩)))
        (fun p a => decide (KeepsReads p.1 a) &&
          p.2.follows (read_calls ⟨0, 0⟩) (read_exact ⟨[0, 0], 0⟩) a)
        (p, .begin_) read_two).any fun q =>
          q.2.results = [.ok [7], .ok [8]] ∧
          q.1.2.arrived Buffers.received ⟨0, 0⟩ = [7, 8, 9] ∧ .tcp ⟨0, 0⟩ ∈ q.1.1.streams)
    (by decide +kernel)
  obtain ⟨idle, nothing, ht⟩ := of_decide_eq_true ht
  obtain ⟨⟨⟨t, r'⟩, sess⟩, later, ht⟩ := (Option.any_eq_true _ _).mp ht
  obtain ⟨results, arrived, held⟩ := of_decide_eq_true ht
  obtain ⟨loop, got, ok, returned, -, returns, next, -⟩ :=
    read_exact_returned reference_spec
      (Run.of_execIf (fun _ _ => of_decide_eq_true) hs) (by simp [show s.futures = [] from idle])
      (Run.of_execIf (fun p a meets => by simpa using meets) later)
  have results : sess.results = [.ok [7], .ok [8]] := results
  rw [results] at ok
  have nothing : s.returned r ⟨0, 0⟩ = [] := nothing
  have arrived : r'.arrived Buffers.received ⟨0, 0⟩ = [7, 8, 9] := arrived
  have front := next held
  cases ok
  have full := (returns _ _ rfl).2.mp rfl
  rw [nothing, List.nil_append] at returned front
  rw [arrived] at front
  have first : got = [7, 8] := by
    rw [List.prefix_iff_eq_take.mp front, full]
    rfl
  exact ⟨t, r', _, rfl, rfl, returned.trans first, arrived⟩

end System

end L3Extract
