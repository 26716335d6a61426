import L3Extract.Stream.Exact
import L3Extract.System.Written

/-!
# Loops at work

The loops of `Stream/Exact.lean` go over lists of results. In the system the results come from the
stack, one at a time, while all others go on with what they do. A `Session` is a task that runs a
loop on a stream: what its calls have come to, and the call that it awaits. It is noted along a run
as the record is, and `Session.follows` says which calls it makes.

The calls of a loop are of one kind (`CallKind`), for which the answers tell what was moved between
the stream and the buffers. As long as no other task makes such calls on the stream, they tell from
the beginning of the session on what the loop has moved: `Underway.step` shows this for a step, and
`underway_of_run` for a run.
-/

namespace L3Extract

open OperationEvent Transition TcpStack

variable {S : Smoltcp} {α : Type}

/-! ## The loop, turn by turn -/

/-- The slice that a loop hands to the call that it awaits. -/
def Loop.next (loop : Loop) : Option Slice :=
  if loop.returned.isNone then loop.handed.getLast? else none

/-- A mapped result is `Ok` if the result is. -/
theorem except_map_eq_ok {ε β γ : Type} {f : β → γ} {x : Except ε β} {c : γ} :
    x.map f = .ok c ↔ ∃ b, x = .ok b ∧ f b = c := by
  cases x with
  | error err => simp [Except.map]
  | ok b => simp [Except.map]

/-- A turn before others leaves what the loop does next. -/
theorem Loop.next_turn {slice : Slice} {loop : Loop} (more : loop.handed ≠ []) :
    (loop.turn slice).next = loop.next := by
  unfold next turn
  rw [List.getLast?_cons_of_ne_nil more]

section Loop

variable {size : α → ℕ} {effect : IoBuf → ℕ → α → IoBuf} {room : Slice → ℕ}
  {call : Slice → Except IoError α → Except IoError ℕ × Slice} {stuck : IoError} {len done : ℕ}
  {buf : IoBuf} {I : ℕ → IoBuf → Prop}

/-- A loop that is not over hands the rest of its buffer to its first call. -/
theorem handed_of_exact_loop (turns : Turns call size effect room len I) (inv : I done buf)
    (left : done < len) {results : List (Except IoError α)} {loop : Loop}
    (ok : exact_loop call stuck len results done buf = .ok loop) :
    ∃ rest, loop.handed = ⟨buf, done, buf.capacity⟩ :: rest := by
  cases results with
  | nil =>
    rw [exact_loop_nil turns inv left] at ok
    cases ok
    exact ⟨[], rfl⟩
  | cons result results =>
    cases result with
    | error err =>
      rw [exact_loop_error turns inv left] at ok
      cases ok
      exact ⟨[], rfl⟩
    | ok a =>
      by_cases zero : size a = 0
      · rw [exact_loop_zero turns inv left zero] at ok
        cases ok
        exact ⟨[], rfl⟩
      · rw [exact_loop_ok turns inv left zero] at ok
        obtain ⟨loop, -, rfl⟩ := except_map_eq_ok.mp ok
        exact ⟨loop.handed, rfl⟩

/-- The slice for the next call spans the rest of its buffer. -/
theorem inside_of_next (turns : Turns call size effect room len I) (inv : I done buf)
    {results : List (Except IoError α)} {loop : Loop} {slice : Slice}
    (ok : exact_loop call stuck len results done buf = .ok loop) (next : loop.next = some slice) :
    slice.Inside ∧ slice.end_ = slice.buffer.capacity := by
  obtain ⟨loop', ok', handed⟩ : ∃ loop', exact_loop call stuck len results done buf =
      .ok loop' ∧ _ := exists_exact_loop turns inv
  obtain rfl : loop = loop' := Except.ok.inj (ok.symm.trans ok')
  unfold Loop.next at next
  split_ifs at next
  obtain ⟨inside, whole, -⟩ := handed slice (List.mem_of_getLast? next)
  exact ⟨inside, whole⟩

/-- A loop that awaits a call has handed it its last slice, and goes on from there. -/
theorem zip_of_next (turns : Turns call size effect room len I) (inv : I done buf)
    {results more : List (Except IoError α)} {loop loop' : Loop} {slice : Slice}
    (ok : exact_loop call stuck len results done buf = .ok loop) (next : loop.next = some slice)
    (ok' : exact_loop call stuck len (results ++ more) done buf = .ok loop') :
    ∃ rest, loop'.handed.zip (results ++ more) =
      loop.handed.zip results ++ (slice :: rest).zip more := by
  -- Over the results: both loops do the same turns as long as there are any.
  induction results generalizing done buf loop loop' with
  | nil =>
    by_cases left : done < len
    · rw [exact_loop_nil turns inv left] at ok
      cases ok
      cases next
      obtain ⟨rest, handed⟩ := handed_of_exact_loop turns inv left ok'
      exact ⟨rest, by rw [handed]; rfl⟩
    · rw [exact_loop_done (Nat.not_lt.mp left)] at ok
      cases ok
      cases next
  | cons result results ih =>
    by_cases left : done < len
    swap
    · rw [exact_loop_done (Nat.not_lt.mp left)] at ok
      cases ok
      cases next
    cases result with
    | error err =>
      rw [exact_loop_error turns inv left] at ok
      cases ok
      cases next
    | ok a =>
      by_cases zero : size a = 0
      · rw [exact_loop_zero turns inv left zero] at ok
        cases ok
        cases next
      rw [List.cons_append] at ok'
      rw [exact_loop_ok turns inv left zero] at ok ok'
      obtain ⟨tail, later, rfl⟩ := except_map_eq_ok.mp ok
      obtain ⟨tail', later', rfl⟩ := except_map_eq_ok.mp ok'
      have inv' := turns.keeps a inv left
      have left' : done + size a < len := by
        by_contra all
        rw [exact_loop_done (Nat.not_lt.mp all)] at later
        cases later
        cases next
      obtain ⟨handed, eq⟩ := handed_of_exact_loop turns inv' left' later
      rw [Loop.next_turn (by rw [eq]; exact List.cons_ne_nil _ _)] at next
      obtain ⟨rest, zip⟩ := ih inv' later next later'
      exact ⟨rest, congrArg (List.cons _) zip⟩

end Loop

/-! ## Calls of one kind -/

/-- The number in the answer to a read or a write. -/
def Reply.count : Reply → ℕ
  | .len n => n
  | _ => 0

/-- The calls that a loop makes on a stream, and what they come to. -/
structure CallKind (α : Type) where
  /-- A call is one of these. -/
  mine : Call → Bool
  /-- What a call comes to when it is answered, by its buffer then. -/
  value : IoBuf → Answer → Except IoError α
  /-- What a call comes to when its event cannot be sent. -/
  send_failed : IoError
  /-- What a call comes to when its result channel is closed without an answer. -/
  receive_failed : IoError
  size : α → ℕ
  room : IoBuf → ℕ
  /-- The bytes that a call moves between the stream and its buffer. -/
  bytes : IoBuf → α → Bytes

/-- `TcpStream::read` on the stream with the handle `h`. -/
def read_calls (h : SocketHandle) : CallKind Bytes where
  mine
    | .read stream _ => stream.handle = h
    | _ => false
  value memory answer := answer.map fun reply => memory.bytes.take reply.count
  send_failed := .message .broken_pipe
    "TcpStack or EventGenerator may be dropped, send read operation event failed"
  receive_failed := .message .broken_pipe
    "TcpStack or EventGenerator may be dropped, receive read operation response failed"
  size := List.length
  room := IoBuf.capacity
  bytes _ data := data

/-- `TcpStream::write` on the stream with the handle `h`. -/
def write_calls (h : SocketHandle) : CallKind ℕ where
  mine
    | .write stream _ => stream.handle = h
    | _ => false
  value _ answer := answer.map Reply.count
  send_failed := .message .broken_pipe
    "TcpStack or EventGenerator may be dropped, send write operation event failed"
  receive_failed := .message .broken_pipe
    "TcpStack or EventGenerator may be dropped, receive write operation response failed"
  size := id
  room := IoBuf.buf_len
  bytes buf n := buf.as_slice.take n

/-- A task that runs a loop: what its calls have come to, and the one that it awaits. -/
structure Session (α : Type) where
  results : List (Except IoError α)
  awaits : Option ResultTx
  deriving DecidableEq

/-- A loop that begins. -/
def Session.begin_ : Session α := ⟨[], none⟩

namespace CallKind

variable (k : CallKind α)

/-- The bytes that a call moved, by what it came to. -/
def moved (buf : IoBuf) (result : Except IoError α) : Bytes :=
  result.toOption.elim [] (k.bytes buf)

/-- The bytes that the calls of a loop moved. -/
def moved_by (loop : Loop) (results : List (Except IoError α)) : Bytes :=
  (loop.handed.zip results).flatMap fun p => k.moved p.1.io_buf p.2

/-- What a call comes to that returns now. -/
def outcome (s : System S) (rx : ResultTx) : Except IoError α :=
  match s.stack.answers.lookup rx with
  | some answer => k.value (s.stack.memory rx) answer
  | none => .error k.receive_failed

/-- What an answer tells the caller of one of these calls. -/
def tells (s : System S) (r : Record) (a : ResultTx × Answer) : Bytes :=
  match r.calls[a.1]? with
  | some c => if k.mine c then k.moved c.buf (k.value (s.stack.memory a.1) a.2) else []
  | none => []

/-- What the callers were told, in the order of the answers. -/
def told (s : System S) (r : Record) : Bytes := s.stack.answers.flatMap (k.tells s r)

/-- What the caller of the given call was told, if the call was answered. -/
def told_to (s : System S) (r : Record) (rx : ResultTx) : Bytes :=
  (s.stack.answers.lookup rx).elim [] fun answer => k.tells s r (rx, answer)

/-- No call comes to more than there is room for. -/
def Fits : Prop :=
  ∀ {r : Record} {id : ResultTx} {memory : IoBuf} {c : Call} {a : Answer}, k.mine c = true →
    Truthful r id memory c a → ∀ x ∈ (k.value memory a).toOption, k.size x ≤ k.room c.buf

end CallKind

namespace Session

/-- The session after one more step. -/
def note (k : CallKind α) (sess : Session α) (p : System S × Record) (a : Action)
    (_ : System S × Record) : Session α :=
  match a with
  | .call c =>
    if k.mine c then
      if p.1.stack.operation_event.connected then { sess with awaits := some p.1.issued.length }
      else { sess with results := sess.results ++ [.error k.send_failed] }
    else sess
  | .return_ rx =>
    if sess.awaits = some rx then ⟨sess.results ++ [k.outcome p.1 rx], none⟩ else sess
  | _ => sess

/-- The calls of its kind are those of the loop: each comes when the one before has returned, and
brings the slice that the loop hands to it. -/
def follows (k : CallKind α) (loop : List (Except IoError α) → Except Panic Loop)
    (sess : Session α) : Action → Bool
  | .call c => !k.mine c || (sess.awaits.isNone &&
      (loop sess.results).toOption.any fun l => l.next.map Slice.io_buf = some c.buf)
  | _ => true

end Session

/-! ## What the answers tell -/

namespace System

/-- A step answers only requests that were pending. -/
theorem answers_of_step (spec : S.Spec) {s s' : System S} {a : Action} (h : s.step a = some s') :
    ∃ new, s'.stack.answers = s.stack.answers ++ new ∧
      ∀ x ∈ new, ∃ e ∈ s.pending, e.result_tx = some x.1 := by
  -- Requests that are declined.
  have declined : ∀ {pool}, Silent s.stack pool s'.stack → (∀ e ∈ pool, e ∈ s.pending) →
      ∃ new, s'.stack.answers = s.stack.answers ++ new ∧
        ∀ x ∈ new, ∃ e ∈ s.pending, e.result_tx = some x.1 := by
    intro pool silent hpool
    obtain ⟨new, answers, declines⟩ := silent.answers
    refine ⟨new, answers, fun x hx => ?_⟩
    obtain ⟨e, he, hdec⟩ := declines x hx
    exact ⟨e, hpool e he, hdec.1⟩
  cases traffic_of_step spec h with
  | silent silent cause issues issued => exact declined silent mem_pending_of_stack
  | called c cause issues connected eq =>
    subst eq
    exact ⟨[], (List.append_nil _).symm, by simp⟩
  | handled e action next dealt cause issues issued =>
    have pending := mem_pending_of_next next
    cases dealt with
    | silent silent buffers => exact declined silent (mem_pending_of_handled next)
    | eof handle buffer tx c event found socket drained shut eq =>
      refine ⟨[(tx, .ok (.len 0))], by rw [eq]; rfl, fun x hx => ⟨e, pending, ?_⟩⟩
      rw [List.mem_singleton.mp hx, event]
      rfl
    | served tx ans s₀ s₁ memory result_tx found socket serves eq =>
      refine ⟨[(tx, ans)], by rw [eq]; rfl, fun x hx => ⟨e, pending, ?_⟩⟩
      rw [List.mem_singleton.mp hx, result_tx]

end System

/-- A key that is in no pair is not found. -/
theorem lookup_eq_none_of_notMem {β : Type} {l : List (ℕ × β)} {key : ℕ}
    (absent : key ∉ l.map Prod.fst) : l.lookup key = none := by
  rw [List.lookup_eq_none_iff]
  intro x hx
  refine bne_iff_ne.mpr fun same => absent ?_
  exact List.mem_map.mpr ⟨x, hx, same.symm⟩

/-- What is found is in the list. -/
theorem mem_of_lookup {β : Type} {l : List (ℕ × β)} {key : ℕ} {b : β}
    (found : l.lookup key = some b) : (key, b) ∈ l := by
  obtain ⟨l₁, l₂, eq, -⟩ := List.lookup_eq_some_iff.mp found
  rw [eq]
  simp

/-- What is in a list without repeated keys is found. -/
theorem lookup_of_mem {β : Type} {l : List (ℕ × β)} (nodup : (l.map Prod.fst).Nodup) {key : ℕ}
    {b : β} (mem : (key, b) ∈ l) : l.lookup key = some b := by
  have there : (l.lookup key).isSome = true :=
    List.lookup_isSome_iff.mpr ⟨(key, b), mem, beq_self_eq_true key⟩
  obtain ⟨b', found⟩ := Option.isSome_iff_exists.mp there
  have same := List.inj_on_of_nodup_map nodup mem (mem_of_lookup found) rfl
  rw [found, (Prod.mk.inj same).2]

/-- Of a list by keys only what the given key has counts. -/
theorem flatMap_eq_lookup {β γ : Type} {l : List (ℕ × β)} (nodup : (l.map Prod.fst).Nodup)
    {f : ℕ × β → List γ} {key : ℕ} (others : ∀ x ∈ l, x.1 ≠ key → f x = []) :
    l.flatMap f = (l.lookup key).elim [] fun b => f (key, b) := by
  induction l with
  | nil => rfl
  | cons x l ih =>
    obtain ⟨i, b⟩ := x
    rw [List.map_cons, List.nodup_cons] at nodup
    have tail := ih nodup.2 fun x hx => others x (List.mem_cons_of_mem _ hx)
    rw [List.flatMap_cons, tail, List.lookup_cons]
    by_cases hi : key = i
    · subst hi
      rw [lookup_eq_none_of_notMem nodup.1, beq_self_eq_true]
      simp
    · rw [others (i, b) List.mem_cons_self (Ne.symm hi), beq_false_of_ne hi]
      rfl

namespace CallKind

variable {k : CallKind α} {s s' : System S} {r : Record} {a : Action}

/-- An answer tells the caller what it is to its own call. -/
theorem tells_of_call {id : ℕ} {c : Call} (call : r.calls[id]? = some c) (mine : k.mine c = true)
    (answer : Answer) :
    k.tells s r (id, answer) = k.moved c.buf (k.value (s.stack.memory id) answer) := by
  simp only [tells, call, mine, if_true]

/-- What the caller was told is what the call comes to. -/
theorem told_to_of_call {id : ℕ} {c : Call} (call : r.calls[id]? = some c)
    (mine : k.mine c = true) : k.told_to s r id = k.moved c.buf (k.outcome s id) := by
  unfold told_to outcome
  cases s.stack.answers.lookup id with
  | none => rfl
  | some answer => exact tells_of_call call mine answer

/-- What an answer tells does not change. -/
theorem tells_step (spec : S.Spec) (faithful : System.Faithful s r) (h : s.step a = some s')
    {x : ResultTx × Answer} (hx : x ∈ s.stack.answers) :
    k.tells s' (r.note s a s') x = k.tells s r x := by
  obtain ⟨c, hc, -⟩ := faithful.answered x.1 x.2 hx
  have memory := faithful.memory_step spec h (List.mem_map.mpr ⟨x, hx, rfl⟩)
  simp only [tells, hc, System.call_note hc, memory]

/-- When all pending calls of the kind are the one that is awaited, a step tells its caller only. -/
theorem told_step (spec : S.Spec) (faithful : System.Faithful s r)
    (faithful' : System.Faithful s' (r.note s a s')) (h : s.step a = some s')
    {awaits : Option ResultTx} (alone : ∀ e ∈ s.pending, ∀ (id : ℕ) c, e.result_tx = some id →
      r.calls[id]? = some c → k.mine c = true → awaits = some id) {front : Bytes}
    (told : k.told s r = front ++ awaits.elim [] (k.told_to s r)) :
    k.told s' (r.note s a s') = front ++ awaits.elim [] (k.told_to s' (r.note s a s')) := by
  obtain ⟨new, answers, pending⟩ := System.answers_of_step spec h
  have old : s.stack.answers.flatMap (k.tells s' (r.note s a s')) = k.told s r :=
    List.flatMap_congr fun x hx => tells_step spec faithful h hx
  -- Other calls are not of this kind.
  have others : ∀ x ∈ new, awaits ≠ some x.1 → k.tells s' (r.note s a s') x = [] := by
    intro x hx other
    obtain ⟨e, he, hid⟩ := pending x hx
    obtain ⟨c, hc, -⟩ := faithful.tracked.event e he x.1 hid
    have notmine : ¬ k.mine c = true := fun mine => other (alone e he x.1 c hid hc mine)
    simp only [tells, System.call_note hc, if_neg notmine]
  have once := faithful'.tracked.answered_once
  rw [answers, List.map_append, List.nodup_append] at once
  rw [CallKind.told, answers, List.flatMap_append, old, told, List.append_assoc]
  refine congrArg (front ++ ·) ?_
  cases awaits with
  | none =>
    show [] ++ _ = []
    rw [List.nil_append, List.flatMap_eq_nil_iff]
    exact fun x hx => others x hx (by simp)
  | some id =>
    show k.told_to s r id ++ _ = k.told_to s' (r.note s a s') id
    have other : ∀ x ∈ new, x.1 ≠ id → k.tells s' (r.note s a s') x = [] :=
      fun x hx ne => others x hx fun eq => ne (Option.some.inj eq).symm
    rw [flatMap_eq_lookup once.2.1 other, told_to, told_to, answers, List.lookup_append]
    cases found : s.stack.answers.lookup id with
    | none => rfl
    | some answer =>
      have mem := mem_of_lookup found
      have absent : id ∉ new.map Prod.fst :=
        fun again => once.2.2 id (List.mem_map.mpr ⟨_, mem, rfl⟩) id again rfl
      rw [lookup_eq_none_of_notMem absent]
      show k.tells s r (id, answer) ++ [] = k.tells s' (r.note s a s') (id, answer)
      rw [List.append_nil, tells_step spec faithful h mem]

end CallKind

/-- Only a call issues a request. -/
theorem System.call_of_issues {s : System S} {a : Action} {c : Call} (issues : s.issues a = [c]) :
    a = .call c := by
  cases a with
  | call c' =>
    simp only [System.issues] at issues
    split at issues <;> cases issues
    rfl
  | _ => cases issues

/-! ## Step by step -/

section Session

variable {k : CallKind α} {effect : IoBuf → ℕ → α → IoBuf}
  {call : Slice → Except IoError α → Except IoError ℕ × Slice} {stuck : IoError} {len : ℕ}
  {buf : IoBuf} {I : ℕ → IoBuf → Prop} {start : Bytes} {s s' : System S} {r : Record}
  {sess : Session α} {loop : Loop} {a : Action}

/-- What the callers of its kind have been told since a session began is what its calls moved. -/
structure Underway (k : CallKind α) (start : Bytes) (s : System S) (r : Record) (sess : Session α)
    (loop : Loop) : Prop where
  fits : CallsFit k.size (fun slice => k.room slice.io_buf) loop sess.results
  told : k.told s r =
    (start ++ k.moved_by loop sess.results) ++ sess.awaits.elim [] (k.told_to s r)
  /-- The call that is awaited has the next slice. -/
  awaited : ∀ id ∈ sess.awaits, ∃ slice c, loop.next = some slice ∧ r.calls[id]? = some c ∧
    k.mine c = true ∧ c.buf = slice.io_buf
  /-- No other call of the kind is pending. -/
  alone : ∀ e ∈ s.pending, ∀ (id : ℕ) c, e.result_tx = some id → r.calls[id]? = some c →
    k.mine c = true → sess.awaits = some id

/-- A request that is pending after a step was pending before, or is that of the call. -/
theorem pending_call_of_step (spec : S.Spec) (faithful : System.Faithful s r)
    (h : s.step a = some s') {e : OperationEvent} (he : e ∈ s'.pending) {id : ℕ} {c : Call}
    (hid : e.result_tx = some id) (hc : (r.note s a s').calls[id]? = some c) :
    e ∈ s.pending ∧ r.calls[id]? = some c ∨ a = .call c ∧ id = s.issued.length := by
  -- The call of a request that was pending is the same.
  have old : e ∈ s.pending → r.calls[id]? = some c := by
    intro was
    obtain ⟨c', hc', -⟩ := faithful.tracked.event e was id hid
    have same := (System.call_note hc' s a s').symm.trans hc
    rwa [same] at hc'
  have effect := System.effect_of_steps (System.steps_of_step h)
  cases System.traffic_of_step spec h with
  | silent silent cause issues issued =>
    have was := System.request_of_pending effect issued he hid
    exact .inl ⟨was, old was⟩
  | handled e' action next dealt cause issues issued =>
    have was := System.request_of_pending effect issued he hid
    exact .inl ⟨was, old was⟩
  | called c' cause issues connected eq =>
    subst eq
    have pending : (s.issue c').pending ≤ {c'.event s.issued.length} + s.pending :=
      System.pending_le_of (System.pending_send_event_le _ _) le_rfl
    rcases Multiset.mem_add.mp (Multiset.mem_of_le pending he) with new | was
    · rw [Multiset.mem_singleton.mp new, c'.event_result_tx] at hid
      obtain rfl : s.issued.length = id := Option.some.inj hid
      rw [Record.note, issues, ← faithful.tracked.length, List.getElem?_concat_length] at hc
      obtain rfl : c' = c := Option.some.inj hc
      exact .inr ⟨System.call_of_issues issues, rfl⟩
    · exact .inl ⟨was, old was⟩

/-- A call of the loop comes to a result. -/
theorem exists_next_loop (turns : Turns call k.size effect (fun slice => k.room slice.io_buf) len I)
    (inv : I 0 buf) {results : List (Except IoError α)}
    (ok : exact_loop call stuck len results 0 buf = .ok loop)
    (fits : CallsFit k.size (fun slice => k.room slice.io_buf) loop results) {slice : Slice}
    (next : loop.next = some slice) {result : Except IoError α}
    (fit : ∀ x ∈ result.toOption, k.size x ≤ k.room slice.io_buf) :
    ∃ loop', exact_loop call stuck len (results ++ [result]) 0 buf = .ok loop' ∧
      CallsFit k.size (fun slice => k.room slice.io_buf) loop' (results ++ [result]) ∧
      k.moved_by loop' (results ++ [result]) =
        k.moved_by loop results ++ k.moved slice.io_buf result := by
  obtain ⟨loop', ok', -⟩ : ∃ loop', exact_loop call stuck len (results ++ [result]) 0 buf =
      .ok loop' ∧ _ := exists_exact_loop turns inv
  obtain ⟨rest, zip⟩ := zip_of_next turns inv ok next ok'
  rw [List.zip_cons_cons, List.zip_nil_right] at zip
  refine ⟨loop', ok', ?_, ?_⟩
  · intro p hp
    rw [zip] at hp
    rcases List.mem_append.mp hp with hp | hp
    · exact fits p hp
    · rw [List.mem_singleton.mp hp]
      exact fit
  · rw [CallKind.moved_by, zip, List.flatMap_append, List.flatMap_singleton]
    rfl

/-- The session goes on with the result of a call. -/
theorem Underway.result
    (turns : Turns call k.size effect (fun slice => k.room slice.io_buf) len I) (inv : I 0 buf)
    {results : List (Except IoError α)} (ok : exact_loop call stuck len results 0 buf = .ok loop)
    (fits : CallsFit k.size (fun slice => k.room slice.io_buf) loop results) {slice : Slice}
    (next : loop.next = some slice) {result : Except IoError α}
    (fit : ∀ x ∈ result.toOption, k.size x ≤ k.room slice.io_buf)
    (told : k.told s r = (start ++ k.moved_by loop results) ++ k.moved slice.io_buf result)
    (alone : ∀ e ∈ s.pending, ∀ (id : ℕ) c, e.result_tx = some id → r.calls[id]? = some c →
      ¬ k.mine c = true) :
    ∃ loop', exact_loop call stuck len (results ++ [result]) 0 buf = .ok loop' ∧
      Underway k start s r ⟨results ++ [result], none⟩ loop' := by
  obtain ⟨loop', ok', fits', moves⟩ := exists_next_loop turns inv ok fits next fit
  refine ⟨loop', ok', fits', ?_, by simp, ?_⟩
  · rw [told, moves, Option.elim_none, List.append_nil, List.append_assoc]
  · intro e he id c hid hc mine
    exact absurd mine (alone e he id c hid hc)

/-- What the answer to the awaited call says is true of what it has brought. -/
theorem Underway.truthful (underway : Underway k start s r sess loop)
    (faithful : System.Faithful s r) {rx : ResultTx} (awaits : sess.awaits = some rx)
    {slice : Slice} (next : loop.next = some slice) {answer : Answer}
    (answered : (rx, answer) ∈ s.stack.answers) :
    k.outcome s rx = k.value (s.stack.memory rx) answer ∧
    ∃ c, k.mine c = true ∧ c.buf = slice.io_buf ∧
      Truthful r rx (s.stack.memory rx) c answer := by
  obtain ⟨slice', c, next', hc, mine, shown⟩ := underway.awaited rx awaits
  obtain rfl : slice = slice' := Option.some.inj (next.symm.trans next')
  obtain ⟨c', hc', truthful⟩ := faithful.answered rx answer answered
  obtain rfl : c = c' := Option.some.inj (hc.symm.trans hc')
  refine ⟨?_, c, mine, shown, truthful⟩
  unfold CallKind.outcome
  rw [lookup_of_mem faithful.tracked.answered_once answered]

/-- What the awaited call comes to fits into what it has brought. -/
theorem Underway.outcome_fits (fits : k.Fits) (underway : Underway k start s r sess loop)
    (faithful : System.Faithful s r) {rx : ResultTx} (awaits : sess.awaits = some rx)
    {slice : Slice} (next : loop.next = some slice) :
    ∀ x ∈ (k.outcome s rx).toOption, k.size x ≤ k.room slice.io_buf := by
  intro x hx
  cases found : s.stack.answers.lookup rx with
  | none => simp [CallKind.outcome, found, Except.toOption] at hx
  | some answer =>
    obtain ⟨value, c, mine, shown, truthful⟩ :=
      underway.truthful faithful awaits next (mem_of_lookup found)
    rw [value] at hx
    rw [← shown]
    exact fits mine truthful x hx

/-- What the callers were told is what the loop moves when the awaited call returns now. -/
theorem Underway.settled
    (turns : Turns call k.size effect (fun slice => k.room slice.io_buf) len I) (inv : I 0 buf)
    (fits : k.Fits) (ok : exact_loop call stuck len sess.results 0 buf = .ok loop)
    (underway : Underway k start s r sess loop) (faithful : System.Faithful s r) :
    ∃ results loop', exact_loop call stuck len results 0 buf = .ok loop' ∧
      CallsFit k.size (fun slice => k.room slice.io_buf) loop' results ∧
      k.told s r = start ++ k.moved_by loop' results ∧
      (loop.returned.isSome = true → results = sess.results) := by
  cases awaits : sess.awaits with
  | none =>
    refine ⟨sess.results, loop, ok, underway.fits, ?_, fun _ => rfl⟩
    rw [underway.told, awaits, Option.elim_none, List.append_nil]
  | some rx =>
    obtain ⟨slice, c, next, hc, mine, shown⟩ := underway.awaited rx awaits
    obtain ⟨loop', ok', fits', moves⟩ := exists_next_loop turns inv ok underway.fits next
      (underway.outcome_fits fits faithful awaits next)
    refine ⟨_, loop', ok', fits', ?_, fun returned => ?_⟩
    · rw [underway.told, moves, awaits, Option.elim_some, CallKind.told_to_of_call hc mine, shown,
        List.append_assoc]
    · simp [Loop.next, Option.isSome_iff_ne_none.mp returned] at next

/-- A step is no call of the kind, and not the return of the call that is awaited. -/
theorem Underway.other (spec : S.Spec) (underway : Underway k start s r sess loop)
    (faithful : System.Faithful s r) (faithful' : System.Faithful s' (r.note s a s'))
    (h : s.step a = some s') (other : ∀ c, a = .call c → ¬ k.mine c = true) :
    Underway k start s' (r.note s a s') sess loop where
  fits := underway.fits
  told := CallKind.told_step spec faithful faithful' h underway.alone underway.told
  awaited id hid := by
    obtain ⟨slice, c, next, hc, mine, shown⟩ := underway.awaited id hid
    exact ⟨slice, c, next, System.call_note hc s a s', mine, shown⟩
  alone e he id c hid hc mine := by
    rcases pending_call_of_step spec faithful h he hid hc with ⟨was, hc⟩ | ⟨action, -⟩
    · exact underway.alone e was id c hid hc mine
    · exact absurd mine (other c action)

/-- The next call of the loop. -/
theorem Underway.called (spec : S.Spec) (underway : Underway k start s r sess loop)
    (faithful : System.Faithful s r) (faithful' : System.Faithful s' (r.note s a s'))
    (h : s.step a = some s') {c : Call} (issues : s.issues a = [c]) (eq : s' = s.issue c)
    (mine : k.mine c = true) (idle : sess.awaits = none) {slice : Slice}
    (next : loop.next = some slice) (shown : slice.io_buf = c.buf) :
    Underway k start s' (r.note s a s') { sess with awaits := some s.issued.length } loop where
  fits := underway.fits
  told := by
    have told := CallKind.told_step spec faithful faithful' h underway.alone underway.told
    have unanswered : s'.stack.answers.lookup s.issued.length = none := by
      refine lookup_eq_none_of_notMem fun answered => ?_
      rw [eq] at answered
      obtain ⟨x, hx, same⟩ := List.mem_map.mp answered
      obtain ⟨c', hc', -⟩ := faithful.answered x.1 x.2 hx
      have below := (List.getElem?_eq_some_iff.mp hc').1
      rw [faithful.tracked.length] at below
      omega
    rw [told, idle, Option.elim_some, CallKind.told_to, unanswered]
    rfl
  awaited id hid := by
    obtain rfl : s.issued.length = id := Option.some.inj hid
    refine ⟨slice, c, next, ?_, mine, shown.symm⟩
    rw [Record.note, issues, ← faithful.tracked.length, List.getElem?_concat_length]
  alone e he id c' hid hc mine' := by
    rcases pending_call_of_step spec faithful h he hid hc with ⟨was, hc⟩ | ⟨-, rfl⟩
    · have awaits := underway.alone e was id c' hid hc mine'
      rw [idle] at awaits
      cases awaits
    · rfl

/-- The next call of the loop finds no receiver for its event. -/
theorem Underway.refused (turns : Turns call k.size effect (fun slice => k.room slice.io_buf) len I)
    (inv : I 0 buf) (ok : exact_loop call stuck len sess.results 0 buf = .ok loop)
    (spec : S.Spec) (underway : Underway k start s r sess loop)
    (faithful : System.Faithful s r) (faithful' : System.Faithful s (r.note s a s))
    (h : s.step a = some s) (issues : s.issues a = []) (idle : sess.awaits = none) {slice : Slice}
    (next : loop.next = some slice) :
    ∃ loop', exact_loop call stuck len (sess.results ++ [.error k.send_failed]) 0 buf = .ok loop' ∧
      Underway k start s (r.note s a s) ⟨sess.results ++ [.error k.send_failed], none⟩ loop' := by
  have told := CallKind.told_step spec faithful faithful' h underway.alone underway.told
  rw [idle] at told
  refine Underway.result turns inv ok underway.fits next (by rintro x ⟨⟩) told ?_
  intro e he id c hid hc mine
  rw [Record.note, issues, List.append_nil] at hc
  have awaits := underway.alone e he id c hid hc mine
  rw [idle] at awaits
  cases awaits

/-- The call that is awaited returns. -/
theorem Underway.returned
    (turns : Turns call k.size effect (fun slice => k.room slice.io_buf) len I)
    (inv : I 0 buf) (fits : k.Fits) (ok : exact_loop call stuck len sess.results 0 buf = .ok loop)
    (spec : S.Spec) (underway : Underway k start s r sess loop)
    (faithful : System.Faithful s r) (faithful' : System.Faithful s' (r.note s a s'))
    {rx : ResultTx} (action : a = .return_ rx) (h : s.step a = some s')
    (awaits : sess.awaits = some rx) :
    ∃ loop', exact_loop call stuck len (sess.results ++ [k.outcome s rx]) 0 buf = .ok loop' ∧
      Underway k start s' (r.note s a s') ⟨sess.results ++ [k.outcome s rx], none⟩ loop' := by
  have told := CallKind.told_step spec faithful faithful' h underway.alone underway.told
  obtain ⟨slice, c, next, hc, mine, shown⟩ := underway.awaited rx awaits
  subst action
  simp only [System.step] at h
  split_ifs at h with returns
  cases h
  rw [awaits, Option.elim_some, CallKind.told_to_of_call (System.call_note hc s _ _) mine, shown]
    at told
  refine Underway.result turns inv ok underway.fits next
    (underway.outcome_fits fits faithful awaits next) told ?_
  -- A request whose call may return is not pending any more.
  intro e he id c' hid hc' mine'
  simp only [Record.note, System.issues, List.append_nil] at hc'
  have alone := underway.alone e he id c' hid hc' mine'
  obtain rfl : rx = id := Option.some.inj (awaits.symm.trans alone)
  rcases returns.2 with answered | closed
  · exact faithful.tracked.not_answered he hid answered
  · exact closed ((Multiset.mem_filterMap _ _).mpr ⟨e, he, hid⟩)

/-- Every step keeps what holds of a session that follows its loop. -/
theorem Underway.step
    (turns : Turns call k.size effect (fun slice => k.room slice.io_buf) len I)
    (inv : I 0 buf) (fits : k.Fits) (ok : exact_loop call stuck len sess.results 0 buf = .ok loop)
    (spec : S.Spec) (underway : Underway k start s r sess loop)
    (faithful : System.Faithful s r) (faithful' : System.Faithful s' (r.note s a s'))
    (h : s.step a = some s')
    (follows : sess.follows k (exact_loop call stuck len · 0 buf) a = true) :
    ∃ loop', exact_loop call stuck len (sess.note k (s, r) a (s', r.note s a s')).results 0 buf =
        .ok loop' ∧
      Underway k start s' (r.note s a s') (sess.note k (s, r) a (s', r.note s a s')) loop' := by
  have other : (∀ c, a = .call c → ¬ k.mine c = true) → ∃ loop',
      exact_loop call stuck len sess.results 0 buf = .ok loop' ∧
        Underway k start s' (r.note s a s') sess loop' :=
    fun other => ⟨loop, ok, underway.other spec faithful faithful' h other⟩
  cases a with
  | call c =>
    by_cases mine : k.mine c = true
    swap
    · simp only [Session.note, mine]
      exact other fun c' eq => by cases eq; exact mine
    simp only [Session.follows, mine, ok, Except.toOption, Option.any_some, Bool.not_true,
      Bool.false_or, Bool.and_eq_true, Option.isNone_iff_eq_none, decide_eq_true_eq] at follows
    obtain ⟨idle, next⟩ := follows
    obtain ⟨slice, next, shown⟩ := Option.map_eq_some_iff.mp next
    simp only [Session.note, mine, if_true]
    cases System.steps_of_step h with
    | called c' action held connected eq =>
      cases action
      rw [if_pos connected]
      exact ⟨loop, ok, underway.called spec faithful faithful' h (if_pos connected) eq mine idle
        next shown⟩
    | refused c' action connected eq =>
      cases action
      subst eq
      have issues : s'.issues (.call c) = [] := if_neg (by simp [connected])
      rw [if_neg (by simp [connected]), idle]
      exact underway.refused turns inv ok spec faithful faithful' h issues idle next
    | returned futures action => rcases action with ⟨rx, action⟩ | ⟨rx, action⟩ <;> cases action
    | _ => contradiction
  | return_ rx =>
    by_cases awaits : sess.awaits = some rx
    · simp only [Session.note, awaits, if_true]
      exact underway.returned turns inv fits ok spec faithful faithful' rfl h awaits
    · simp only [Session.note, awaits, if_false]
      exact other fun c eq => by cases eq
  | _ => exact other fun c eq => by cases eq

/-- What holds of a session in every run in which it follows its loop, while there was no other call
of the kind when it began. -/
theorem underway_of_run
    (turns : Turns call k.size effect (fun slice => k.room slice.io_buf) len I) (inv : I 0 buf)
    (fits : k.Fits) (spec : S.Spec) (faithful : System.Faithful s r)
    (free : ∀ e ∈ s.pending, ∀ (id : ℕ) c, e.result_tx = some id → r.calls[id]? = some c →
      ¬ k.mine c = true) {guard : (System S × Record) × Session α → Action → Prop}
    {t : System S} {r' : Record}
    (follows : ∀ p a, guard p a → p.2.follows k (exact_loop call stuck len · 0 buf) a = true)
    (run : Run (recording (recording System.step Record.note) (Session.note k)) guard
      ((s, r), .begin_) ((t, r'), sess)) :
    System.Faithful t r' ∧ ∃ loop, exact_loop call stuck len sess.results 0 buf = .ok loop ∧
      Underway k (k.told s r) t r' sess loop := by
  refine run.invariant (I := fun p => System.Faithful p.1.1 p.1.2 ∧ ∃ loop,
    exact_loop call stuck len p.2.results 0 buf = .ok loop ∧
      Underway k (k.told s r) p.1.1 p.1.2 p.2 loop) ⟨faithful, ?_⟩ ?_
  · obtain ⟨loop, ok, -⟩ : ∃ loop, exact_loop call stuck len [] 0 buf = .ok loop ∧ _ :=
      exists_exact_loop turns inv
    have nothing : loop.handed.zip ([] : List (Except IoError α)) = [] := List.zip_nil_right
    refine ⟨loop, ok, ?_, ?_, by simp [Session.begin_], ?_⟩
    · simp [CallsFit, Session.begin_]
    · simp [CallKind.moved_by, Session.begin_]
    · intro e he id c hid hc mine
      exact absurd mine (free e he id c hid hc)
  · rintro ⟨⟨s, r⟩, sess⟩ a ⟨⟨s', q⟩, sess'⟩ - meets h ⟨faithful, loop, ok, underway⟩
    obtain ⟨recorded, noted⟩ := recording_eq_some.mp h
    obtain ⟨steps, note⟩ := recording_eq_some.mp recorded
    dsimp only at note noted steps
    subst note noted
    have faithful' := faithful.step spec steps
    exact ⟨faithful', underway.step turns inv fits ok spec faithful faithful' steps
      (follows _ _ meets)⟩

end Session

/-- Where no caller waits for a call of the kind, and pending calls have their callers, none is
pending. -/
theorem System.Faithful.not_pending_of_free {k : CallKind α} {s : System S} {r : Record}
    (faithful : System.Faithful s r)
    (free : ∀ f ∈ s.futures, ∀ c ∈ r.calls[f.rx]?, k.mine c = false)
    (waits : ∀ e ∈ s.pending, ∀ (id : ℕ) c, e = c.event id → k.mine c = true →
      ⟨e.handle, id⟩ ∈ s.futures) :
    ∀ e ∈ s.pending, ∀ (id : ℕ) c, e.result_tx = some id → r.calls[id]? = some c →
      ¬ k.mine c = true := by
  intro e he id c hid hc mine
  obtain ⟨c', hc', event⟩ := faithful.tracked.event e he id hid
  obtain rfl : c = c' := Option.some.inj (hc.symm.trans hc')
  rw [free _ (waits e he id c event mine) c hc] at mine
  cases mine

end L3Extract
