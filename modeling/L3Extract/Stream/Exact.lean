import L3Extract.Smoltcp.Spec
import L3Extract.Stack.Outcome
import L3Extract.Stream.Slice

/-!
# `read_exact` and `write_all`

Both functions loop over the slices of one buffer: each turn hands the slice behind what is done to
`read` or `write`, takes the buffer back from it, and goes on by the number that the call returned.
The results of the calls are a list here, so that a theorem about all lists is one about every stack
and every peer. A loop that comes to the end of the list awaits its next call.

`exact_loop` is the loop, for calls that come to values of any type. `Turns` says what its calls
have to keep, and `Goes` how it goes then: `exists_exact_loop` and `exists_goes` show it by
induction over the results. `read_exact_fills` and `write_all_sends` are the two uses, and
`read_of_serves` and `write_of_serves` tie the calls to the requests that the stack serves.
-/

namespace L3Extract

/-- What a call of `TcpStream::read` comes to: an error, or `Ok(n)` with the `n` bytes that the
stack wrote to the start of the buffer. -/
abbrev ReadResult := Except IoError Bytes

/-- What a call of `TcpStream::write` comes to: an error, or the number of bytes that the stack took
over from the start of the buffer. -/
abbrev WriteResult := Except IoError ℕ

/-- What a loop has done: what it returned, if it does not await a call, and the slices that it
handed to its calls, in order. -/
structure Loop where
  returned : Option (Except IoError Unit × IoBuf)
  handed : List Slice
  deriving DecidableEq

/-- The loop with one more turn before. -/
def Loop.turn (slice : Slice) (rest : Loop) : Loop := { rest with handed := slice :: rest.handed }

/-- `TcpStream::read` of a slice, by what it comes to: its result, and the slice that it gives
back. -/
def Slice.read (s : Slice) : ReadResult → Except IoError ℕ × Slice
  | .ok data => (.ok data.length, s.fill data)
  | .error err => (.error err, s)

/-- `TcpStream::write` of a slice, by what it comes to. -/
def Slice.write (s : Slice) : WriteResult → Except IoError ℕ × Slice
  | .ok n => (.ok n, s)
  | .error err => (.error err, s)

/-- The loop of `read_exact` and of `write_all` up to `len`, with `done` bytes done. The error
`stuck` is for a call that returns `Ok(0)`. -/
def exact_loop {α : Type} (call : Slice → Except IoError α → Except IoError ℕ × Slice)
    (stuck : IoError) (len : ℕ) : List (Except IoError α) → ℕ → IoBuf → Except Panic Loop
  | results, done, buf =>
    if done < len then do
      let slice ← buf.slice done
      match results with
      | [] => return ⟨none, [slice]⟩
      | result :: results =>
        match call slice result with
        | (.error err, slice') => return ⟨some (.error err, slice'.into_inner), [slice]⟩
        | (.ok 0, slice') => return ⟨some (.error stuck, slice'.into_inner), [slice]⟩
        | (.ok n, slice') =>
          return (← exact_loop call stuck len results (done + n) slice'.into_inner).turn slice
    else return ⟨some (.ok (), buf), []⟩

/-- "failed to fill whole buffer" -/
def unexpected_eof : IoError := .message .unexpected_eof "failed to fill whole buffer"

/-- "failed to write whole buffer" -/
def write_zero : IoError := .message .write_zero "failed to write whole buffer"

/-- `read_exact`, which goes up to the capacity of the buffer. -/
def read_exact (buf : IoBuf) (results : List ReadResult) : Except Panic Loop :=
  exact_loop Slice.read unexpected_eof buf.capacity results 0 buf

/-- `write_all`, which goes up to the end of what is initialized. -/
def write_all (buf : IoBuf) (results : List WriteResult) : Except Panic Loop :=
  exact_loop Slice.write write_zero buf.buf_len results 0 buf

/-- A slice starts inside its buffer, and not behind its initialized bytes. -/
def Slice.Inside (s : Slice) : Prop :=
  s.begin_ < s.buffer.capacity ∧ s.begin_ ≤ s.buffer.buf_len

/-! ## The loop -/

section Loop

variable {α : Type} {size : α → ℕ} {effect : IoBuf → ℕ → α → IoBuf} {room : Slice → ℕ}
  {call : Slice → Except IoError α → Except IoError ℕ × Slice} {stuck : IoError} {len done : ℕ}
  {buf : IoBuf} {I : ℕ → IoBuf → Prop} {results : List (Except IoError α)}

/-- What a loop up to `len` needs of its calls. A call that comes to `a` returns `size a` and has an
`effect` on the buffer. It keeps the invariant `I`, by which there is a slice for the next turn,
with as much `room` as is left to do. -/
structure Turns (call : Slice → Except IoError α → Except IoError ℕ × Slice) (size : α → ℕ)
    (effect : IoBuf → ℕ → α → IoBuf) (room : Slice → ℕ) (len : ℕ)
    (I : ℕ → IoBuf → Prop) : Prop where
  call_ok : ∀ s a, call s (.ok a) = (.ok (size a), { s with buffer := effect s.buffer s.begin_ a })
  call_error : ∀ s err, call s (.error err) = (.error err, s)
  inside : ∀ {done buf}, I done buf → done < len → (⟨buf, done, buf.capacity⟩ : Slice).Inside
  keeps : ∀ {done buf} a, I done buf → done < len → I (done + size a) (effect buf done a)
  empty : ∀ {done buf a}, I done buf → size a = 0 → effect buf done a = buf
  room : ∀ {done buf}, I done buf → done < len → room ⟨buf, done, buf.capacity⟩ = len - done

/-- No call returns more than there is room for in the slice that it was handed. -/
def CallsFit (size : α → ℕ) (room : Slice → ℕ) (loop : Loop) (results : List (Except IoError α)) :
    Prop :=
  ∀ p ∈ loop.handed.zip results, ∀ a ∈ p.2.toOption, size a ≤ room p.1

instance {loop : Loop} : Decidable (CallsFit size room loop results) :=
  inferInstanceAs (Decidable (∀ p ∈ loop.handed.zip results, ∀ a ∈ p.2.toOption, size a ≤ room p.1))

/-- The buffer after calls that came to the values `as`. -/
def effects (size : α → ℕ) (effect : IoBuf → ℕ → α → IoBuf) : ℕ → IoBuf → List α → IoBuf
  | _, buf, [] => buf
  | done, buf, a :: as => effects size effect (done + size a) (effect buf done a) as

/-- The turns of a loop in which calls come to the values `as`: the slices handed to them, and what
they come to. -/
def course_turns (size : α → ℕ) (effect : IoBuf → ℕ → α → IoBuf) :
    ℕ → IoBuf → List α → List (Slice × Except IoError α)
  | _, _, [] => []
  | done, buf, a :: as =>
    (⟨buf, done, buf.capacity⟩, .ok a) ::
      course_turns size effect (done + size a) (effect buf done a) as

/-- How a loop goes: the values `as` that its calls come to up to the last, and what it returns,
with the buffer after them. -/
inductive Course (size : α → ℕ) (stuck : IoError) (left : ℕ) (results : List (Except IoError α))
    (returned : Option (Except IoError Unit × IoBuf)) (after : IoBuf) (as : List α) : Prop
  | awaits (calls : results = as.map .ok) (short : (as.map size).sum < left)
      (returns : returned = none)
  | done (rest : List (Except IoError α)) (calls : results = as.map .ok ++ rest)
      (full : (as.map size).sum = left) (returns : returned = some (.ok (), after))
  | failed (last : Except IoError α) (rest : List (Except IoError α)) (err : IoError)
      (calls : results = as.map .ok ++ last :: rest)
      (last_eq : last = .error err ∨ (∃ a, last = .ok a ∧ size a = 0) ∧ err = stuck)
      (short : (as.map size).sum < left) (returns : returned = some (.error err, after))

/-- One more call before the others. -/
theorem Course.cons {left : ℕ} {returned : Option (Except IoError Unit × IoBuf)} {after : IoBuf}
    {as : List α} {a : α} (course : Course size stuck (left - size a) results returned after as)
    (fits : size a ≤ left) :
    Course size stuck left (.ok a :: results) returned after (a :: as) := by
  have sum : ((a :: as).map size).sum = size a + (as.map size).sum := by simp
  cases course with
  | awaits calls short returns => exact .awaits (by rw [calls]; rfl) (by omega) returns
  | done rest calls full returns => exact .done rest (by rw [calls]; rfl) (by omega) returns
  | failed last rest err calls last_eq short returns =>
    exact .failed last rest err (by rw [calls]; rfl) last_eq (by omega) returns

/-- With nothing left to do the loop returns `Ok`. -/
theorem exact_loop_done (h : len ≤ done) :
    exact_loop call stuck len results done buf = .ok ⟨some (.ok (), buf), []⟩ := by
  rw [exact_loop, if_neg (Nat.not_lt.mpr h)]
  rfl

/-- A slice that starts inside the buffer is made. -/
theorem slice_eq (inside : (⟨buf, done, buf.capacity⟩ : Slice).Inside) :
    buf.slice done = .ok ⟨buf, done, buf.capacity⟩ := if_pos inside

/-- The loop awaits the call whose result is not there. -/
theorem exact_loop_nil (turns : Turns call size effect room len I) (inv : I done buf)
    (more : done < len) :
    exact_loop call stuck len [] done buf = .ok ⟨none, [⟨buf, done, buf.capacity⟩]⟩ := by
  rw [exact_loop, if_pos more, slice_eq (turns.inside inv more)]
  rfl

/-- The loop returns the error of a call. -/
theorem exact_loop_error (turns : Turns call size effect room len I) (inv : I done buf)
    (more : done < len) (err : IoError) :
    exact_loop call stuck len (.error err :: results) done buf =
      .ok ⟨some (.error err, buf), [⟨buf, done, buf.capacity⟩]⟩ := by
  rw [exact_loop, if_pos more, slice_eq (turns.inside inv more)]
  simp only [bind, Except.bind, turns.call_error]
  rfl

/-- The loop returns its own error after a call that did nothing. -/
theorem exact_loop_zero (turns : Turns call size effect room len I) (inv : I done buf)
    (more : done < len) {a : α} (zero : size a = 0) :
    exact_loop call stuck len (.ok a :: results) done buf =
      .ok ⟨some (.error stuck, buf), [⟨buf, done, buf.capacity⟩]⟩ := by
  rw [exact_loop, if_pos more, slice_eq (turns.inside inv more)]
  simp only [bind, Except.bind, turns.call_ok, zero, turns.empty inv zero]
  rfl

/-- After a call that did something the loop goes on behind that. -/
theorem exact_loop_ok (turns : Turns call size effect room len I) (inv : I done buf)
    (more : done < len) {a : α} (some_ : size a ≠ 0) :
    exact_loop call stuck len (.ok a :: results) done buf =
      (exact_loop call stuck len results (done + size a) (effect buf done a)).map
        (Loop.turn ⟨buf, done, buf.capacity⟩) := by
  rw [exact_loop, if_pos more, slice_eq (turns.inside inv more)]
  obtain ⟨n, hn⟩ := Nat.exists_eq_succ_of_ne_zero some_
  simp only [bind, Except.bind, turns.call_ok, hn, Slice.into_inner]
  cases exact_loop call stuck len results (done + n.succ) (effect buf done a) <;> rfl

/-- The loop never panics: all slices start inside the buffer and its initialized bytes. -/
theorem exists_exact_loop (turns : Turns call size effect room len I) (inv : I done buf) :
    ∃ loop, exact_loop call stuck len results done buf = .ok loop ∧
      ∀ s ∈ loop.handed, s.Inside ∧ s.end_ = s.buffer.capacity ∧ I s.begin_ s.buffer := by
  -- Over the results; the invariant carries the loop to the next turn.
  induction results generalizing done buf with
  | nil =>
    by_cases more : done < len
    · exact ⟨_, exact_loop_nil turns inv more, by simpa using ⟨turns.inside inv more, inv⟩⟩
    · exact ⟨_, exact_loop_done (Nat.not_lt.mp more), by simp⟩
  | cons result results ih =>
    by_cases more : done < len
    swap
    · exact ⟨_, exact_loop_done (Nat.not_lt.mp more), by simp⟩
    have inside := turns.inside inv more
    cases result with
    | error err => exact ⟨_, exact_loop_error turns inv more err, by simpa using ⟨inside, inv⟩⟩
    | ok a =>
      by_cases zero : size a = 0
      · exact ⟨_, exact_loop_zero turns inv more zero, by simpa using ⟨inside, inv⟩⟩
      · obtain ⟨loop, hloop, handed⟩ := ih (turns.keeps a inv more)
        refine ⟨loop.turn ⟨buf, done, buf.capacity⟩, ?_, fun s hs => ?_⟩
        · rw [exact_loop_ok turns inv more zero, hloop]
          rfl
        · rcases List.mem_cons.mp hs with rfl | hs
          · exact ⟨inside, rfl, inv⟩
          · exact handed s hs

/-- A loop that goes a course, in which every call before the last does something. -/
structure Goes (size : α → ℕ) (effect : IoBuf → ℕ → α → IoBuf) (stuck : IoError) (len done : ℕ)
    (buf : IoBuf) (results : List (Except IoError α)) (loop : Loop) (as : List α) : Prop where
  progress : ∀ a ∈ as, size a ≠ 0
  course : Course size stuck (len - done) results loop.returned (effects size effect done buf as) as
  turns : ∃ last, loop.handed.zip results = course_turns size effect done buf as ++ last ∧
    ∀ p ∈ last, ∀ a, p.2 = .ok a → size a = 0

/-- Where nothing is left to do the course is over. -/
theorem goes_of_done (all : len ≤ done) (le : done ≤ len) {loop : Loop}
    (ok : exact_loop call stuck len results done buf = .ok loop) :
    Goes size effect stuck len done buf results loop [] := by
  rw [exact_loop_done all] at ok
  cases ok
  have nothing : (([] : List α).map size).sum = len - done := by simp; omega
  exact ⟨by simp, .done results rfl nothing rfl, [], rfl, by simp⟩

/-- A loop whose calls fit goes a course. -/
theorem exists_goes (turns : Turns call size effect room len I) (inv : I done buf)
    (le : done ≤ len) {loop : Loop} (ok : exact_loop call stuck len results done buf = .ok loop)
    (fit : CallsFit size room loop results) :
    ∃ as, Goes size effect stuck len done buf results loop as := by
  -- Over the results. A turn that does something leaves that much less to the turns after it.
  induction results generalizing done buf loop with
  | nil =>
    by_cases more : done < len
    · rw [exact_loop_nil turns inv more] at ok
      cases ok
      exact ⟨[], by simp, .awaits rfl (Nat.sub_pos_of_lt more) rfl, [], rfl, by simp⟩
    · exact ⟨[], goes_of_done (Nat.not_lt.mp more) le ok⟩
  | cons result results ih =>
    by_cases more : done < len
    swap
    · exact ⟨[], goes_of_done (Nat.not_lt.mp more) le ok⟩
    cases result with
    | error err =>
      rw [exact_loop_error turns inv more] at ok
      cases ok
      exact ⟨[], by simp, .failed _ results err rfl (.inl rfl) (Nat.sub_pos_of_lt more) rfl,
        [_], rfl, by simp⟩
    | ok a =>
      by_cases zero : size a = 0
      · rw [exact_loop_zero turns inv more zero] at ok
        cases ok
        exact ⟨[], by simp, .failed _ results _ rfl (.inr ⟨⟨a, rfl, zero⟩, rfl⟩)
          (Nat.sub_pos_of_lt more) rfl, [_], rfl, by simpa using zero⟩
      · rw [exact_loop_ok turns inv more zero] at ok
        cases rest : exact_loop call stuck len results (done + size a) (effect buf done a) with
        | error p =>
          rw [rest] at ok
          cases ok
        | ok loop' =>
          rw [rest] at ok
          cases ok
          have fits : size a ≤ len - done := by
            have := fit _ List.mem_cons_self a rfl
            rwa [turns.room inv more] at this
          have fit' : CallsFit size room loop' results :=
            fun p hp => fit p (List.mem_cons_of_mem _ hp)
          obtain ⟨as, progress, course, last, handed, nothing⟩ :=
            ih (turns.keeps a inv more) (by omega) rest fit'
          refine ⟨a :: as, List.forall_mem_cons.mpr ⟨zero, progress⟩, Course.cons ?_ fits,
            last, ?_, nothing⟩
          · rwa [Nat.sub_sub]
          · exact congrArg (List.cons _) handed

/-- A loop returns, at the latest after as many calls as there is to do. -/
theorem Goes.returns {loop : Loop} {as : List α}
    (goes : Goes size effect stuck len done buf results loop as)
    (enough : len - done ≤ results.length) : loop.returned ≠ none := by
  intro none
  cases goes.course with
  | awaits calls short returns =>
    have count : as.length ≤ (as.map size).sum := by
      have := List.length_le_sum_of_one_le (as.map size) (by
        simpa using fun a ha => Nat.one_le_iff_ne_zero.mpr (goes.progress a ha))
      rwa [List.length_map] at this
    rw [calls, List.length_map] at enough
    omega
  | done rest calls full returns => simp [none] at returns
  | failed last rest err calls last_eq short returns => simp [none] at returns

end Loop

/-! ## `read_exact` -/

/-- What `read_exact` returns, where the calls before the last delivered `chunks`. -/
structure ReadsExactly (buf : IoBuf) (results : List ReadResult)
    (returned : Option (Except IoError Unit × IoBuf)) (chunks : List Bytes) : Prop where
  awaits : returned = none → results = chunks.map .ok ∧ chunks.flatten.length < buf.capacity
  ok : ∀ buf', returned = some (.ok (), buf') →
    (∃ rest, results = chunks.map .ok ++ rest) ∧ chunks.flatten.length = buf.capacity ∧
      buf' = ⟨chunks.flatten, buf.capacity⟩
  error : ∀ err buf', returned = some (.error err, buf') →
    (∃ last rest, results = chunks.map .ok ++ last :: rest ∧
      (last = .error err ∨ last = .ok [] ∧ err = unexpected_eof)) ∧
      chunks.flatten.length < buf.capacity ∧ buf' = buf.fill chunks.flatten

section ReadExact

variable {buf : IoBuf} {len done : ℕ} {chunks : List Bytes}

/-- What the loop of `read_exact` keeps: the buffer, and that it is initialized up to `done`. -/
def ReadLoop (len done : ℕ) (buf : IoBuf) : Prop :=
  (done < len → buf.capacity = len) ∧ done ≤ buf.buf_len

/-- The loop of `read_exact` keeps its invariant. -/
theorem read_turns (len : ℕ) :
    Turns Slice.read List.length IoBuf.write_at (fun s => s.io_buf.capacity) len
      (ReadLoop len) where
  call_ok _ _ := rfl
  call_error _ _ := rfl
  inside := by
    intro done buf inv more
    have capacity := inv.1 more
    exact ⟨more.trans_eq capacity.symm, inv.2⟩
  keeps := by
    intro done buf data inv more
    refine ⟨fun more' => ?_, ?_⟩
    · have capacity := inv.1 more
      rw [IoBuf.capacity_write_at (by omega), capacity]
    · simp only [IoBuf.write_at]
      omega
  empty := by
    intro done buf data inv zero
    rw [List.eq_nil_of_length_eq_zero zero, IoBuf.write_at_nil inv.2]
  room := by
    intro done buf inv more
    rw [← inv.1 more]
    simp [Slice.io_buf, IoBuf.capacity]

/-- Chunks that are written one behind the other are one write. -/
theorem effects_write_at (fits : done + chunks.flatten.length ≤ buf.capacity)
    (filled : done ≤ buf.buf_len) :
    effects List.length IoBuf.write_at done buf chunks = buf.write_at done chunks.flatten := by
  induction chunks generalizing done buf with
  | nil => exact (IoBuf.write_at_nil filled).symm
  | cons data chunks ih =>
    rw [List.flatten_cons, List.length_append] at fits
    have capacity : (buf.write_at done data).capacity = buf.capacity :=
      IoBuf.capacity_write_at (by omega)
    have filled' : done + data.length ≤ (buf.write_at done data).buf_len := le_max_right _ _
    rw [effects, ih (by rw [capacity]; omega) filled', IoBuf.write_at_write_at (by omega),
      List.flatten_cons]

/-- A buffer that was filled up to its capacity. -/
theorem fill_eq_of_length_eq {data : Bytes} (valid : buf.Valid)
    (full : data.length = buf.capacity) :
    buf.fill data = ⟨data, buf.capacity⟩ := by
  have bytes : buf.bytes.drop data.length = [] := List.drop_of_length_le (le_of_eq full.symm)
  refine IoBuf.ext ?_ ?_
  · rw [IoBuf.fill, bytes, List.append_nil]
  · rw [IoBuf.fill, full]
    exact max_eq_right valid

/-- `read_exact` returns, and all slices start inside the buffer and its initialized bytes. `Ok`
comes with the first bytes that the reads delivered, as many as fit, and an error with all bytes
that were delivered, in front of what the buffer held behind them. -/
theorem read_exact_fills (valid : buf.Valid) (results : List ReadResult) :
    ∃ loop, read_exact buf results = .ok loop ∧ (∀ s ∈ loop.handed, s.Inside) ∧
      (CallsFit List.length (fun s => s.io_buf.capacity) loop results →
        (buf.capacity ≤ results.length → loop.returned ≠ none) ∧
          ∃ chunks, ReadsExactly buf results loop.returned chunks) := by
  have inv : ReadLoop buf.capacity 0 buf := ⟨fun _ => rfl, Nat.zero_le _⟩
  obtain ⟨loop, hloop, handed⟩ : ∃ loop, read_exact buf results = .ok loop ∧ _ :=
    exists_exact_loop (read_turns buf.capacity) inv
  refine ⟨loop, hloop, fun s hs => (handed s hs).1, fun fit => ?_⟩
  obtain ⟨chunks, goes⟩ := exists_goes (read_turns buf.capacity) inv (Nat.zero_le _) hloop fit
  refine ⟨fun enough => goes.returns (by omega), chunks, ?_⟩
  -- The turns fill the buffer from its start, without a gap.
  have after : chunks.flatten.length ≤ buf.capacity →
      effects List.length IoBuf.write_at 0 buf chunks = buf.fill chunks.flatten := by
    intro fits
    rw [effects_write_at (by omega) (Nat.zero_le _), IoBuf.write_at_zero]
  have course := goes.course
  rw [Nat.sub_zero] at course
  cases course with
  | awaits calls short returns =>
    rw [← List.length_flatten] at short
    exact {
      awaits := fun _ => ⟨calls, short⟩
      ok := by simp [returns]
      error := by simp [returns] }
  | done rest calls full returns =>
    rw [← List.length_flatten] at full
    rw [after (le_of_eq full), fill_eq_of_length_eq valid full] at returns
    exact {
      awaits := by simp [returns]
      ok := by
        intro buf' eq
        rw [returns] at eq
        cases eq
        exact ⟨⟨rest, calls⟩, full, rfl⟩
      error := by simp [returns] }
  | failed last rest err calls last_eq short returns =>
    rw [← List.length_flatten] at short
    rw [after (le_of_lt short)] at returns
    exact {
      awaits := by simp [returns]
      ok := by simp [returns]
      error := by
        intro err' buf' eq
        rw [returns] at eq
        cases eq
        refine ⟨⟨last, rest, calls, last_eq.imp id ?_⟩, short, rfl⟩
        rintro ⟨⟨data, rfl, zero⟩, rfl⟩
        exact ⟨by rw [List.eq_nil_of_length_eq_zero zero], rfl⟩ }

/-- Reads of one and of three bytes fill a buffer of four. -/
theorem read_exact_fills_chunks :
    ∃ chunks, ReadsExactly ⟨[0, 0, 0, 0], 2⟩ [.ok [7], .ok [8, 9, 10]]
      (some (.ok (), ⟨[7, 8, 9, 10], 4⟩)) chunks := by
  have valid : (⟨[0, 0, 0, 0], 2⟩ : IoBuf).Valid := by simp [IoBuf.Valid, IoBuf.capacity]
  obtain ⟨loop, hloop, -, fills⟩ := read_exact_fills valid [.ok [7], .ok [8, 9, 10]]
  cases hloop
  exact (fills (by decide)).2

end ReadExact

/-! ## `write_all` -/

/-- The bytes that the stack accepts in a call: as many as the call returns, from the start of the
slice. -/
def accepted_of : Slice × WriteResult → Bytes
  | (s, .ok n) => s.io_buf.as_slice.take n
  | (_, .error _) => []

/-- The bytes that the stack accepts. -/
def accepted (handed : List Slice) (results : List WriteResult) : Bytes :=
  (handed.zip results).flatMap accepted_of

section WriteAll

variable {buf : IoBuf} {done : ℕ} {sent : List ℕ}

/-- What the loop of `write_all` keeps: the buffer. -/
theorem write_turns (valid : buf.Valid) :
    Turns Slice.write id (fun buf _ _ => buf) (fun s => s.io_buf.buf_len) buf.buf_len
      (fun _ buf' => buf' = buf) where
  call_ok _ _ := rfl
  call_error _ _ := rfl
  inside := by
    rintro done _ rfl more
    exact ⟨more.trans_le valid, le_of_lt more⟩
  keeps := by
    rintro done _ n rfl more
    rfl
  empty := by
    rintro done _ n rfl zero
    rfl
  room := by
    rintro done _ rfl more
    simp only [Slice.io_buf]
    rw [min_eq_left valid]

/-- Calls without an effect leave the buffer as it is. -/
theorem effects_const :
    effects id (fun buf _ _ => buf) done buf sent = buf := by
  induction sent generalizing done with
  | nil => rfl
  | cons n sent ih => exact ih

/-- A slice shows the initialized bytes from its start on. -/
theorem as_slice_io_buf (valid : buf.Valid) (i : ℕ) :
    (⟨buf, i, buf.capacity⟩ : Slice).io_buf.as_slice = buf.as_slice.drop i := by
  have length : min buf.buf_len buf.bytes.length = buf.buf_len := min_eq_left valid
  simp only [Slice.io_buf, IoBuf.as_slice, IoBuf.capacity, List.take_length, List.drop_take, length]

/-- What is accepted in a course is the initialized bytes from `done` on, as many as the calls
returned. -/
theorem accepted_of_course (valid : buf.Valid) :
    (course_turns id (fun buf _ _ => buf) done buf sent).flatMap accepted_of =
      (buf.as_slice.drop done).take sent.sum := by
  induction sent generalizing done with
  | nil => simp [course_turns]
  | cons n sent ih =>
    rw [course_turns, List.flatMap_cons, id, ih, List.sum_cons, accepted_of, as_slice_io_buf valid,
      List.take_add, List.drop_drop]

/-- A call that returns an error or nothing accepts nothing. -/
theorem accepted_of_nothing {p : Slice × WriteResult} (h : ∀ n, p.2 = .ok n → id n = 0) :
    accepted_of p = [] := by
  obtain ⟨s, result⟩ := p
  cases result with
  | error err => rfl
  | ok n =>
    have zero : n = 0 := h n rfl
    rw [accepted_of, zero, List.take_zero]

/-- What `write_all` returns, where the stack accepted the bytes `sent`. An error is that of a call,
or `write_zero` after a call that returned `Ok(0)`; the calls before it accepted all of `sent`. -/
structure WritesAll (buf : IoBuf) (results : List WriteResult)
    (returned : Option (Except IoError Unit × IoBuf)) (sent : Bytes) : Prop where
  in_front : sent <+: buf.as_slice
  ok_iff : (∃ buf', returned = some (.ok (), buf')) ↔ sent = buf.as_slice
  unchanged : ∀ res buf', returned = some (res, buf') → buf' = buf
  awaits : returned = none → ∃ counts : List ℕ, results = counts.map .ok ∧ counts.sum = sent.length
  ok : ∀ buf', returned = some (.ok (), buf') →
    ∃ (counts : List ℕ) (rest : List WriteResult), results = counts.map .ok ++ rest ∧
      counts.sum = sent.length
  error : ∀ err buf', returned = some (.error err, buf') →
    ∃ (counts : List ℕ) (last : WriteResult) (rest : List WriteResult),
      results = counts.map .ok ++ last :: rest ∧ counts.sum = sent.length ∧
      (last = .error err ∨ last = .ok 0 ∧ err = write_zero)

/-- `write_all` returns, and all slices show initialized bytes of the buffer. What the stack
accepted is in front of these, and is all of them if and only if `write_all` returns `Ok`. An error
comes from the last call, which returned it or accepted nothing. -/
theorem write_all_sends (valid : buf.Valid) (results : List WriteResult) :
    ∃ loop, write_all buf results = .ok loop ∧
      (∀ s ∈ loop.handed, s.Inside ∧ s.io_buf.as_slice = buf.as_slice.drop s.begin_) ∧
      (CallsFit id (fun s => s.io_buf.buf_len) loop results →
        (buf.buf_len ≤ results.length → loop.returned ≠ none) ∧
          WritesAll buf results loop.returned (accepted loop.handed results)) := by
  obtain ⟨loop, hloop, handed⟩ : ∃ loop, write_all buf results = .ok loop ∧ _ :=
    exists_exact_loop (write_turns valid) rfl
  refine ⟨loop, hloop, fun s hs => ?_, fun fit => ?_⟩
  · obtain ⟨inside, end_, same⟩ := handed s hs
    have slice : s = ⟨buf, s.begin_, buf.capacity⟩ := by rw [← same, ← end_]
    refine ⟨inside, ?_⟩
    rw [slice, as_slice_io_buf valid]
  obtain ⟨sent, goes⟩ := exists_goes (write_turns valid) rfl (Nat.zero_le _) hloop fit
  refine ⟨fun enough => goes.returns (by omega), ?_⟩
  -- What the turns sent is the front of the data.
  have front : accepted loop.handed results = buf.as_slice.take sent.sum := by
    obtain ⟨last, turns, nothing⟩ := goes.turns
    have rest : last.flatMap accepted_of = [] := by
      rw [List.flatMap_eq_nil_iff]
      exact fun p hp => accepted_of_nothing (nothing p hp)
    rw [accepted, turns, List.flatMap_append, accepted_of_course valid, rest, List.append_nil,
      List.drop_zero]
  have length : buf.as_slice.length = buf.buf_len := by
    rw [IoBuf.as_slice, List.length_take]
    exact min_eq_left valid
  -- Less than the whole was sent by a loop that ended early.
  have whole : sent.sum < buf.buf_len → accepted loop.handed results ≠ buf.as_slice := by
    intro short eq
    rw [front] at eq
    have := congrArg List.length eq
    rw [List.length_take, length] at this
    omega
  have count : sent.sum ≤ buf.buf_len →
      sent.sum = (accepted loop.handed results).length := by
    intro le
    rw [front, List.length_take, length, min_eq_left le]
  have course := goes.course
  rw [Nat.sub_zero, effects_const] at course
  cases course with
  | awaits calls short returns =>
    rw [List.map_id] at short
    exact {
      in_front := front ▸ List.take_prefix _ _
      ok_iff := by simp [returns, whole short]
      unchanged := by simp [returns]
      awaits := fun _ => ⟨sent, calls, count (le_of_lt short)⟩
      ok := by simp [returns]
      error := by simp [returns] }
  | done rest calls full returns =>
    rw [List.map_id] at full
    exact {
      in_front := front ▸ List.take_prefix _ _
      ok_iff := by
        rw [front, full, ← length, List.take_length]
        simp [returns]
      unchanged := by
        intro res buf' eq
        rw [returns] at eq
        cases eq
        rfl
      awaits := by simp [returns]
      ok := fun _ _ => ⟨sent, rest, calls, count (le_of_eq full)⟩
      error := by simp [returns] }
  | failed last rest err calls last_eq short returns =>
    rw [List.map_id] at short
    exact {
      in_front := front ▸ List.take_prefix _ _
      ok_iff := by simp [returns, whole short]
      unchanged := by
        intro res buf' eq
        rw [returns] at eq
        cases eq
        rfl
      awaits := by simp [returns]
      ok := by simp [returns]
      error := by
        intro err' buf' eq
        rw [returns] at eq
        cases eq
        refine ⟨sent, last, rest, calls, count (le_of_lt short), last_eq.imp id ?_⟩
        rintro ⟨⟨n, rfl, zero⟩, rfl⟩
        have zero : n = 0 := zero
        exact ⟨by rw [zero], rfl⟩ }

/-- The stack accepts two of the three bytes of a buffer with room for four, and then nothing. -/
theorem write_all_sends_short :
    WritesAll ⟨[1, 2, 3, 0], 3⟩ [.ok 2, .ok 0]
      (some (.error write_zero, ⟨[1, 2, 3, 0], 3⟩)) [1, 2] := by
  have valid : (⟨[1, 2, 3, 0], 3⟩ : IoBuf).Valid := by simp [IoBuf.Valid, IoBuf.capacity]
  obtain ⟨loop, hloop, -, sends⟩ := write_all_sends valid [.ok 2, .ok 0]
  cases hloop
  exact (sends (by decide)).2

end WriteAll

/-! ## The calls at the stack

The slice that a call is handed is a buffer of the stack while the request is on its way.
-/

section Calls

variable {S : Smoltcp} {t : TcpStack S} {handle : SocketHandle} {buffer : BufferId} {tx : ResultTx}
  {s : Slice} {socket socket' : S.Socket} {memory : BufferId → IoBuf} {a : Answer}

/-- A read that the stack serves is a call of `Slice.read`, which fits. -/
theorem read_of_serves (spec : S.Spec) (inside : s.Inside) (whole : s.end_ = s.buffer.capacity)
    (shown : t.memory buffer = s.io_buf)
    (serves : t.Serves (.read handle buffer tx) socket socket' memory a) :
    ∃ result : ReadResult, memory buffer = (s.read result).2.io_buf ∧
      a = (s.read result).1.map Reply.len ∧
      ∀ data ∈ result.toOption, data.length ≤ s.io_buf.capacity := by
  have order : s.begin_ ≤ s.end_ := whole ▸ le_of_lt inside.1
  cases serves with
  | @read _ _ _ c queued =>
    rw [shown]
    have receives := spec.recv_slice_buffers c s.io_buf.capacity
    cases res : (S.tcp.recv_slice c s.io_buf.capacity).2 with
    | ok data =>
      have fits := (receives.moved res).1
      refine ⟨.ok data, ?_, rfl, fun data' eq => ?_⟩
      · have filled : t.filled buffer id (.ok data) buffer = (t.memory buffer).fill data := by
          simp [TcpStack.filled, TcpStack.fill]
        rw [filled, shown, Slice.read, Slice.io_buf_fill order (le_of_eq whole) fits]
      · cases eq
        exact fits
    | error err =>
      have kept : t.filled buffer id (.error err) buffer = s.io_buf := shown
      rw [kept]
      cases err with
      | finished =>
        have nothing : s.fill [] = s := by
          rw [Slice.fill, IoBuf.write_at_nil inside.2]
        exact ⟨.ok [], by rw [Slice.read, nothing], rfl, by rintro _ ⟨⟩; exact Nat.zero_le _⟩
      | _ => exact ⟨.error _, rfl, rfl, by rintro _ ⟨⟩⟩

/-- A write that the stack serves is a call of `Slice.write`, which fits. -/
theorem write_of_serves (spec : S.Spec) (shown : t.memory buffer = s.io_buf)
    (serves : t.Serves (.write handle buffer tx) socket socket' memory a) :
    ∃ result : WriteResult, memory buffer = (s.write result).2.io_buf ∧
      a = (s.write result).1.map Reply.len ∧ ∀ n ∈ result.toOption, n ≤ s.io_buf.buf_len := by
  cases serves with
  | @write _ _ _ c can_send =>
    rw [shown]
    have sends := spec.send_slice_buffers c s.io_buf.as_slice
    cases res : (S.tcp.send_slice c s.io_buf.as_slice).2 with
    | ok n =>
      refine ⟨.ok n, rfl, rfl, fun n' eq => ?_⟩
      cases eq
      have le := (sends.ok n res).1
      rw [IoBuf.as_slice, List.length_take] at le
      exact le.trans (min_le_left _ _)
    | error err => exact ⟨.error _, rfl, rfl, by rintro _ ⟨⟩⟩

end Calls

end L3Extract
