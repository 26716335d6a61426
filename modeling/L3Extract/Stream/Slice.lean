import L3Extract.Stack.Event
import Mathlib.Data.List.Basic

/-!
# Slices of a buffer

`read_exact` and `write_all` of `src/tcp_stack/tcp.rs` hand their buffer to the stack slice by
slice. `Slice` is `compio_buf::Slice`, which owns its buffer and gives it back. What the stack does
to a slice it does to the buffer that `Slice.io_buf` shows it, through `SharedBuf`: `io_buf_fill`
says that this is a write to the whole buffer behind the start of the slice.
-/

namespace L3Extract

/-- The initialized bytes of a buffer are among its bytes. -/
def IoBuf.Valid (buf : IoBuf) : Prop := buf.buf_len ≤ buf.capacity

/-- The buffer after `data` was written to it from offset `i` on. `set_buf_init` initializes it up
to there, and never less than before. -/
def IoBuf.write_at (buf : IoBuf) (i : ℕ) (data : Bytes) : IoBuf where
  bytes := buf.bytes.take i ++ (data ++ buf.bytes.drop (i + data.length))
  buf_len := max buf.buf_len (i + data.length)

/-- `compio_buf::Slice`: a buffer of which the bytes from `begin_` up to `end_` are shown. -/
structure Slice where
  buffer : IoBuf
  begin_ : ℕ
  end_ : ℕ
  deriving DecidableEq, Repr

/-- `IoBuf::slice` with the range `begin_..`, which asserts its bounds. -/
def IoBuf.slice (buf : IoBuf) (begin_ : ℕ) : Except Panic Slice :=
  if begin_ < buf.capacity ∧ begin_ ≤ buf.buf_len then .ok ⟨buf, begin_, buf.capacity⟩
  else .error .index_out_of_bounds

namespace Slice

/-- The slice as a buffer: it spans up to `end_`, and its `as_slice` ends where the initialized
bytes of the whole buffer do. -/
def io_buf (s : Slice) : IoBuf where
  bytes := (s.buffer.bytes.take s.end_).drop s.begin_
  buf_len := min s.buffer.buf_len s.end_ - s.begin_

/-- The slice after `data` was written to the start of its `as_slice_mut` and `set_initiated_len`
was called with the length of `data`. -/
def fill (s : Slice) (data : Bytes) : Slice :=
  { s with buffer := s.buffer.write_at s.begin_ data }

/-- `into_inner` -/
def into_inner (s : Slice) : IoBuf := s.buffer

end Slice

/-! ## Writes -/

variable {buf : IoBuf}

/-- Writing into a buffer leaves its capacity. -/
theorem IoBuf.capacity_write_at {i : ℕ} {data : Bytes} (h : i + data.length ≤ buf.capacity) :
    (buf.write_at i data).capacity = buf.capacity := by
  simp only [write_at, capacity, List.length_append, List.length_take, List.length_drop] at h ⊢
  omega

/-- Writing nothing inside the initialized bytes changes nothing. -/
theorem IoBuf.write_at_nil {i : ℕ} (h : i ≤ buf.buf_len) : buf.write_at i [] = buf := by
  simp [write_at, max_eq_left h]

/-- A write behind another one is one write. -/
theorem IoBuf.write_at_write_at {i : ℕ} {data data' : Bytes}
    (h : i + data.length ≤ buf.capacity) :
    (buf.write_at i data).write_at (i + data.length) data' = buf.write_at i (data ++ data') := by
  set front := buf.bytes.take i ++ data with hfront
  have len : front.length = i + data.length := by
    rw [hfront, List.length_append, List.length_take, min_eq_left (by rw [capacity] at h; omega)]
  have bytes : (buf.write_at i data).bytes = front ++ buf.bytes.drop front.length := by
    rw [len, hfront, List.append_assoc]
    rfl
  have twice : ((buf.write_at i data).write_at (i + data.length) data').bytes =
      front ++ (data' ++ buf.bytes.drop (front.length + data'.length)) := by
    rw [write_at, bytes, ← len, List.take_left, List.drop_length_add_append, List.drop_drop]
  have once : (buf.write_at i (data ++ data')).bytes =
      front ++ (data' ++ buf.bytes.drop (front.length + data'.length)) := by
    rw [write_at, len, hfront, List.length_append, add_assoc, List.append_assoc, List.append_assoc]
  refine IoBuf.ext (twice.trans once.symm) ?_
  simp only [write_at, List.length_append]
  omega

/-- What was written from the start on. -/
theorem IoBuf.write_at_zero (data : Bytes) : buf.write_at 0 data = buf.fill data := by
  simp [write_at, fill]

/-! ## What the stack sees of a slice -/

/-- A write into a slice is a write into the buffer that it shows. -/
theorem Slice.io_buf_fill {s : Slice} {data : Bytes} (order : s.begin_ ≤ s.end_)
    (inside : s.end_ ≤ s.buffer.capacity) (fits : data.length ≤ s.io_buf.capacity) :
    (s.fill data).io_buf = s.io_buf.fill data := by
  have room : s.begin_ + data.length ≤ s.end_ := by
    simp only [IoBuf.capacity, io_buf, List.length_drop, List.length_take] at fits inside
    omega
  have start : (s.buffer.bytes.take s.begin_).length = s.begin_ := by
    rw [List.length_take]
    exact min_eq_left (order.trans inside)
  refine IoBuf.ext ?_ ?_
  · have shown : (s.fill data).io_buf.bytes =
        (data ++ s.buffer.bytes.drop (s.begin_ + data.length)).take (s.end_ - s.begin_) := by
      simp only [io_buf, fill, IoBuf.write_at]
      rw [List.drop_take, List.drop_left' start]
    have after : s.end_ - s.begin_ - data.length = s.end_ - (s.begin_ + data.length) := by omega
    rw [shown, List.take_append, List.take_of_length_le (by omega), after, ← List.drop_take]
    simp only [IoBuf.fill, io_buf, List.drop_drop]
  · simp only [io_buf, fill, IoBuf.write_at, IoBuf.fill]
    omega

end L3Extract
