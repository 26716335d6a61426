import L3Extract.Lib.Threads
import L3Extract.Lib.Transition

/-!
# Wakers that run once

`wake_once_fn` of `src/wake_fn.rs` makes a `Waker` out of a closure that can be called only once.
The closure is in an `AtomicOption` in memory that all clones of the waker share: `wake` takes it
out by `ptr::read` if its `compare_exchange` comes first, and `Drop for AtomicOption` drops it if
nobody took it. Both are unsafe: a closure that is taken twice, or taken and dropped, is a double
free.

Here any number of clones are woken and dropped, by value or by reference, on any number of threads,
which take their atomic operations in any order. `fault` says that an operation touched memory after
it was freed, or a closure that was gone. `wakes_once` shows that this never happens, and what
becomes of the closure: it is called once if a clone is ever woken, and dropped once if none is.
-/

namespace L3Extract

open Transition Threads

/-- An operation of a thread that wakes or drops a waker. -/
inductive WakeOp
  /-- `self.used.compare_exchange(false, true, ..)` in `AtomicOption::take` -/
  | compare_exchange
  /-- `ptr::read(&*self.value)` -/
  | read
  /-- `f()` in `WakeOnceFn::wake` -/
  | call
  /-- `Drop for Arc`: the count goes down. -/
  | release
  /-- `self.used.load(..)` in `Drop for AtomicOption` -/
  | load
  /-- `ManuallyDrop::drop(&mut self.value)` -/
  | drop_value
  /-- The memory that the clones shared is freed. -/
  | free
  deriving DecidableEq

/-- `Arc<WakeOnceFn<F>>`: the memory behind the clones of a waker. -/
structure WakeOnceFn where
  /-- `Arc::strong_count` -/
  strong_count : ℕ
  allocated : Bool
  /-- `AtomicOption::used` -/
  used : Bool
  /-- `AtomicOption::value` has the closure. -/
  value : Bool
  /-- How often the closure was called. -/
  calls : ℕ
  /-- How often the closure was dropped. -/
  drops : ℕ
  /-- An operation needed memory or a closure that was not there any more. -/
  fault : Bool

namespace WakeOnceFn

/-- `wake_once_fn`. -/
def new : WakeOnceFn := ⟨1, true, false, true, 0, 0, false⟩

/-- An operation needs `there`. -/
def need (w : WakeOnceFn) (there : Bool) : WakeOnceFn := { w with fault := w.fault || !there }

/-- What an operation does to the memory. -/
def apply (w : WakeOnceFn) : WakeOp → WakeOnceFn
  | .compare_exchange => { w.need w.allocated with used := true }
  | .read => { w.need (w.allocated && w.value) with value := false }
  | .call => { w with calls := w.calls + 1 }
  | .release => { w.need w.allocated with strong_count := w.strong_count - 1 }
  | .load => w.need w.allocated
  | .drop_value => { w.need (w.allocated && w.value) with value := false, drops := w.drops + 1 }
  | .free => { w.need w.allocated with allocated := false }

/-- What an operation leaves to do. -/
def next (w : WakeOnceFn) : WakeOp → List WakeOp
  | .compare_exchange => if w.used then [] else [.read, .call]
  -- The last clone takes the memory with it, after `Drop for AtomicOption`.
  | .release => if w.strong_count = 1 then [.load] else []
  | .load => if w.used then [.free] else [.drop_value, .free]
  | _ => []

/-- The operations of the threads on the memory. -/
def semantics : Semantics WakeOnceFn WakeOp := ⟨apply, next⟩

end WakeOnceFn

/-- The clones of a waker, and the threads that wake and drop them. -/
structure WakeFn where
  waker : WakeOnceFn
  /-- How many clones there are that no thread wakes or drops. -/
  held : ℕ
  threads : List (List WakeOp)
  /-- Some clone was woken. -/
  woken : Bool

/-- An action on the clones of a waker. -/
inductive WakeAction
  | clone
  /-- `Waker::wake` -/
  | wake
  /-- `Waker::wake_by_ref`: `Wake::wake_by_ref` wakes a clone. -/
  | wake_by_ref
  | drop
  /-- The thread of the given number does its next operation. -/
  | run (i : ℕ)

namespace WakeFn

/-- A new waker. -/
def new : WakeFn := ⟨.new, 1, [], false⟩

/-- The memory with one more clone. -/
def retain (s : WakeFn) : WakeOnceFn :=
  { s.waker.need s.waker.allocated with strong_count := s.waker.strong_count + 1 }

/-- The state after an action, if it is possible. -/
def step (s : WakeFn) : WakeAction → Option WakeFn
  | .clone => if 0 < s.held then some { s with waker := s.retain, held := s.held + 1 } else none
  | .wake =>
    if 0 < s.held then
      some { s with
        held := s.held - 1
        threads := s.threads ++ [[.compare_exchange, .release]]
        woken := true }
    else none
  | .wake_by_ref =>
    if 0 < s.held then
      some { s with
        waker := s.retain
        threads := s.threads ++ [[.compare_exchange, .release]]
        woken := true }
    else none
  | .drop =>
    if 0 < s.held then
      some { s with held := s.held - 1, threads := s.threads ++ [[.release]] }
    else none
  | .run i =>
    match s.threads[i]? with
    | some (op :: ops) =>
      let next := WakeOnceFn.semantics.next s.waker op
      some { s with
        waker := WakeOnceFn.semantics.apply s.waker op
        threads := s.threads.set i (next ++ ops) }
    | _ => none

/-! ## The threads -/

/-- What a thread can still have to do. -/
def shapes : List (List WakeOp) := [
  [], [.compare_exchange, .release], [.read, .call, .release], [.call, .release], [.release],
  [.load], [.drop_value, .free], [.free]]

/-- The weight that counts an operation. -/
def single (o op : WakeOp) : ℕ := if op = o then 1 else 0

/-- How often the threads have the operation still to do. -/
def count (s : WakeFn) (o : WakeOp) : ℕ := weigh (single o) s.threads

/-- A thread that looks at the closure releases its clone later. -/
theorem count_le_release {s : WakeFn} (shape : ∀ ops ∈ s.threads, ops ∈ shapes) :
    s.count .compare_exchange + s.count .read ≤ s.count .release := by
  have each : ∀ ops ∈ shapes, weight (fun op => single .compare_exchange op + single .read op) ops ≤
      weight (single .release) ops := by decide
  rw [count, count, ← weigh_add]
  exact weigh_le_weigh fun ops hops => each ops (shape ops hops)

/-- A thread that drops the closure frees the memory later. -/
theorem count_le_free {s : WakeFn} (shape : ∀ ops ∈ s.threads, ops ∈ shapes) :
    s.count .drop_value ≤ s.count .free := by
  have each : ∀ ops ∈ shapes, weight (single .drop_value) ops ≤ weight (single .free) ops := by
    decide
  exact weigh_le_weigh fun ops hops => each ops (shape ops hops)

/-- A thread that is replaced by another exchanges what it has to do. -/
theorem count_set {s : WakeFn} {i : ℕ} {ops : List WakeOp} (thread : s.threads[i]? = some ops)
    (ops' : List WakeOp) (waker : WakeOnceFn) (o : WakeOp) :
    count { s with waker, threads := s.threads.set i ops' } o + weight (single o) ops =
      s.count o + weight (single o) ops' := weigh_set (single o) thread ops'

/-- A new thread adds what it has to do. -/
theorem count_spawn (s : WakeFn) (ops : List WakeOp) (waker : WakeOnceFn) (held : ℕ) (woken : Bool)
    (o : WakeOp) : count ⟨waker, held, s.threads ++ [ops], woken⟩ o =
      s.count o + weight (single o) ops := weigh_concat (single o) s.threads ops

/-- What holds of the memory, of the clones that are held, of whether one was woken, and of how
often the threads have each operation still to do. -/
structure Account (w : WakeOnceFn) (held : ℕ) (woken : Bool) (n : WakeOp → ℕ) : Prop where
  strong_count : w.strong_count = held + n .release
  /-- As long as there are clones, there is the memory. -/
  alive : 0 < w.strong_count →
    w.allocated = true ∧ n .load = 0 ∧ n .drop_value = 0 ∧ n .free = 0
  /-- After the last clone, one thread frees it. -/
  ending : w.strong_count = 0 → n .load + n .free = w.allocated.toNat
  /-- The closure is in the memory, in a thread, or gone in one way. -/
  closure : w.value.toNat + n .call + w.calls + w.drops = 1 + n .read
  /-- Whoever is about to take it finds it there. -/
  claims : n .read + n .drop_value ≤ w.value.toNat
  unused : w.used = false → w.calls = 0 ∧ n .read = 0 ∧ n .call = 0
  there : w.used = false → 0 < w.strong_count + n .load → w.value = true
  gone : w.used = false → w.strong_count + n .load = 0 → w.value.toNat = n .drop_value
  used : w.used = true → n .drop_value = 0 ∧ w.drops = 0 ∧ w.value.toNat = n .read
  woken : woken = true ↔ w.used = true ∨ 0 < n .compare_exchange
  fault : w.fault = false

/-- The threads have a known shape, and their operations fit to the memory. -/
def Sound (s : WakeFn) : Prop :=
  (∀ ops ∈ s.threads, ops ∈ shapes) ∧ Account s.waker s.held s.woken s.count

/-- A new waker is sound. -/
theorem sound_new : Sound new := by
  refine ⟨by simp [new], ?_⟩
  constructor <;> simp [new, WakeOnceFn.new, count, weigh]

/-- A statement about every operation, one by one. -/
theorem forall_op {P : WakeOp → Prop} : (∀ o, P o) ↔ P .compare_exchange ∧ P .read ∧ P .call ∧
    P .release ∧ P .load ∧ P .drop_value ∧ P .free := by
  refine ⟨fun h => ⟨h _, h _, h _, h _, h _, h _, h _⟩, ?_⟩
  rintro ⟨h₁, h₂, h₃, h₄, h₅, h₆, h₇⟩ o
  cases o <;> assumption

/-- A clone that somebody holds keeps the memory. -/
theorem Account.allocated {w : WakeOnceFn} {held : ℕ} {woken : Bool} {n : WakeOp → ℕ}
    (account : Account w held woken n) (h : 0 < held) : w.allocated = true :=
  (account.alive (by rw [account.strong_count]; omega)).1

/-! Each operation of a thread keeps the account. In each lemma `n` counts what the threads have to
do before it, and `n'` after it.
-/

section Operations

variable {w : WakeOnceFn} {held : ℕ} {woken : Bool} {n n' : WakeOp → ℕ}

/-- The first thread that comes takes the closure, which is still there, as it has a clone. -/
theorem Account.compare_exchange (account : Account w held woken n)
    (le_release : n .compare_exchange + n .read ≤ n .release)
    (n_eq : ∀ o, n' o + weight (single o) [.compare_exchange, .release] =
      n o + weight (single o) (w.next .compare_exchange ++ [.release])) :
    Account (w.apply .compare_exchange) held woken n' := by
  obtain ⟨strong_count, alive, ending, closure, claims, unused, there, gone, used, woken, fault⟩ :=
    account
  simp only [forall_op, weight_cons, weight_append, WakeOnceFn.next] at n_eq
  unfold WakeOnceFn.apply WakeOnceFn.need
  cases taken : w.used with
  | false =>
    simp only [taken, single, weight_cons, weight_nil, ↓reduceIte, reduceCtorEq,
      Bool.false_eq_true, add_zero, zero_add, Nat.add_right_cancel_iff] at n_eq
    constructor <;> grind
  | true =>
    simp only [taken, single, weight_nil, ↓reduceIte, reduceCtorEq, add_zero, zero_add,
      Nat.add_right_cancel_iff] at n_eq
    constructor <;> grind

/-- Reading the value keeps the account. -/
theorem Account.read (account : Account w held woken n)
    (le_release : n .compare_exchange + n .read ≤ n .release)
    (n_eq : ∀ o, n' o + weight (single o) [.read, .call, .release] =
      n o + weight (single o) (w.next .read ++ [.call, .release])) :
    Account (w.apply .read) held woken n' := by
  obtain ⟨strong_count, alive, ending, closure, claims, unused, there, gone, used, woken, fault⟩ :=
    account
  simp only [forall_op, weight_cons, weight_append, WakeOnceFn.next, single, weight_nil, ↓reduceIte,
    reduceCtorEq, add_zero, zero_add, Nat.add_right_cancel_iff] at n_eq
  unfold WakeOnceFn.apply WakeOnceFn.need
  have there : w.value = true := by cases value : w.value <;> grind
  constructor <;> grind

/-- Calling the closure keeps the account. -/
theorem Account.call (account : Account w held woken n)
    (n_eq : ∀ o, n' o + weight (single o) [.call, .release] =
      n o + weight (single o) (w.next .call ++ [.release])) :
    Account (w.apply .call) held woken n' := by
  obtain ⟨strong_count, alive, ending, closure, claims, unused, there, gone, used, woken, fault⟩ :=
    account
  simp only [forall_op, weight_cons, weight_append, WakeOnceFn.next, single, weight_nil, ↓reduceIte,
    reduceCtorEq, add_zero, zero_add, Nat.add_right_cancel_iff] at n_eq
  unfold WakeOnceFn.apply
  constructor <;> grind

/-- The last clone leaves a thread that will free the memory. -/
theorem Account.release (account : Account w held woken n)
    (n_eq : ∀ o, n' o + weight (single o) [.release] =
      n o + weight (single o) (w.next .release ++ [])) :
    Account (w.apply .release) held woken n' := by
  obtain ⟨strong_count, alive, ending, closure, claims, unused, there, gone, used, woken, fault⟩ :=
    account
  simp only [forall_op, weight_cons, weight_append, WakeOnceFn.next] at n_eq
  unfold WakeOnceFn.apply WakeOnceFn.need
  by_cases last : w.strong_count = 1
  · simp only [single, last, weight_cons, weight_nil, ↓reduceIte, reduceCtorEq, add_zero] at n_eq
    constructor <;> grind
  · simp only [single, last, weight_nil, ↓reduceIte, reduceCtorEq, add_zero] at n_eq
    constructor <;> grind

/-- The last thread looks whether the closure was taken. -/
theorem Account.load (account : Account w held woken n) (le_free : n .drop_value ≤ n .free)
    (n_eq : ∀ o, n' o + weight (single o) [.load] = n o + weight (single o) (w.next .load ++ [])) :
    Account (w.apply .load) held woken n' := by
  obtain ⟨strong_count, alive, ending, closure, claims, unused, there, gone, used, woken, fault⟩ :=
    account
  simp only [forall_op, weight_cons, weight_append, WakeOnceFn.next] at n_eq
  unfold WakeOnceFn.apply WakeOnceFn.need
  cases taken : w.used with
  | false =>
    simp only [taken, single, weight_cons, weight_nil, ↓reduceIte, reduceCtorEq,
      Bool.false_eq_true, add_zero, zero_add] at n_eq
    have allocated : w.allocated = true := by cases allocated : w.allocated <;> grind
    have value : w.value.toNat = 1 := by rw [there taken (by omega), Bool.toNat_true]
    rw [allocated, Bool.toNat_true] at ending
    constructor <;> grind
  | true =>
    simp only [taken, single, weight_cons, weight_nil, ↓reduceIte, reduceCtorEq, add_zero] at n_eq
    have allocated : w.allocated = true := by cases allocated : w.allocated <;> grind
    rw [allocated, Bool.toNat_true] at ending
    constructor <;> grind

/-- Dropping the closure keeps the account. -/
theorem Account.drop_value (account : Account w held woken n) (le_free : n .drop_value ≤ n .free)
    (n_eq : ∀ o, n' o + weight (single o) [.drop_value, .free] =
      n o + weight (single o) (w.next .drop_value ++ [.free])) :
    Account (w.apply .drop_value) held woken n' := by
  obtain ⟨strong_count, alive, ending, closure, claims, unused, there, gone, used, woken, fault⟩ :=
    account
  simp only [forall_op, weight_cons, weight_append, WakeOnceFn.next, single, weight_nil, ↓reduceIte,
    reduceCtorEq, add_zero, zero_add, Nat.add_right_cancel_iff] at n_eq
  unfold WakeOnceFn.apply WakeOnceFn.need
  have there : w.value = true := by cases value : w.value <;> grind
  have allocated : w.allocated = true := by cases allocated : w.allocated <;> grind
  constructor <;> grind

/-- Freeing the box keeps the account. -/
theorem Account.free (account : Account w held woken n)
    (n_eq : ∀ o, n' o + weight (single o) [.free] = n o + weight (single o) (w.next .free ++ [])) :
    Account (w.apply .free) held woken n' := by
  obtain ⟨strong_count, alive, ending, closure, claims, unused, there, gone, used, woken, fault⟩ :=
    account
  simp only [forall_op, weight_cons, weight_append, WakeOnceFn.next, single, weight_nil, ↓reduceIte,
    reduceCtorEq, add_zero] at n_eq
  unfold WakeOnceFn.apply WakeOnceFn.need
  have allocated : w.allocated = true := by cases allocated : w.allocated <;> grind
  constructor <;> grind

end Operations

/-- What is left to do after an operation has a known shape again. -/
theorem mem_shapes_of_next (w : WakeOnceFn) {op : WakeOp} {ops : List WakeOp}
    (mem : op :: ops ∈ shapes) : w.next op ++ ops ∈ shapes := by
  have each : ∀ used last : Bool, ∀ ops ∈ shapes, ∀ op ∈ ops.head?,
      WakeOnceFn.next ⟨last.toNat, true, used, true, 0, 0, false⟩ op ++ ops.tail
        ∈ shapes := by decide
  have known := each w.used (decide (w.strong_count = 1)) _ mem op rfl
  cases op <;> simp_all [WakeOnceFn.next]

/-- A thread's next operation keeps the account. -/
theorem Account.run {w : WakeOnceFn} {held : ℕ} {woken : Bool} {n n' : WakeOp → ℕ}
    (account : Account w held woken n) (le_release : n .compare_exchange + n .read ≤ n .release)
    (le_free : n .drop_value ≤ n .free) {op : WakeOp} {ops : List WakeOp} (mem : op :: ops ∈ shapes)
    (n_eq : ∀ o, n' o + weight (single o) (op :: ops) =
      n o + weight (single o) (w.next op ++ ops)) :
    Account (w.apply op) held woken n' := by
  cases op with
  | compare_exchange =>
    obtain rfl : ops = [.release] := by simpa [shapes] using mem
    exact account.compare_exchange le_release n_eq
  | read =>
    obtain rfl : ops = [.call, .release] := by simpa [shapes] using mem
    exact account.read le_release n_eq
  | call =>
    obtain rfl : ops = [.release] := by simpa [shapes] using mem
    exact account.call n_eq
  | release =>
    obtain rfl : ops = [] := by simpa [shapes] using mem
    exact account.release n_eq
  | load =>
    obtain rfl : ops = [] := by simpa [shapes] using mem
    exact account.load le_free n_eq
  | drop_value =>
    obtain rfl : ops = [.free] := by simpa [shapes] using mem
    exact account.drop_value le_free n_eq
  | free =>
    obtain rfl : ops = [] := by simpa [shapes] using mem
    exact account.free n_eq

/-- A thread does its next operation. -/
theorem Sound.run {s : WakeFn} (sound : Sound s) {i : ℕ} {op : WakeOp} {ops : List WakeOp}
    (thread : s.threads[i]? = some (op :: ops)) :
    Sound { s with
      waker := s.waker.apply op
      threads := s.threads.set i (s.waker.next op ++ ops) } := by
  obtain ⟨shape, account⟩ := sound
  have mem := shape _ (List.mem_of_getElem? thread)
  have kept := account.run (count_le_release shape) (count_le_free shape) mem
    (count_set thread _ (s.waker.apply op))
  refine ⟨fun ops' h => ?_, kept⟩
  rcases List.mem_or_eq_of_mem_set h with old | rfl
  · exact shape ops' old
  · exact mem_shapes_of_next s.waker mem

/-- A new thread wakes or drops a clone, which was held, or is new. -/
theorem Sound.spawn {s : WakeFn} (sound : Sound s) {w : WakeOnceFn} {held : ℕ} {woken : Bool}
    {ops : List WakeOp} (mem : ops ∈ shapes)
    (account : ∀ n : WakeOp → ℕ, (∀ o, n o = s.count o + weight (single o) ops) →
      Account w held woken n) : Sound ⟨w, held, s.threads ++ [ops], woken⟩ := by
  refine ⟨fun ops' h => ?_, account _ fun o => count_spawn s ops w held woken o⟩
  rcases List.mem_append.1 h with old | new
  · exact sound.1 ops' old
  · rwa [List.mem_singleton.1 new]

/-- Every action keeps it so. -/
theorem Sound.step {s s' : WakeFn} (sound : Sound s) {a : WakeAction} (step : s.step a = some s') :
    Sound s' := by
  have allocated := sound.2.allocated
  have account := sound.2
  obtain ⟨strong_count, alive, ending, closure, claims, unused, there, gone, used, woken, fault⟩ :=
    account
  cases a with
  | clone =>
    simp only [WakeFn.step] at step
    split at step
    · next held =>
      cases step
      refine ⟨sound.1, ?_⟩
      constructor <;> simp only [retain, WakeOnceFn.need, count] at * <;> grind
    · cases step
  | wake =>
    simp only [WakeFn.step] at step
    split at step
    · next held =>
      cases step
      refine sound.spawn (by decide) fun n n_eq => ?_
      simp only [forall_op, single, weight_cons, weight_nil, ↓reduceIte, reduceCtorEq, add_zero,
        zero_add] at n_eq
      constructor <;> grind
    · cases step
  | wake_by_ref =>
    simp only [WakeFn.step] at step
    split at step
    · next held =>
      cases step
      refine sound.spawn (by decide) fun n n_eq => ?_
      simp only [forall_op, single, weight_cons, weight_nil, ↓reduceIte, reduceCtorEq, add_zero,
        zero_add] at n_eq
      constructor <;> simp only [retain, WakeOnceFn.need] <;> grind
    · cases step
  | drop =>
    simp only [WakeFn.step] at step
    split at step
    · next held =>
      cases step
      refine sound.spawn (by decide) fun n n_eq => ?_
      simp only [forall_op, single, weight_cons, weight_nil, ↓reduceIte, reduceCtorEq,
        add_zero] at n_eq
      constructor <;> grind
    · cases step
  | run i =>
    simp only [WakeFn.step] at step
    split at step
    · next op ops thread =>
      cases step
      exact sound.run thread
    · cases step

/-- Every thread did all that it had to do. -/
def AtRest (s : WakeFn) : Prop := ∀ ops ∈ s.threads, ops = []

instance (s : WakeFn) : Decidable s.AtRest :=
  inferInstanceAs (Decidable (∀ ops ∈ s.threads, ops = []))

/-- At rest no operation is left. -/
theorem AtRest.count {s : WakeFn} (rest : s.AtRest) (o : WakeOp) : s.count o = 0 := by
  have each : ∀ x ∈ s.threads.map (weight (single o)), x = 0 := by
    intro x h
    obtain ⟨ops, mem, rfl⟩ := List.mem_map.1 h
    rw [rest ops mem, weight_nil]
  exact List.sum_eq_zero each

/-- Whatever clones are made, woken and dropped on whatever threads, and in whatever order these
take their steps: no operation touches freed memory or takes or drops the closure a second time. The
closure is called or dropped at most once, never called when no clone was woken, and never dropped
when one was. When the threads are done, a clone that was woken has called it; and when there is no
clone any more either, the memory is freed, and the closure was dropped if no clone was woken. -/
theorem wakes_once {s : WakeFn} (run : Reachable WakeFn.step new s) :
    s.waker.fault = false ∧ s.waker.calls + s.waker.drops ≤ 1 ∧
      (s.woken = false → s.waker.calls = 0) ∧ (s.woken = true → s.waker.drops = 0) ∧
      (0 < s.held → s.waker.allocated = true) ∧
      (s.AtRest → s.waker.calls = s.woken.toNat ∧
        (s.held = 0 → s.waker.allocated = false ∧ s.waker.drops = (!s.woken).toNat)) := by
  obtain ⟨shape, account⟩ : Sound s :=
    run.invariant sound_new fun _ _ _ _ _ step sound => sound.step step
  have le_release := count_le_release shape
  have held := account.allocated
  obtain ⟨strong_count, alive, ending, closure, claims, unused, there, gone, used, woken, fault⟩ :=
    account
  refine ⟨fault, ?_, ?_, ?_, held, fun rest => ⟨?_, fun gone => ⟨?_, ?_⟩⟩⟩
  · cases h : s.waker.used <;> grind
  · cases h : s.waker.used <;> grind
  · cases h : s.waker.used <;> grind
  · have n := forall_op.1 rest.count
    cases h : s.waker.used <;> grind
  · have n := forall_op.1 rest.count
    cases h : s.waker.allocated <;> grind
  · have n := forall_op.1 rest.count
    cases h : s.waker.used <;> cases h' : s.woken <;> grind

/-- Two threads wake a waker and its clone, and both look at the closure before one calls it. -/
theorem wakes_once_race : ∃ s : WakeFn, s.AtRest ∧ s.woken = true ∧ s.held = 0 ∧
    s.waker.calls = 1 ∧ s.waker.drops = 0 ∧ s.waker.allocated = false := by
  obtain ⟨s, run, test⟩ := exists_of_exec_any WakeFn.step new
    [.clone, .wake, .wake_by_ref, .run 1, .run 0, .drop, .run 0, .run 1, .run 2, .run 1, .run 1,
      .run 1, .run 1]
    (fun s => decide (s.AtRest ∧ s.woken = true ∧ s.held = 0)) (by decide +kernel)
  obtain ⟨rest, woken, held⟩ := of_decide_eq_true test
  obtain ⟨-, -, -, drops, -, done⟩ := wakes_once (Run.of_exec run)
  obtain ⟨calls, gone⟩ := done rest
  rw [woken] at calls
  exact ⟨s, rest, woken, held, calls, drops woken, (gone held).1⟩

end WakeFn

end L3Extract
