import Mathlib.Algebra.BigOperators.Group.List.Basic
import Mathlib.Algebra.Order.BigOperators.Group.List
import Mathlib.Algebra.Order.Group.Multiset
import Mathlib.Algebra.Order.Group.Nat
import Mathlib.Tactic.Abel

/-!
# Threads of atomic operations

A thread is the list of the operations that it has still to do. Doing one changes a state that the
threads share, by `apply`, and may put further operations before the rest of the thread, by `next`:
a closure that is called, a value whose fields are dropped. `Runs` is the run of one thread to its
end when no other thread interferes. `Runs.foldl` gives such a run as a fold when every operation,
run to its end by itself, has a known effect.

A pool is a list of threads. `weigh w pool` adds up a weight over all operations of all threads, and
`weigh_set` says what it becomes when one thread is replaced by another.
-/

namespace Threads

variable {σ ο M : Type*}

/-- What one operation does: to the shared state, and to the thread that does it. -/
structure Semantics (σ ο : Type*) where
  apply : σ → ο → σ
  next : σ → ο → List ο

section Runs

variable {sem : Semantics σ ο}

/-- A thread runs to its end without interference. -/
inductive Runs (sem : Semantics σ ο) : σ → List ο → σ → Prop
  | nil (s : σ) : Runs sem s [] s
  | cons {s t : σ} {op : ο} {ops : List ο}
      (rest : Runs sem (sem.apply s op) (sem.next s op ++ ops) t) : Runs sem s (op :: ops) t

/-- Operations that follow run after the others. -/
theorem Runs.append {s t u : σ} {ops ops' : List ο} (first : Runs sem s ops t)
    (second : Runs sem t ops' u) : Runs sem s (ops ++ ops') u := by
  induction first with
  | nil s => exact second
  | @cons s t op ops rest ih =>
    have run := ih second
    rw [List.append_assoc] at run
    exact .cons run

/-- An operation that leaves nothing to do runs at once. -/
theorem Runs.single {s : σ} {op : ο} (next : sem.next s op = []) :
    Runs sem s [op] (sem.apply s op) := by
  refine .cons ?_
  rw [next]
  exact .nil _

/-- A thread runs to where its operations lead one after the other. -/
theorem Runs.foldl {perform : σ → ο → σ} (each : ∀ s op, Runs sem s [op] (perform s op)) (s : σ)
    (ops : List ο) : Runs sem s ops (ops.foldl perform s) := by
  induction ops generalizing s with
  | nil => exact .nil s
  | cons op ops ih => exact (each s op).append (ih _)

end Runs

section Weight

variable [AddCommMonoid M] (w : ο → M)

/-- The weight of a thread. -/
def weight (ops : List ο) : M := (ops.map w).sum

/-- The weight of a pool of threads. -/
def weigh (pool : List (List ο)) : M := (pool.map (weight w)).sum

/-- No operation weighs nothing. -/
@[simp] theorem weight_nil : weight w [] = 0 := rfl

/-- An operation adds its own weight. -/
@[simp] theorem weight_cons (op : ο) (ops : List ο) :
    weight w (op :: ops) = w op + weight w ops := by
  simp [weight]

/-- The weights of two lists add up. -/
@[simp] theorem weight_append (ops ops' : List ο) :
    weight w (ops ++ ops') = weight w ops + weight w ops' := by
  simp [weight]

/-- A new thread adds its weight. -/
@[simp] theorem weigh_concat (pool : List (List ο)) (ops : List ο) :
    weigh w (pool ++ [ops]) = weigh w pool + weight w ops := by
  simp [weigh]

/-- Replacing a thread exchanges its weight. -/
theorem weigh_set {pool : List (List ο)} {i : ℕ} {ops : List ο} (h : pool[i]? = some ops)
    (ops' : List ο) : weigh w (pool.set i ops') + weight w ops = weigh w pool + weight w ops' := by
  induction pool generalizing i with
  | nil => simp at h
  | cons thread pool ih =>
    cases i with
    | zero =>
      obtain rfl : thread = ops := by simpa using h
      simp only [weigh, List.set_cons_zero, List.map_cons, List.sum_cons]
      abel
    | succ i =>
      have := ih (i := i) (by simpa using h)
      simp only [weigh, List.set_cons_succ, List.map_cons, List.sum_cons] at this ⊢
      rw [add_assoc, this, add_assoc]

/-- Two weights add up. -/
theorem weigh_add (w' : ο → M) (pool : List (List ο)) :
    weigh (fun op => w op + w' op) pool = weigh w pool + weigh w' pool := by
  have thread : weight (fun op => w op + w' op) = fun ops => weight w ops + weight w' ops :=
    funext fun ops => List.sum_map_add
  rw [weigh, thread, List.sum_map_add, weigh, weigh]

/-- A weight that is less in every thread is less in the pool. -/
theorem weigh_le_weigh {w w' : ο → ℕ} {pool : List (List ο)}
    (le : ∀ ops ∈ pool, weight w ops ≤ weight w' ops) : weigh w pool ≤ weigh w' pool :=
  List.sum_le_sum le

/-- In a thread of multisets, an operation's are among all. -/
theorem mem_weight {α : Type*} {w : ο → Multiset α} {ops : List ο} {op : ο} {x : α} (h : op ∈ ops)
    (hx : x ∈ w op) : x ∈ weight w ops := by
  induction ops with
  | nil => cases h
  | cons first ops ih =>
    rw [weight_cons, Multiset.mem_add]
    rcases List.mem_cons.mp h with rfl | h
    · exact .inl hx
    · exact .inr (ih h)

/-- In a pool of multisets, a thread's are among all. -/
theorem mem_weigh {α : Type*} {w : ο → Multiset α} {pool : List (List ο)} {ops : List ο} {x : α}
    (h : ops ∈ pool) (hx : x ∈ weight w ops) : x ∈ weigh w pool := by
  induction pool with
  | nil => cases h
  | cons thread pool ih =>
    simp only [weigh, List.map_cons, List.sum_cons, Multiset.mem_add]
    rcases List.mem_cons.mp h with rfl | h
    · exact .inl hx
    · exact .inr (ih h)

/-- What is in a pool is in one of its threads. -/
theorem exists_of_mem_weigh {α : Type*} {w : ο → Multiset α} {pool : List (List ο)} {x : α}
    (h : x ∈ weigh w pool) : ∃ ops ∈ pool, x ∈ weight w ops := by
  induction pool with
  | nil => simp [weigh] at h
  | cons thread pool ih =>
    simp only [weigh, List.map_cons, List.sum_cons, Multiset.mem_add] at h
    rcases h with h | h
    · exact ⟨thread, List.mem_cons_self, h⟩
    · obtain ⟨ops, hops, hx⟩ := ih h
      exact ⟨ops, List.mem_cons_of_mem _ hops, hx⟩

end Weight

end Threads
