import Mathlib.Algebra.GroupWithZero.Nat
import Mathlib.Data.Nat.Notation
import Mathlib.Data.Option.Basic
import Mathlib.Order.WellFounded
import Mathlib.Tactic.ByContra

/-!
# Runs of a labelled transition system

A system is given by a partial function `step : σ → α → Option σ`: in a state of type `σ`, the
action `a : α` either is not enabled (`none`) or leads to a state. `Run step guard s t` says that
`t` is reached from `s` by actions that are enabled and meet `guard` in the state where they are
taken; `Reachable` is the case without a guard. An invariant is proved once per step and carried
along a run by `Run.invariant`. A property that holds at the end and not at the start was entered by
a step (`Run.exists_entry`). A simulation carries the runs of another system over to runs of this
one (`Run.simulates`), and steps that make a measure fall come to an end (`not_endless`).

`exec` runs a list of actions. A run on fixed inputs is proved by evaluating it (`Run.of_exec`).
What the actions of a list cost is bounded by `exec_cost_le`.

`rounds` iterates a round that is made of several actions. A measure that falls in every round
bounds their number.

`recording step note` carries a record beside the state, which every step adds to by `note`. The
record says what happened on the way; it changes nothing about the runs (`Run.of_recording`,
`Run.exists_recording`).
-/

namespace Transition

variable {σ α : Type*} {step : σ → α → Option σ} {guard : σ → α → Prop}

/-- The runs of `step` whose every action meets `guard` in the state where it is taken. -/
inductive Run (step : σ → α → Option σ) (guard : σ → α → Prop) (s : σ) : σ → Prop
  /-- No action is taken. -/
  | refl : Run step guard s s
  /-- One more action at the end. -/
  | tail {t u : σ} {a : α} (run : Run step guard s t) (meets : guard t a)
      (steps : step t a = some u) : Run step guard s u

/-- The states that `step` reaches from `s` by any actions. -/
abbrev Reachable (step : σ → α → Option σ) (s : σ) : σ → Prop :=
  Run step (fun _ _ => True) s

/-- The state after a list of actions, if all of them are enabled. -/
def exec (step : σ → α → Option σ) : σ → List α → Option σ
  | s, [] => some s
  | s, a :: as => (step s a).bind fun t => exec step t as

/-- The state after a list of actions, if all of them are enabled and pass the test `ok`. -/
def execIf (step : σ → α → Option σ) (ok : σ → α → Bool) : σ → List α → Option σ
  | s, [] => some s
  | s, a :: as => if ok s a then (step s a).bind fun t => execIf step ok t as else none

/-- A state that a list of actions leads to and that passes a test, when evaluation says so. -/
theorem exists_of_exec_any (step : σ → α → Option σ) (s : σ) (as : List α) (test : σ → Bool)
    (h : (exec step s as).any test = true) : ∃ t, exec step s as = some t ∧ test t = true :=
  (Option.any_eq_true _ _).mp h

/-- The same for actions that pass the test `ok`. -/
theorem exists_of_execIf_any (step : σ → α → Option σ) (s : σ) (ok : σ → α → Bool) (as : List α)
    (test : σ → Bool) (h : (execIf step ok s as).any test = true) :
    ∃ t, execIf step ok s as = some t ∧ test t = true := (Option.any_eq_true _ _).mp h

/-- A run may start one step earlier. -/
theorem Run.head {s t u : σ} {a : α} (meets : guard s a) (steps : step s a = some t)
    (run : Run step guard t u) : Run step guard s u := by
  induction run with
  | refl => exact .tail .refl meets steps
  | tail _ hg hs ih => exact .tail ih hg hs

/-- Runs compose. -/
theorem Run.trans {s t u : σ} (first : Run step guard s t) (second : Run step guard t u) :
    Run step guard s u := by
  induction second with
  | refl => exact first
  | tail _ hg hs ih => exact .tail ih hg hs

/-- A run under a condition is one under what follows from it. -/
theorem Run.mono {guard' : σ → α → Prop} (weaker : ∀ s a, guard s a → guard' s a) {s t : σ}
    (run : Run step guard s t) : Run step guard' s t := by
  induction run with
  | refl => exact .refl
  | tail _ hg hs ih => exact .tail ih (weaker _ _ hg) hs

/-- A property that every step from a reached state keeps holds at the end of a run when it holds
at its start. The step may use that its state was reached. -/
theorem Run.invariant {I : σ → Prop} {s : σ} (start : I s)
    (keeps : ∀ t a u, Run step guard s t → guard t a → step t a = some u → I t → I u)
    {t : σ} (run : Run step guard s t) : I t := by
  induction run with
  | refl => exact start
  | tail hr hg hs ih => exact keeps _ _ _ hr hg hs ih

/-- A run that comes to `P` does so by a step, and what holds before every such step held on the
way. -/
theorem Run.exists_entry {P Q : σ → Prop} {s t : σ} (run : Run step guard s t) (start : ¬ P s)
    (enters : ∀ u a v, Run step guard s u → guard u a → step u a = some v → ¬ P u → P v → Q u)
    (final : P t) : ∃ u, Run step guard s u ∧ Q u ∧ Run step guard u t := by
  induction run with
  | refl => exact absurd final start
  | @tail t v a run hg hs ih =>
    by_cases before : P t
    · obtain ⟨u, first, hu, rest⟩ := ih before
      exact ⟨u, first, hu, .tail rest hg hs⟩
    · exact ⟨t, run, enters t a v run hg hs before final, .tail .refl hg hs⟩

/-- Where each step of another system is matched by a run from every state that is related to its
own, each of its runs is. -/
theorem Run.simulates {σ' α' : Type*} {step' : σ' → α' → Option σ'} {guard' : σ' → α' → Prop}
    {R : σ' → σ → Prop} (matched : ∀ s' a' t' s, guard' s' a' → step' s' a' = some t' → R s' s →
      ∃ t, Run step guard s t ∧ R t' t) {s' t' : σ'} (run : Run step' guard' s' t') {s : σ}
    (start : R s' s) : ∃ t, Run step guard s t ∧ R t' t := by
  induction run with
  | refl => exact ⟨s, .refl, start⟩
  | tail _ hg hs ih =>
    obtain ⟨t, first, related⟩ := ih
    obtain ⟨u, next, related⟩ := matched _ _ _ _ hg hs related
    exact ⟨u, first.trans next, related⟩

/-- Steps in which a measure falls that cannot fall for ever do not go on for ever. -/
theorem not_endless {β : Type*} [LT β] [WellFoundedLT β] {I : σ → Prop} {μ : σ → β}
    (falls : ∀ s a t, I s → guard s a → step s a = some t → I t ∧ μ t < μ s) {f : ℕ → σ}
    (start : I (f 0)) : ¬ ∀ n, ∃ a, guard (f n) a ∧ step (f n) a = some (f (n + 1)) := by
  intro goes_on
  have keeps : ∀ n, I (f n) := by
    intro n
    induction n with
    | zero => exact start
    | succ n ih =>
      obtain ⟨a, hg, hs⟩ := goes_on n
      exact (falls _ a _ ih hg hs).1
  have chain : ∀ n, μ (f (n + 1)) < μ (f n) := by
    intro n
    obtain ⟨a, hg, hs⟩ := goes_on n
    exact (falls _ a _ (keeps n) hg hs).2
  exact (wellFounded_iff_isEmpty_descending_chain.mp wellFounded_lt).false ⟨fun n => μ (f n), chain⟩

/-- Executing a list of actions is a run. -/
theorem Run.of_exec {s t : σ} {as : List α} (h : exec step s as = some t) :
    Reachable step s t := by
  induction as generalizing s with
  | nil =>
    obtain rfl : s = t := by simpa [exec] using h
    exact .refl
  | cons a as ih =>
    obtain ⟨u, hu, h⟩ := Option.bind_eq_some_iff.mp h
    exact .head trivial hu (ih h)

/-- Executing a list of actions that pass a test is a run under what the test checks. -/
theorem Run.of_execIf {ok : σ → α → Bool} (sound : ∀ t a, ok t a = true → guard t a) {s t : σ}
    {as : List α} (h : execIf step ok s as = some t) : Run step guard s t := by
  induction as generalizing s with
  | nil =>
    obtain rfl : s = t := by simpa [execIf] using h
    exact .refl
  | cons a as ih =>
    simp only [execIf] at h
    split at h
    · rename_i hok
      obtain ⟨u, hu, h⟩ := Option.bind_eq_some_iff.mp h
      exact .head (sound _ _ hok) hu (ih h)
    · simp at h

/-- What the actions of a run cost is paid from what they grant and from what was saved before, when
this is so for each of them. -/
theorem exec_cost_le {cost grant : α → ℕ} {Φ : σ → ℕ}
    (each : ∀ s a t, step s a = some t → cost a + Φ t ≤ grant a + Φ s) {s t : σ} {as : List α}
    (h : exec step s as = some t) : (as.map cost).sum + Φ t ≤ (as.map grant).sum + Φ s := by
  induction as generalizing s with
  | nil =>
    obtain rfl : s = t := by simpa [exec] using h
    exact Nat.le_refl _
  | cons a as ih =>
    obtain ⟨u, hu, h⟩ := Option.bind_eq_some_iff.mp h
    have first := each s a u hu
    have others := ih h
    simp only [List.map_cons, List.sum_cons]
    omega

/-! ## Rounds -/

section Rounds

variable {round : σ → Option σ} {I : σ → Prop} {μ : σ → ℕ}

/-- The state after `n` rounds, if all of them come to their end. -/
def rounds (round : σ → Option σ) : ℕ → σ → Option σ
  | 0, s => some s
  | n + 1, s => (round s).bind (rounds round n)

/-- One round. -/
theorem rounds_one (s : σ) : rounds round 1 s = round s := by
  simp [rounds]

/-- Rounds after other rounds. -/
theorem rounds_add (m n : ℕ) (s : σ) :
    rounds round (m + n) s = (rounds round m s).bind (rounds round n) := by
  induction m generalizing s with
  | zero => rw [Nat.zero_add]; rfl
  | succ m ih =>
    rw [Nat.succ_add]
    simp only [rounds, Option.bind_assoc]
    exact congrArg _ (funext ih)

/-- Where more rounds are possible, the next one is. -/
theorem exists_round_of_lt {m n : ℕ} {s t u : σ} (more : rounds round n s = some t)
    (after : rounds round m s = some u) (lt : m < n) : ∃ v, round u = some v := by
  obtain ⟨k, rfl⟩ := Nat.exists_eq_add_of_lt lt
  rw [Nat.add_assoc, Nat.add_comm k, rounds_add, after, Option.bind_some, rounds_add,
    rounds_one] at more
  obtain ⟨v, hv, -⟩ := Option.bind_eq_some_iff.mp more
  exact ⟨v, hv⟩

/-- There are no more rounds than a measure allows that falls in each of them. -/
theorem le_of_rounds (falls : ∀ s t, I s → round s = some t → I t ∧ μ t < μ s) {n : ℕ} {s t : σ}
    (start : I s) (after : rounds round n s = some t) : I t ∧ n + μ t ≤ μ s := by
  induction n generalizing s with
  | zero =>
    cases after
    exact ⟨start, Nat.le_of_eq (Nat.zero_add _)⟩
  | succ n ih =>
    obtain ⟨u, hu, after⟩ := Option.bind_eq_some_iff.mp after
    obtain ⟨next, lt⟩ := falls s u start hu
    obtain ⟨final, le⟩ := ih next after
    exact ⟨final, by omega⟩

/-- Rounds in which a measure falls come to an end. -/
theorem exists_rounds_end (falls : ∀ s t, I s → round s = some t → I t ∧ μ t < μ s) {s : σ}
    (start : I s) : ∃ n t, rounds round n s = some t ∧ round t = none := by
  by_contra! goes_on
  have more : ∀ n, ∃ t, rounds round n s = some t := by
    intro n
    induction n with
    | zero => exact ⟨s, rfl⟩
    | succ n ih =>
      obtain ⟨t, after⟩ := ih
      obtain ⟨u, hu⟩ := Option.ne_none_iff_exists'.mp (goes_on n t after)
      exact ⟨u, by rw [rounds_add, after, Option.bind_some, rounds_one, hu]⟩
  obtain ⟨t, after⟩ := more (μ s + 1)
  have := (le_of_rounds falls start after).2
  omega

end Rounds

/-! ## Runs with a record -/

section Recording

variable {ρ : Type*} {note : ρ → σ → α → σ → ρ}

/-- The system with a record beside its state. -/
def recording (step : σ → α → Option σ) (note : ρ → σ → α → σ → ρ) (p : σ × ρ) (a : α) :
    Option (σ × ρ) :=
  (step p.1 a).map fun t => (t, note p.2 p.1 a t)

/-- A recorded step is a step, with what is noted of it. -/
theorem recording_eq_some {p q : σ × ρ} {a : α} :
    recording step note p a = some q ↔ step p.1 a = some q.1 ∧ q.2 = note p.2 p.1 a q.1 := by
  rw [recording, Option.map_eq_some_iff]
  constructor
  · rintro ⟨t, ht, rfl⟩
    exact ⟨ht, rfl⟩
  · rintro ⟨ht, hq⟩
    exact ⟨q.1, ht, by rw [← hq]⟩

/-- A run with a record is a run. -/
theorem Run.of_recording {guard : σ × ρ → α → Prop} {p q : σ × ρ}
    (run : Run (recording step note) guard p q) : Reachable step p.1 q.1 := by
  induction run with
  | refl => exact .refl
  | tail _ _ hs ih => exact .tail ih trivial (recording_eq_some.mp hs).1

/-- A run whose actions meet a condition on the states alone does so without the record. -/
theorem Run.erase_record {guard : σ → α → Prop} {p q : σ × ρ}
    (run : Run (recording step note) (fun p a => guard p.1 a) p q) : Run step guard p.1 q.1 := by
  induction run with
  | refl => exact .refl
  | tail _ hg hs ih => exact .tail ih hg (recording_eq_some.mp hs).1

/-- Every run can be recorded. -/
theorem Run.exists_recording {s t : σ} (run : Run step guard s t)
    (note : ρ → σ → α → σ → ρ) (r : ρ) :
    ∃ r', Run (recording step note) (fun p a => guard p.1 a) (s, r) (t, r') := by
  induction run with
  | refl => exact ⟨r, .refl⟩
  | @tail t u a _ hg hs ih =>
    obtain ⟨r', hr⟩ := ih
    exact ⟨note r' t a u, .tail hr hg (recording_eq_some.mpr ⟨hs, rfl⟩)⟩

/-- A run with a larger record is a run with the part of it that is kept on its own. -/
theorem Run.map_record {ρ' : Type*} {note' : ρ' → σ → α → σ → ρ'} {guard : σ × ρ' → α → Prop}
    (f : ρ' → ρ) (maps : ∀ r s a t, f (note' r s a t) = note (f r) s a t) {p q : σ × ρ'}
    (run : Run (recording step note') guard p q) :
    Run (recording step note) (fun _ _ => True) (p.1, f p.2) (q.1, f q.2) := by
  induction run with
  | refl => exact .refl
  | tail _ _ hs ih =>
    obtain ⟨steps, noted⟩ := recording_eq_some.mp hs
    exact .tail ih trivial (recording_eq_some.mpr ⟨steps, by rw [noted, maps]⟩)

end Recording

end Transition
