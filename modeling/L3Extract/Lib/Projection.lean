import Mathlib.Data.List.Basic

/-!
# A run seen through a part of its inputs

`f : σ → α → Except ε σ` handles one input, and `List.foldlM f` a list of them. An observer is
concerned with some of the inputs, those that satisfy `own`, and two states may look the same to it,
which `R` says. `Projects` collects two facts about one input: an input of another does not change
what the observer sees, and its own input is handled alike in states that look the same. It follows
that the run over a list looks like the run over the observer's own inputs, so that two lists that
differ in the inputs of others only look the same.

When every input is some observer's own, the observers together also know whether a list is handled
at all: it is when each of them sees its own inputs handled.
-/

universe u v

/-- Handling inputs of others is not seen, and own inputs are handled by what is seen. `P` is what
is known of the inputs. -/
structure Projects {σ ε : Type u} {α : Type v} (f : σ → α → Except ε σ) (R : σ → σ → Prop)
    (own : α → Bool) (P : α → Prop) : Prop where
  frame : ∀ {a s s' t}, P a → own a = false → f s a = .ok s' → R s t → R s' t
  own : ∀ {a s s' t}, P a → own a = true → f s a = .ok s' → R s t →
    ∃ t', f t a = .ok t' ∧ R s' t'

namespace Projects

variable {σ ε : Type u} {α : Type v} {f : σ → α → Except ε σ} {R : σ → σ → Prop}
  {own : α → Bool} {P : α → Prop}

/-- A run over a list looks like the run over the own inputs in it. -/
theorem foldlM (h : Projects f R own P) {l : List α} (known : ∀ a ∈ l, P a) {s s' t : σ}
    (ok : l.foldlM f s = .ok s') (same : R s t) :
    ∃ t', (l.filter own).foldlM f t = .ok t' ∧ R s' t' := by
  induction l generalizing s t with
  | nil =>
    cases ok
    exact ⟨t, rfl, same⟩
  | cons a l ih =>
    rw [List.foldlM_cons] at ok
    have rest : ∀ b ∈ l, P b := fun b hb => known b (List.mem_cons_of_mem _ hb)
    have first : P a := known a List.mem_cons_self
    cases hs : f s a with
    | error err =>
      rw [hs] at ok
      cases ok
    | ok s₁ =>
      rw [hs] at ok
      cases ha : own a with
      | false =>
        rw [List.filter_cons_of_neg (by simp [ha])]
        exact ih rest ok (h.frame first ha hs same)
      | true =>
        obtain ⟨t₁, ht, same₁⟩ := h.own first ha hs same
        obtain ⟨t', ht', same'⟩ := ih rest ok same₁
        refine ⟨t', ?_, same'⟩
        rw [List.filter_cons_of_pos ha, List.foldlM_cons, ht]
        exact ht'

/-- Two runs from one state over lists with the same own inputs look like one run. -/
theorem foldlM_eq (h : Projects f R own P) {l l' : List α} (known : ∀ a ∈ l, P a)
    (known' : ∀ a ∈ l', P a) (eq : l.filter own = l'.filter own) {s s₁ s₂ : σ}
    (ok : l.foldlM f s = .ok s₁) (ok' : l'.foldlM f s = .ok s₂) (same : R s s) :
    ∃ t, R s₁ t ∧ R s₂ t := by
  obtain ⟨t, ht, same₁⟩ := h.foldlM known ok same
  obtain ⟨t', ht', same₂⟩ := h.foldlM known' ok' same
  rw [← eq, ht] at ht'
  cases ht'
  exact ⟨t, same₁, same₂⟩

/-! ## Several observers -/

section Family

variable {ι : Type*} {R : ι → σ → σ → Prop} {own : ι → α → Bool} {P : ι → α → Prop}

/-- A list is handled when each observer sees its own inputs handled. -/
theorem exists_foldlM (h : ∀ k, Projects f (R k) (own k) (P k))
    (symm : ∀ {k s t}, R k s t → R k t s) (covers : ∀ a, ∃ k, own k a = true) {l : List α}
    (known : ∀ k, ∀ a ∈ l, P k a) {s : σ}
    (each : ∀ k, ∃ t t', R k s t ∧ (l.filter (own k)).foldlM f t = .ok t') :
    ∃ s', l.foldlM f s = .ok s' := by
  induction l generalizing s with
  | nil => exact ⟨s, rfl⟩
  | cons a l ih =>
    have first : ∀ k, P k a := fun k => known k a List.mem_cons_self
    -- The observer of `a` sees it handled, so it is.
    obtain ⟨k, hk⟩ := covers a
    obtain ⟨t, t', same, ok⟩ := each k
    rw [List.filter_cons_of_pos hk, List.foldlM_cons] at ok
    cases ht : f t a with
    | error err =>
      rw [ht] at ok
      cases ok
    | ok t₁ =>
      obtain ⟨s₁, hs, -⟩ := (h k).own (first k) hk ht (symm same)
      rw [List.foldlM_cons, hs]
      refine ih (fun k b hb => known k b (List.mem_cons_of_mem _ hb)) fun j => ?_
      obtain ⟨u, u', same, ok⟩ := each j
      cases hj : own j a with
      | false =>
        rw [List.filter_cons_of_neg (by simp [hj])] at ok
        exact ⟨u, u', (h j).frame (first j) hj hs same, ok⟩
      | true =>
        obtain ⟨u₁, hu, same₁⟩ := (h j).own (first j) hj hs same
        rw [List.filter_cons_of_pos hj, List.foldlM_cons, hu] at ok
        exact ⟨u₁, u', same₁, ok⟩

/-- Two lists in which every observer has the same own inputs are both handled, and look the same to
every observer. -/
theorem foldlM_congr (h : ∀ k, Projects f (R k) (own k) (P k))
    (symm : ∀ {k s t}, R k s t → R k t s) (covers : ∀ a, ∃ k, own k a = true) {l l' : List α}
    (known : ∀ k, ∀ a ∈ l, P k a) (known' : ∀ k, ∀ a ∈ l', P k a)
    (eq : ∀ k, l.filter (own k) = l'.filter (own k)) {s s₁ : σ} (same : ∀ k, R k s s)
    (ok : l.foldlM f s = .ok s₁) :
    ∃ s₂, l'.foldlM f s = .ok s₂ ∧ ∀ k, ∃ t, R k s₁ t ∧ R k s₂ t := by
  obtain ⟨s₂, ok'⟩ := exists_foldlM h symm covers known' (s := s) fun k => by
    obtain ⟨t, ht, -⟩ := (h k).foldlM (known k) ok (same k)
    exact ⟨s, t, same k, eq k ▸ ht⟩
  exact ⟨s₂, ok', fun k => (h k).foldlM_eq (known k) (known' k) (eq k) ok ok' (same k)⟩

end Family

end Projects
