import Mathlib.Data.Finset.Insert
import Mathlib.Data.Set.Function

/-!
# An index of keys

A table gives some of its places a key, `f : ι → Option κ`, and a finite set `keys` is kept next to
it, so that one can ask whether a key is in use without looking through the table. `Indexes f keys`
says that the two agree: `keys` has the keys that are in use, and no key is in use twice. Filling a
place with a fresh key and clearing a place keep the agreement when the set is changed accordingly.
-/

variable {ι κ : Type*}

/-- `keys` is the set of the keys that `f` gives, each to one place. -/
structure Indexes (f : ι → Option κ) (keys : Finset κ) : Prop where
  inj : ∀ {i j k}, f i = some k → f j = some k → i = j
  mem_iff : ∀ k, k ∈ keys ↔ ∃ i, f i = some k

namespace Indexes

/-- Without keys the index is empty. -/
theorem empty : Indexes (fun _ : ι => (none : Option κ)) ∅ where
  inj h := by cases h
  mem_iff k := by simp

/-- The table is a bijection from its filled places onto the index. -/
theorem bijOn {f : ι → Option κ} {keys : Finset κ} (h : Indexes f keys) :
    Set.BijOn f {i | (f i).isSome} (some '' ↑keys) := by
  refine ⟨fun i hi => ?_, fun i hi j hj hij => ?_, ?_⟩
  · obtain ⟨k, hk⟩ := Option.isSome_iff_exists.mp hi
    exact ⟨k, (h.mem_iff k).mpr ⟨i, hk⟩, hk.symm⟩
  · obtain ⟨k, hk⟩ := Option.isSome_iff_exists.mp hi
    exact h.inj hk (hij ▸ hk)
  · rintro _ ⟨k, hk, rfl⟩
    obtain ⟨i, hi⟩ := (h.mem_iff k).mp hk
    exact ⟨i, Option.isSome_iff_exists.mpr ⟨k, hi⟩, hi⟩

/-- A key that is in the index is in use at one place. -/
theorem existsUnique {f : ι → Option κ} {keys : Finset κ} (h : Indexes f keys) {k : κ}
    (hk : k ∈ keys) : ∃! i, f i = some k := by
  obtain ⟨i, hi⟩ := (h.mem_iff k).mp hk
  exact ⟨i, hi, fun j hj => h.inj hj hi⟩

/-- A free place is filled with a key that is not in use. -/
theorem insert [DecidableEq ι] [DecidableEq κ] {f g : ι → Option κ} {keys : Finset κ}
    (h : Indexes f keys) {i : ι} {k : κ} (free : f i = none) (fresh : k ∉ keys)
    (eq : ∀ j, g j = if j = i then some k else f j) :
    Indexes g (insert k keys) := by
  have unused : ∀ j, f j ≠ some k := fun j hj => fresh ((h.mem_iff k).mpr ⟨j, hj⟩)
  refine ⟨fun {a b l} ha hb => ?_, fun l => ?_⟩
  · rw [eq] at ha hb
    split_ifs at ha hb with hai hbi hbi
    · rw [hai, hbi]
    · cases ha
      exact absurd hb (unused b)
    · cases hb
      exact absurd ha (unused a)
    · exact h.inj ha hb
  · rw [Finset.mem_insert, h.mem_iff]
    constructor
    · rintro (rfl | ⟨j, hj⟩)
      · exact ⟨i, by rw [eq, if_pos rfl]⟩
      · have hji : j ≠ i := fun hji => by simp [hji, free] at hj
        exact ⟨j, by rw [eq, if_neg hji, hj]⟩
    · rintro ⟨j, hj⟩
      rw [eq] at hj
      split_ifs at hj with hji
      · cases hj
        exact .inl rfl
      · exact .inr ⟨j, hj⟩

/-- A place is cleared, and its key leaves the index. -/
theorem clear [DecidableEq ι] {f g : ι → Option κ} {keys keys' : Finset κ} (h : Indexes f keys)
    {i : ι} (eq : ∀ j, g j = if j = i then none else f j)
    (left : ∀ k, k ∈ keys' ↔ k ∈ keys ∧ f i ≠ some k) : Indexes g keys' := by
  have old : ∀ {j k}, g j = some k → j ≠ i ∧ f j = some k := by
    intro j k hj
    rw [eq] at hj
    split_ifs at hj with hji
    exact ⟨hji, hj⟩
  refine ⟨fun ha hb => h.inj (old ha).2 (old hb).2, fun k => ?_⟩
  rw [left, h.mem_iff]
  constructor
  · rintro ⟨⟨j, hj⟩, hne⟩
    have hji : j ≠ i := fun hji => hne (hji ▸ hj)
    exact ⟨j, by rw [eq, if_neg hji, hj]⟩
  · rintro ⟨j, hj⟩
    obtain ⟨hji, hj⟩ := old hj
    exact ⟨⟨j, hj⟩, fun hi => hji (h.inj hj hi)⟩

end Indexes
