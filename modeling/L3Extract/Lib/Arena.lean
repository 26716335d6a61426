import Mathlib.Algebra.BigOperators.Group.Finset.Basic
import Mathlib.Algebra.BigOperators.Group.List.Basic
import Mathlib.Algebra.Order.Group.Multiset
import Mathlib.Tactic.Abel

/-!
# Slot tables whose entries carry a generation

A slot table hands out the index of a slot, and uses a freed slot again: an index says where an
entry is, not which entry it was given out for. An `Arena` numbers its entries in the order in
which they were added; this number, the entry's generation, tells apart the entries that one slot
holds at different times. The generations of the entries in a table are distinct and below the
number of entries added so far. Both facts are fields of the structure, so every table has them.

`add` takes the first free slot, or a new one at the end. The lemmas describe a table by the two
functions `gen` and `val` from indexes, and by `sum`, the sum of a weight over its entries.
-/

namespace Slots

variable {γ : Type*}

/-- The entry in slot `i`, if there is such a slot and it is taken. -/
def get (s : List (Option γ)) (i : ℕ) : Option γ := s[i]?.join

/-- The index of the first free slot, or of the slot to be appended. -/
def free : List (Option γ) → ℕ
  | [] => 0
  | none :: _ => 0
  | some _ :: s => free s + 1

/-- Put an entry into the first free slot, or append it. -/
def add (c : γ) : List (Option γ) → List (Option γ)
  | [] => [some c]
  | none :: s => some c :: s
  | some b :: s => some b :: add c s

/-- An index that `get` finds an entry at is not the free one. -/
theorem get_free (s : List (Option γ)) : get s (free s) = none := by
  induction s with
  | nil => rfl
  | cons o s ih =>
    cases o with
    | none => rfl
    | some b => simpa [get, free] using ih

/-- `add` fills the free slot and leaves the others. -/
theorem get_add (c : γ) (s : List (Option γ)) (i : ℕ) :
    get (add c s) i = if i = free s then some c else get s i := by
  induction s generalizing i with
  | nil => cases i <;> simp [add, get, free]
  | cons o s ih =>
    cases o with
    | none => cases i <;> simp [add, get, free]
    | some b =>
      cases i with
      | zero => simp [add, get, free]
      | succ i => simpa [add, get, free] using ih i

/-- Emptying a slot. -/
theorem get_set_none (s : List (Option γ)) (i j : ℕ) :
    get (s.set i none) j = if j = i then none else get s j := by
  simp only [get, List.getElem?_set]
  split_ifs <;> simp_all

/-- Mapping the entry of a slot. -/
theorem get_modify (f : γ → γ) (s : List (Option γ)) (i j : ℕ) :
    get (s.modify i (Option.map f)) j = if j = i then (get s j).map f else get s j := by
  simp only [get, List.getElem?_modify]
  split_ifs with h1 h2
  · cases s[j]? with
    | none => rfl
    | some o => cases o <;> rfl
  · exact absurd h1.symm h2
  · simp_all
  · simp

/-- Mapping every entry, by its index. -/
theorem get_mapIdx {δ : Type*} (f : ℕ → γ → δ) (s : List (Option γ)) (i : ℕ) :
    get (s.mapIdx fun j o => o.map (f j)) i = (get s i).map (f i) := by
  simp only [get, List.getElem?_mapIdx]
  cases s[i]? with
  | none => rfl
  | some o => cases o <;> rfl

/-- The sum of a weight over the entries. -/
def sum {M : Type*} [AddCommMonoid M] (w : γ → M) (s : List (Option γ)) : M :=
  (s.map fun o => o.elim 0 w).sum

section Sum

variable {M : Type*} [AddCommMonoid M] (w : γ → M)

/-- A new entry adds its weight. -/
theorem sum_add (c : γ) (s : List (Option γ)) : sum w (add c s) = w c + sum w s := by
  induction s with
  | nil => simp [add, sum]
  | cons o s ih =>
    cases o with
    | none => simp [add, sum]
    | some b =>
      simp only [add, sum, List.map_cons, List.sum_cons, Option.elim_some] at ih ⊢
      rw [ih]
      abel

/-- A removed entry takes its weight away. -/
theorem sum_set_none {s : List (Option γ)} {i : ℕ} {b : γ} (h : get s i = some b) :
    w b + sum w (s.set i none) = sum w s := by
  induction s generalizing i with
  | nil => simp [get] at h
  | cons o s ih =>
    cases i with
    | zero =>
      obtain rfl : o = some b := by simpa [get] using h
      simp [sum]
    | succ i =>
      have hs := ih (i := i) (by simpa [get] using h)
      simp only [sum, List.set_cons_succ, List.map_cons, List.sum_cons] at hs ⊢
      rw [← hs]
      abel

/-- Mapping an entry exchanges its weight. -/
theorem sum_modify {s : List (Option γ)} {i : ℕ} {b : γ} (h : get s i = some b) (f : γ → γ) :
    w b + sum w (s.modify i (Option.map f)) = w (f b) + sum w s := by
  induction s generalizing i with
  | nil => simp [get] at h
  | cons o s ih =>
    cases i with
    | zero =>
      obtain rfl : o = some b := by simpa [get] using h
      simp only [sum, List.modify_zero_cons, Option.map_some, List.map_cons, Option.elim_some,
        List.sum_cons]
      abel
    | succ i =>
      have hs := ih (i := i) (by simpa [get] using h)
      simp only [sum, List.modify_succ_cons, List.map_cons, List.sum_cons] at hs ⊢
      rw [add_left_comm, hs]
      abel

/-- Mapping an empty slot changes nothing. -/
theorem modify_of_get_none {s : List (Option γ)} {i : ℕ} (h : get s i = none) (f : γ → γ) :
    s.modify i (Option.map f) = s := by
  induction s generalizing i with
  | nil => cases i <;> rfl
  | cons o s ih =>
    cases i with
    | zero =>
      obtain rfl : o = none := by simpa [get] using h
      rfl
    | succ i => simpa using ih (i := i) (by simpa [get] using h)

/-- Mapping an entry to itself changes nothing. -/
theorem modify_of_get {s : List (Option γ)} {i : ℕ} {b : γ} (h : get s i = some b) {f : γ → γ}
    (fixed : f b = b) : s.modify i (Option.map f) = s := by
  induction s generalizing i with
  | nil => cases i <;> rfl
  | cons o s ih =>
    cases i with
    | zero =>
      obtain rfl : o = some b := by simpa [get] using h
      simp [fixed]
    | succ i => simpa using ih (i := i) (by simpa [get] using h)

/-- Clearing an empty slot changes nothing. -/
theorem set_none_of_get_none {s : List (Option γ)} {i : ℕ} (h : get s i = none) :
    s.set i none = s := by
  induction s generalizing i with
  | nil => rfl
  | cons o s ih =>
    cases i with
    | zero =>
      obtain rfl : o = none := by simpa [get] using h
      rfl
    | succ i => simpa using ih (i := i) (by simpa [get] using h)

/-- Mapping entries by a function that keeps their weight keeps the sum. -/
theorem sum_mapIdx (f : ℕ → γ → γ) (hf : ∀ i b, w (f i b) = w b) (s : List (Option γ)) :
    sum w (s.mapIdx fun j o => o.map (f j)) = sum w s := by
  induction s generalizing f with
  | nil => rfl
  | cons o s ih =>
    simp only [sum, List.mapIdx_cons, List.map_cons, List.sum_cons] at ih ⊢
    rw [ih (fun i => f (i + 1)) fun i b => hf (i + 1) b]
    cases o with
    | none => rfl
    | some b => simp [hf]

/-- The sum goes over the indexes. -/
theorem sum_eq_range (s : List (Option γ)) :
    sum w s = ∑ i ∈ Finset.range s.length, (get s i).elim 0 w := by
  induction s with
  | nil => rfl
  | cons o s ih =>
    have step : sum w (o :: s) = o.elim 0 w + sum w s := rfl
    rw [step, ih, List.length_cons, Finset.sum_range_succ', add_comm]
    rfl

/-- What is in a sum of multisets is in the weight of an entry. -/
theorem exists_of_mem_sum {α : Type*} {w : γ → Multiset α} {s : List (Option γ)} {x : α}
    (h : x ∈ sum w s) : ∃ i b, get s i = some b ∧ x ∈ w b := by
  induction s with
  | nil => simp [sum] at h
  | cons o s ih =>
    rw [sum, List.map_cons, List.sum_cons, Multiset.mem_add] at h
    rcases h with h | h
    · cases o with
      | none => simp at h
      | some b => exact ⟨0, b, rfl, h⟩
    · obtain ⟨i, b, hb, hx⟩ := ih h
      exact ⟨i + 1, b, by simpa [get] using hb, hx⟩

end Sum

end Slots

/-- A slot table. `next` counts the entries added so far and is the generation of the next one. -/
structure Arena (β : Type*) where
  /-- The slots, each entry with its generation. -/
  slots : List (Option (ℕ × β))
  /-- The number of entries added so far. -/
  next : ℕ
  /-- Every entry was added before now. -/
  gen_lt : ∀ {i g b}, Slots.get slots i = some (g, b) → g < next
  /-- No two entries have one generation. -/
  gen_inj : ∀ {i j g b c}, Slots.get slots i = some (g, b) → Slots.get slots j = some (g, c) →
    i = j

namespace Arena

variable {β : Type*}

/-- The table without slots. -/
def empty : Arena β where
  slots := []
  next := 0
  gen_lt h := by simp [Slots.get] at h
  gen_inj h := by simp [Slots.get] at h

/-- The generation of the entry in slot `i`. -/
def gen (a : Arena β) (i : ℕ) : Option ℕ := (Slots.get a.slots i).map Prod.fst

/-- The entry in slot `i`. -/
def val (a : Arena β) (i : ℕ) : Option β := (Slots.get a.slots i).map Prod.snd

/-- The slot that the next entry is put into. -/
def free (a : Arena β) : ℕ := Slots.free a.slots

/-- Add an entry in the first free slot. -/
def add (a : Arena β) (b : β) : Arena β where
  slots := Slots.add (a.next, b) a.slots
  next := a.next + 1
  gen_lt {i g c} h := by
    rw [Slots.get_add] at h
    split_ifs at h
    · cases h; omega
    · have := a.gen_lt h; omega
  gen_inj {i j g c d} h h' := by
    rw [Slots.get_add] at h h'
    split_ifs at h h' with hi hj hj
    · rw [hi, hj]
    · cases h
      exact absurd (a.gen_lt h') (lt_irrefl _)
    · cases h'
      exact absurd (a.gen_lt h) (lt_irrefl _)
    · exact a.gen_inj h h'

/-- Empty slot `i`. -/
def remove (a : Arena β) (i : ℕ) : Arena β where
  slots := a.slots.set i none
  next := a.next
  gen_lt {j g b} h := by
    rw [Slots.get_set_none] at h
    split_ifs at h
    exact a.gen_lt h
  gen_inj {j k g b c} h h' := by
    rw [Slots.get_set_none] at h h'
    split_ifs at h h'
    exact a.gen_inj h h'

/-- Change the entry in slot `i`. -/
def modify (a : Arena β) (i : ℕ) (f : β → β) : Arena β where
  slots := a.slots.modify i (Option.map (Prod.map id f))
  next := a.next
  gen_lt {j g b} h := by
    rw [Slots.get_modify] at h
    split_ifs at h
    · obtain ⟨⟨g', c⟩, hc, he⟩ := Option.map_eq_some_iff.mp h
      cases he
      exact a.gen_lt hc
    · exact a.gen_lt h
  gen_inj {j k g b c} h h' := by
    have key : ∀ {j b}, Slots.get (a.slots.modify i (Option.map (Prod.map id f))) j = some (g, b) →
        ∃ b', Slots.get a.slots j = some (g, b') := by
      intro j b h
      rw [Slots.get_modify] at h
      split_ifs at h
      · obtain ⟨⟨g', c⟩, hc, he⟩ := Option.map_eq_some_iff.mp h
        cases he
        exact ⟨_, hc⟩
      · exact ⟨_, h⟩
    obtain ⟨b', hb⟩ := key h
    obtain ⟨c', hc⟩ := key h'
    exact a.gen_inj hb hc

/-- Change every entry, by its index. -/
def mapIdx (a : Arena β) (f : ℕ → β → β) : Arena β where
  slots := a.slots.mapIdx fun i o => o.map (Prod.map id (f i))
  next := a.next
  gen_lt {j g b} h := by
    rw [Slots.get_mapIdx fun i => Prod.map id (f i)] at h
    obtain ⟨⟨g', c⟩, hc, he⟩ := Option.map_eq_some_iff.mp h
    cases he
    exact a.gen_lt hc
  gen_inj {j k g b c} h h' := by
    rw [Slots.get_mapIdx fun i => Prod.map id (f i)] at h h'
    obtain ⟨⟨g', b'⟩, hb, he⟩ := Option.map_eq_some_iff.mp h
    obtain ⟨⟨g'', c'⟩, hc, he'⟩ := Option.map_eq_some_iff.mp h'
    cases he
    cases he'
    exact a.gen_inj hb hc

/-- The sum of a weight over the entries. -/
def sum {M : Type*} [AddCommMonoid M] (w : β → M) (a : Arena β) : M :=
  Slots.sum (fun p => w p.2) a.slots

/-! ## Generations and entries after each operation -/

/-- The empty arena has no generations. -/
@[simp] theorem gen_empty (i : ℕ) : (empty : Arena β).gen i = none := by
  simp [gen, empty, Slots.get]

/-- The empty arena has no value. -/
@[simp] theorem val_empty (i : ℕ) : (empty : Arena β).val i = none := by
  simp [val, empty, Slots.get]

/-- A slot has a generation exactly when it has an entry. -/
theorem gen_isSome (a : Arena β) (i : ℕ) : (a.gen i).isSome = (a.val i).isSome := by
  simp [gen, val]

/-- The generation of an entry is below `next`. -/
theorem gen_lt_next {a : Arena β} {i g : ℕ} (h : a.gen i = some g) : g < a.next := by
  obtain ⟨⟨g', b⟩, hp, rfl⟩ := Option.map_eq_some_iff.mp h
  exact a.gen_lt hp

/-- A generation is in one slot only. -/
theorem gen_unique {a : Arena β} {i j g : ℕ} (h : a.gen i = some g) (h' : a.gen j = some g) :
    i = j := by
  obtain ⟨⟨g', b⟩, hp, rfl⟩ := Option.map_eq_some_iff.mp h
  obtain ⟨⟨g'', c⟩, hq, he⟩ := Option.map_eq_some_iff.mp h'
  cases he
  exact a.gen_inj hp hq

/-- The free slot has no value. -/
@[simp] theorem val_free (a : Arena β) : a.val a.free = none := by
  simp [val, free, Slots.get_free]

/-- The free slot has no generation. -/
@[simp] theorem gen_free (a : Arena β) : a.gen a.free = none := by
  simp [gen, free, Slots.get_free]

/-- A value is added in the free slot, with the next generation. -/
theorem gen_add (a : Arena β) (b : β) (i : ℕ) :
    (a.add b).gen i = if i = a.free then some a.next else a.gen i := by
  simp only [gen, add, Slots.get_add]
  exact apply_ite _ _ _ _

/-- A value is added in the free slot. -/
theorem val_add (a : Arena β) (b : β) (i : ℕ) :
    (a.add b).val i = if i = a.free then some b else a.val i := by
  simp only [val, add, Slots.get_add]
  exact apply_ite _ _ _ _

/-- A slot that is removed has no generation. -/
theorem gen_remove (a : Arena β) (i j : ℕ) :
    (a.remove i).gen j = if j = i then none else a.gen j := by
  simp only [gen, remove, Slots.get_set_none]
  split_ifs <;> rfl

/-- A slot that is removed has no value. -/
theorem val_remove (a : Arena β) (i j : ℕ) :
    (a.remove i).val j = if j = i then none else a.val j := by
  simp only [val, remove, Slots.get_set_none]
  split_ifs <;> rfl

/-- Changing a value leaves the generations. -/
@[simp] theorem gen_modify (a : Arena β) (i j : ℕ) (f : β → β) :
    (a.modify i f).gen j = a.gen j := by
  simp only [gen, modify, Slots.get_modify]
  split_ifs
  · cases Slots.get a.slots j <;> rfl
  · rfl

/-- A value is changed in its slot only. -/
theorem val_modify (a : Arena β) (i j : ℕ) (f : β → β) :
    (a.modify i f).val j = if j = i then (a.val j).map f else a.val j := by
  simp only [val, modify, Slots.get_modify]
  split_ifs
  · cases Slots.get a.slots j <;> rfl
  · rfl

/-- An entry that is changed to itself leaves the arena as it is. -/
theorem modify_of_val {a : Arena β} {i : ℕ} {b : β} (h : a.val i = some b) {f : β → β}
    (fixed : f b = b) : a.modify i f = a := by
  obtain ⟨⟨g, b'⟩, hp, rfl⟩ := Option.map_eq_some_iff.mp h
  have slots : a.slots.modify i (Option.map (Prod.map id f)) = a.slots :=
    Slots.modify_of_get hp (congrArg (Prod.mk g) fixed)
  unfold modify
  cases a
  simp only [slots]

/-- Changing all values leaves the generations. -/
@[simp] theorem gen_mapIdx (a : Arena β) (f : ℕ → β → β) (i : ℕ) :
    (a.mapIdx f).gen i = a.gen i := by
  simp only [gen, mapIdx, Slots.get_mapIdx fun i => Prod.map id (f i)]
  cases Slots.get a.slots i <;> rfl

/-- All values are changed. -/
@[simp] theorem val_mapIdx (a : Arena β) (f : ℕ → β → β) (i : ℕ) :
    (a.mapIdx f).val i = (a.val i).map (f i) := by
  simp only [val, mapIdx, Slots.get_mapIdx fun i => Prod.map id (f i)]
  cases Slots.get a.slots i <;> rfl

/-! ## Sums after each operation -/

section Sum

variable {M : Type*} [AddCommMonoid M] (w : β → M)

/-- A value that is added counts. -/
theorem sum_add (a : Arena β) (b : β) : sum w (a.add b) = w b + sum w a :=
  Slots.sum_add (fun p : ℕ × β => w p.2) (a.next, b) a.slots

/-- A removed entry takes its weight away. -/
theorem sum_remove {a : Arena β} {i : ℕ} {b : β} (h : a.val i = some b) :
    w b + sum w (a.remove i) = sum w a := by
  obtain ⟨p, hp, rfl⟩ := Option.map_eq_some_iff.mp h
  exact Slots.sum_set_none (fun p : ℕ × β => w p.2) hp

/-- Removing from an empty slot keeps the sum. -/
theorem sum_remove_of_none {a : Arena β} {i : ℕ} (h : a.val i = none) :
    sum w (a.remove i) = sum w a := by
  have hs : Slots.get a.slots i = none := by simpa [val] using h
  simp only [sum, remove, Slots.set_none_of_get_none hs]

/-- A changed entry exchanges its weight. -/
theorem sum_modify {a : Arena β} {i : ℕ} {b : β} (h : a.val i = some b) (f : β → β) :
    w b + sum w (a.modify i f) = w (f b) + sum w a := by
  obtain ⟨p, hp, rfl⟩ := Option.map_eq_some_iff.mp h
  exact Slots.sum_modify (fun p : ℕ × β => w p.2) hp (Prod.map id f)

/-- Changing an empty slot keeps the sum. -/
theorem sum_modify_of_none {a : Arena β} {i : ℕ} (h : a.val i = none) (f : β → β) :
    sum w (a.modify i f) = sum w a := by
  have hs : Slots.get a.slots i = none := by simpa [val] using h
  simp only [sum, modify, Slots.modify_of_get_none hs]

/-- A change that keeps every entry's weight keeps the sum. -/
theorem sum_mapIdx (a : Arena β) (f : ℕ → β → β) (hf : ∀ i b, w (f i b) = w b) :
    sum w (a.mapIdx f) = sum w a :=
  Slots.sum_mapIdx (fun p : ℕ × β => w p.2) (fun i => Prod.map id (f i)) (fun i p => hf i p.2)
    a.slots

/-- The sum goes over the slots. -/
theorem sum_eq_range {a : Arena β} {n : ℕ} (h : a.slots.length ≤ n) :
    sum w a = ∑ i ∈ Finset.range n, (a.val i).elim 0 w := by
  have slots : sum w a = ∑ i ∈ Finset.range a.slots.length, (a.val i).elim 0 w := by
    rw [sum, Slots.sum_eq_range]
    refine Finset.sum_congr rfl fun i _ => ?_
    rw [val]
    cases Slots.get a.slots i <;> rfl
  rw [slots]
  refine Finset.sum_subset (Finset.range_subset_range.mpr h) fun i _ hi => ?_
  have outside : a.slots.length ≤ i := by simpa using hi
  simp [val, Slots.get, List.getElem?_eq_none outside]

/-- What is in a sum of multisets is in the weight of an entry. -/
theorem exists_of_mem_sum {α : Type*} {w : β → Multiset α} {a : Arena β} {x : α}
    (h : x ∈ sum w a) : ∃ i b, a.val i = some b ∧ x ∈ w b := by
  obtain ⟨i, p, hp, hx⟩ := Slots.exists_of_mem_sum h
  exact ⟨i, p.2, by simp [val, hp], hx⟩

end Sum

end Arena
