import Mathlib.Data.List.Forall2

/-!
# Queues seen from outside

A queue is observed from time to time. Values are put in at its end and taken out at its front.
Between two observations in which only one of both happened, `gained` and `lost` are the values that
were put in and taken out. `Conserved put got l` says that, of all values that were put in, in
order, those in `got` were taken out and those in `l` are still in the queue: none is missing, none
comes twice, and none overtakes another.
-/

namespace Flow

variable {α : Type*}

/-- What was put into a queue that held `l` and now holds `l'`. -/
def gained (l l' : List α) : List α := l'.drop l.length

/-- What was taken out of a queue that held `l` and now holds `l'`. -/
def lost (l l' : List α) : List α := l.take (l.length - l'.length)

/-- What was put behind a list is gained. -/
@[simp] theorem gained_append (l new : List α) : gained l (l ++ new) = new := by simp [gained]

/-- A list that stays has gained nothing. -/
@[simp] theorem gained_self (l : List α) : gained l l = [] := by simp [gained]

/-- The empty list gains all that is there. -/
@[simp] theorem gained_nil_left (l : List α) : gained [] l = l := by simp [gained]

/-- Clearing a queue puts nothing in. -/
@[simp] theorem gained_nil_right (l : List α) : gained l [] = [] := by simp [gained]

/-- What was in front of a list is lost. -/
@[simp] theorem lost_append (old l : List α) : lost (old ++ l) l = old := by simp [lost]

/-- A list that stays has lost nothing. -/
@[simp] theorem lost_self (l : List α) : lost l l = [] := by simp [lost]

/-- The empty list has nothing to lose. -/
@[simp] theorem lost_nil_left (l : List α) : lost [] l = [] := by simp [lost]

/-- What was put into the queue was taken out, or is still there behind it. -/
def Conserved (put got l : List α) : Prop := put = got ++ l

/-- What is put at the end is conserved. -/
theorem Conserved.put {put got l : List α} (h : Conserved put got l) (new : List α) :
    Conserved (put ++ new) got (l ++ new) := by
  unfold Conserved at *
  rw [h, List.append_assoc]

/-- What is taken from the front is conserved. -/
theorem Conserved.get {put got old l : List α} (h : Conserved put got (old ++ l)) :
    Conserved put (got ++ old) l := by
  unfold Conserved at *
  rw [h, List.append_assoc]

/-- What was taken out comes first in what was put in, without a gap. -/
theorem Conserved.prefix_put {put got l : List α} (h : Conserved put got l) : got <+: put :=
  ⟨l, h.symm⟩

/-- From an empty queue all was taken out. -/
theorem Conserved.drained {put got : List α} (h : Conserved put got []) : put = got :=
  h.trans (List.append_nil got)

/-! ## Values that go by in a log -/

section Log

variable {β : Type*} {R : α → β → Prop}

/-- What goes by later comes behind in the log. -/
theorem sublistForall₂_append {l₁ l₂ : List α} {log₁ log₂ : List β}
    (h₁ : List.SublistForall₂ R l₁ log₁) (h₂ : List.SublistForall₂ R l₂ log₂) :
    List.SublistForall₂ R (l₁ ++ l₂) (log₁ ++ log₂) := by
  obtain ⟨m₁, related₁, sub₁⟩ := List.sublistForall₂_iff.mp h₁
  obtain ⟨m₂, related₂, sub₂⟩ := List.sublistForall₂_iff.mp h₂
  exact List.sublistForall₂_iff.mpr ⟨m₁ ++ m₂, List.rel_append related₁ related₂, sub₁.append sub₂⟩

/-- A log keeps what went by. -/
theorem sublistForall₂_log {l : List α} {log : List β} (h : List.SublistForall₂ R l log)
    (more : List β) : List.SublistForall₂ R l (log ++ more) := by
  rw [← List.append_nil l]
  exact sublistForall₂_append h .nil

end Log

end Flow
