import L3Extract.System.Ownership
import Mathlib.Logic.Relation

/-!
# The life of a socket

What becomes of a socket is decided by who owns it. `Stage` is an automaton that says so without the
stack: a socket is opened with a Ready, offered to an acceptor, held by a user, closing, and
removed; on its way it may be lost, and then it stays in the stack for good. `At` reads the stage of
a socket, known by its generation, off a state of the stack and its users. `life_cycle` connects the
two: in every reachable state each socket is at one stage, whatever happens next it follows the
arrows of the automaton, and it was at all earlier stages before.
-/

namespace L3Extract

open OperationEvent Transition TcpStack

variable {S : Smoltcp}

/-- Where a socket is in its life. -/
inductive Stage
  | unborn
  /-- Its Ready is pending. -/
  | opening
  /-- It waits in the channel of its acceptor. -/
  | offered
  /-- A user holds its stream. -/
  | held
  /-- Its Close is pending. -/
  | closing
  | removed
  /-- It is there, and nothing will deliver it or close it. -/
  | lost
  deriving DecidableEq

namespace Stage

/-- The arrows of the automaton. -/
inductive Moves : Stage → Stage → Prop
  | opened : Moves .unborn .opening
  | delivered : Moves .opening .offered
  | accepted : Moves .offered .held
  | dropped : Moves .held .closing
  | closed : Moves .closing .removed
  | lost {x : Stage} (live : x ≠ .removed) : Moves x .lost

/-- But for the loss, a stage is entered from one other. -/
theorem Moves.unique {x x' y : Stage} (h : Moves x y) (h' : Moves x' y) (hy : y ≠ .lost) :
    x = x' := by
  cases h with
  | lost live => exact absurd rfl hy
  | opened => cases h'; rfl
  | delivered => cases h'; rfl
  | accepted => cases h'; rfl
  | dropped => cases h'; rfl
  | closed => cases h'; rfl

/-- A life begins unborn. -/
theorem Moves.ne_unborn {x y : Stage} (h : Moves x y) : y ≠ .unborn := by
  cases h <;> exact Stage.noConfusion

end Stage

namespace OperationEvent

/-- The socket that a Ready is for. -/
def ready_for : OperationEvent → Option TypedSocketHandle
  | .ready h => some h
  | _ => none

/-- The socket that a Close is for. -/
def close_for : OperationEvent → Option TypedSocketHandle
  | .close h => some h
  | _ => none

end OperationEvent

namespace System

/-- The owners that see to the sockets at a stage. -/
def place (s : System S) : Stage → Multiset TypedSocketHandle
  | .opening => s.pending.filterMap ready_for
  | .offered => ↑s.infos
  | .held => ↑s.streams
  | .closing => s.pending.filterMap close_for
  | _ => 0

/-- The stage of the socket with a generation. -/
inductive At (s : System S) (g : ℕ) : Stage → Prop
  | unborn (new : s.stack.socket_set.next ≤ g) : At s g .unborn
  | owned {x : Stage} {h : TypedSocketHandle} (incarnation : h.handle.incarnation = g)
      (owns : h ∈ s.place x) : At s g x
  | removed (old : g < s.stack.socket_set.next) (gone : ∀ i, s.stack.socket_set.gen i ≠ some g) :
      At s g .removed
  | lost {i : ℕ} (live : s.stack.socket_set.gen i = some g)
      (none : ∀ h ∈ s.owners, h.handle.incarnation ≠ g) : At s g .lost

/-! ## One stage at a time -/

/-- A socket is opening while its Ready is pending. -/
theorem mem_place_opening {s : System S} {h : TypedSocketHandle} :
    h ∈ s.place .opening ↔ .ready h ∈ s.pending := by
  rw [place, Multiset.mem_filterMap]
  constructor
  · rintro ⟨e, he, hh⟩
    cases e <;> cases hh
    exact he
  · exact fun he => ⟨_, he, rfl⟩

/-- A socket is closing while its Close is pending. -/
theorem mem_place_closing {s : System S} {h : TypedSocketHandle} :
    h ∈ s.place .closing ↔ .close h ∈ s.pending := by
  rw [place, Multiset.mem_filterMap]
  constructor
  · rintro ⟨e, he, hh⟩
    cases e <;> cases hh
    exact he
  · exact fun he => ⟨_, he, rfl⟩

/-- An event owns a socket as its Ready or as its Close. -/
theorem filterMap_owner (events : Multiset OperationEvent) : events.filterMap owner =
    events.filterMap ready_for + events.filterMap close_for := by
  induction events using Multiset.induction_on with
  | empty => rfl
  | cons e events ih =>
    rw [← Multiset.singleton_add, Multiset.filterMap_add, Multiset.filterMap_add,
      Multiset.filterMap_add, ih, filterMap_singleton, filterMap_singleton, filterMap_singleton]
    have split : (↑e.owner.toList : Multiset TypedSocketHandle) =
        ↑e.ready_for.toList + ↑e.close_for.toList := by
      cases e <;> rfl
    rw [split]
    abel

/-- The owners are those at the four stages that have one. -/
theorem owners_eq_place (s : System S) : s.owners =
    s.place .opening + s.place .closing + s.place .offered + s.place .held := by
  rw [owners, filterMap_owner]
  rfl

/-- Every place is one of owners. -/
theorem place_le_owners (s : System S) (x : Stage) : s.place x ≤ s.owners := by
  rw [owners_eq_place, Multiset.le_iff_count]
  intro h
  simp only [Multiset.count_add]
  cases x <;> simp only [place, Multiset.count_zero] <;> omega

/-- Two places have different owners. -/
theorem place_add_le {s : System S} {x y : Stage} (other : x ≠ y) :
    s.place x + s.place y ≤ s.owners := by
  rw [owners_eq_place, Multiset.le_iff_count]
  intro h
  simp only [Multiset.count_add]
  cases x <;> cases y <;> first
    | exact absurd rfl other
    | simp only [place, Multiset.count_zero]
      omega

/-- A socket that has an owner is there. -/
theorem Owned.live {s : System S} (owned : Owned s) {x : Stage} {h : TypedSocketHandle}
    (owns : h ∈ s.place x) : s.stack.Refers h :=
  owned.refers h (Multiset.mem_of_le (place_le_owners s x) owns)

/-- A socket is at one stage only. -/
theorem At.unique {s : System S} (owned : Owned s) {g : ℕ} {x y : Stage} (hx : s.At g x)
    (hy : s.At g y) : x = y := by
  -- A socket with an owner is in its slot, and was born.
  have born : ∀ {z : Stage} {h : TypedSocketHandle}, h.handle.incarnation = g → h ∈ s.place z →
      s.stack.socket_set.gen h.handle.index = some g ∧ g < s.stack.socket_set.next := by
    intro z h incarnation owns
    have refers := owned.live owns
    exact ⟨incarnation ▸ refers.1, incarnation ▸ Arena.gen_lt_next refers.1⟩
  have among : ∀ {z : Stage} {h : TypedSocketHandle}, h ∈ s.place z → h ∈ s.owners :=
    fun owns => Multiset.mem_of_le (place_le_owners s _) owns
  cases hx with
  | unborn new =>
    cases hy with
    | unborn _ => rfl
    | owned incarnation owns => have := (born incarnation owns).2; omega
    | removed old gone => omega
    | lost live none => have := Arena.gen_lt_next live; omega
  | @owned _ h incarnation owns =>
    cases hy with
    | unborn new => have := (born incarnation owns).2; omega
    | @owned _ h' incarnation' owns' =>
      by_contra other
      obtain rfl := (owned.live owns).unique_of_incarnation (owned.live owns')
        (incarnation.trans incarnation'.symm)
      refine owned.not_twice (h := h) (le_trans ?_ (place_add_le other))
      exact add_le_add (Multiset.singleton_le.mpr owns) (Multiset.singleton_le.mpr owns')
    | removed old gone => exact absurd (born incarnation owns).1 (gone _)
    | lost live none => exact absurd incarnation (none h (among owns))
  | removed old gone =>
    cases hy with
    | unborn new => omega
    | owned incarnation owns => exact absurd (born incarnation owns).1 (gone _)
    | removed _ _ => rfl
    | lost live none => exact absurd live (gone _)
  | lost live none =>
    cases hy with
    | unborn new => have := Arena.gen_lt_next live; omega
    | @owned _ h incarnation owns => exact absurd incarnation (none h (among owns))
    | removed old gone => exact absurd live (gone _)
    | lost _ _ => rfl

/-- Every socket is at a stage. -/
theorem exists_at (s : System S) (g : ℕ) : ∃ x, s.At g x := by
  by_cases new : s.stack.socket_set.next ≤ g
  · exact ⟨_, .unborn new⟩
  by_cases live : ∃ i, s.stack.socket_set.gen i = some g
  · obtain ⟨i, live⟩ := live
    by_cases has : ∃ h ∈ s.owners, h.handle.incarnation = g
    · obtain ⟨h, owns, incarnation⟩ := has
      rw [owners_eq_place] at owns
      simp only [Multiset.mem_add] at owns
      rcases owns with ((opening | closing) | offered) | held
      · exact ⟨_, .owned incarnation opening⟩
      · exact ⟨_, .owned incarnation closing⟩
      · exact ⟨_, .owned incarnation offered⟩
      · exact ⟨_, .owned incarnation held⟩
    · exact ⟨_, .lost live fun h owns incarnation => has ⟨h, owns, incarnation⟩⟩
  · exact ⟨_, .removed (Nat.lt_of_not_le new) fun i hi => live ⟨i, hi⟩⟩

/-! ## Each step follows the arrows -/

/-- Where an owner comes from, when pending events, channels, and streams grow by no more than
these. -/
theorem place_of_le {s s' : System S} {new : Multiset OperationEvent}
    {offered held : Multiset TypedSocketHandle} (pending : s'.pending ≤ new + s.pending)
    (infos : (↑s'.infos : Multiset TypedSocketHandle) ≤ offered + ↑s.infos)
    (streams : (↑s'.streams : Multiset TypedSocketHandle) ≤ held + ↑s.streams) {y : Stage}
    {h : TypedSocketHandle} (owns : h ∈ s'.place y) : h ∈ s.place y ∨
      y = .opening ∧ .ready h ∈ new ∨ y = .closing ∧ .close h ∈ new ∨
      y = .offered ∧ h ∈ offered ∨ y = .held ∧ h ∈ held := by
  cases y with
  | opening =>
    rcases Multiset.mem_add.mp (Multiset.mem_of_le pending (mem_place_opening.mp owns)) with hm | hm
    · exact .inr (.inl ⟨rfl, hm⟩)
    · exact .inl (mem_place_opening.mpr hm)
  | closing =>
    rcases Multiset.mem_add.mp (Multiset.mem_of_le pending (mem_place_closing.mp owns)) with hm | hm
    · exact .inr (.inr (.inl ⟨rfl, hm⟩))
    · exact .inl (mem_place_closing.mpr hm)
  | offered =>
    rcases Multiset.mem_add.mp (Multiset.mem_of_le infos owns) with hm | hm
    · exact .inr (.inr (.inr (.inl ⟨rfl, hm⟩)))
    · exact .inl hm
  | held =>
    rcases Multiset.mem_add.mp (Multiset.mem_of_le streams owns) with hm | hm
    · exact .inr (.inr (.inr (.inr ⟨rfl, hm⟩)))
    · exact .inl hm
  | _ => exact .inl owns

/-- Where the owner of a socket was before a step. -/
theorem place_of_effect {s s' : System S} {a : Action} (effect : Effect s a s') {y : Stage}
    {h : TypedSocketHandle} (owns : h ∈ s'.place y) :
    h ∈ s.place y ∨ (∃ x, Stage.Moves x y ∧ h ∈ s.place x) ∨
      y = .opening ∧ h.handle.incarnation = s.stack.socket_set.next := by
  have same : ∀ {m : List TypedSocketHandle} {m' : List TypedSocketHandle}, m' = m →
      (↑m' : Multiset TypedSocketHandle) ≤ 0 + ↑m := fun eq => by rw [eq, zero_add]
  cases effect with
  | kept tables pending infos streams delivered =>
    rcases place_of_le (by rwa [zero_add]) (by rwa [zero_add]) (same streams) owns with
      was | ⟨-, hm⟩ | ⟨-, hm⟩ | ⟨-, hm⟩ | ⟨-, hm⟩
    · exact .inl was
    all_goals exact absurd hm (Multiset.notMem_zero _)
  | admitted packet now batch h₀ socket accepted action opens admits pending infos streams =>
    rcases place_of_le pending (same infos) (same streams) owns with
      was | ⟨hy, hm⟩ | ⟨-, hm⟩ | ⟨-, hm⟩ | ⟨-, hm⟩
    · exact .inl was
    · cases Multiset.mem_singleton.mp hm
      refine .inr (.inr ⟨hy, ?_⟩)
      rw [admits.handle]
      rfl
    · cases Multiset.mem_singleton.mp hm
    all_goals exact absurd hm (Multiset.notMem_zero _)
  | removed h₀ next removes pending infos streams =>
    have pending := (Multiset.le_add_left _ _).trans pending
    rcases place_of_le (by rwa [zero_add]) (same infos) (same streams) owns with
      was | ⟨-, hm⟩ | ⟨-, hm⟩ | ⟨-, hm⟩ | ⟨-, hm⟩
    · exact .inl was
    all_goals exact absurd hm (Multiset.notMem_zero _)
  | delivered h₀ next tables pending infos streams =>
    have pending := (Multiset.le_add_left _ _).trans pending
    rcases place_of_le (by rwa [zero_add]) infos (same streams) owns with
      was | ⟨-, hm⟩ | ⟨-, hm⟩ | ⟨hy, hm⟩ | ⟨-, hm⟩
    · exact .inl was
    · exact absurd hm (Multiset.notMem_zero _)
    · exact absurd hm (Multiset.notMem_zero _)
    · rw [hy, Multiset.mem_singleton.mp hm]
      exact .inr (.inl ⟨_, .delivered, mem_place_opening.mpr (mem_pending_of_next next)⟩)
    · exact absurd hm (Multiset.notMem_zero _)
  | accepted h₀ tables pending infos streams =>
    have fewer : (↑s'.infos : Multiset TypedSocketHandle) ≤ ↑s.infos := by
      rw [infos]
      exact Multiset.le_add_left _ _
    rcases place_of_le (by rw [zero_add, pending]) (by rwa [zero_add]) streams.le owns with
      was | ⟨-, hm⟩ | ⟨-, hm⟩ | ⟨-, hm⟩ | ⟨hy, hm⟩
    · exact .inl was
    · exact absurd hm (Multiset.notMem_zero _)
    · exact absurd hm (Multiset.notMem_zero _)
    · exact absurd hm (Multiset.notMem_zero _)
    · have offered : h ∈ (↑s.infos : Multiset TypedSocketHandle) := by
        rw [infos]
        exact Multiset.mem_add.mpr (.inl hm)
      rw [hy]
      exact .inr (.inl ⟨.offered, .accepted, offered⟩)
  | requested c action held tables pending infos streams =>
    rcases place_of_le pending (same infos) (same streams) owns with
      was | ⟨-, hm⟩ | ⟨-, hm⟩ | ⟨-, hm⟩ | ⟨-, hm⟩
    · exact .inl was
    · have no_ready := Multiset.mem_singleton.mp hm
      cases c <;> cases no_ready
    · have no_close := Multiset.mem_singleton.mp hm
      cases c <;> cases no_close
    all_goals exact absurd hm (Multiset.notMem_zero _)
  | dropped h₀ tables pending infos streams =>
    have fewer : (↑s'.streams : Multiset TypedSocketHandle) ≤ ↑s.streams := by
      rw [streams]
      exact Multiset.le_add_left _ _
    rcases place_of_le pending (same infos) (by rwa [zero_add]) owns with
      was | ⟨-, hm⟩ | ⟨hy, hm⟩ | ⟨-, hm⟩ | ⟨-, hm⟩
    · exact .inl was
    · cases Multiset.mem_singleton.mp hm
    · cases Multiset.mem_singleton.mp hm
      have held : h ∈ (↑s.streams : Multiset TypedSocketHandle) := by
        rw [streams]
        exact Multiset.mem_add.mpr (.inl (Multiset.mem_singleton_self _))
      rw [hy]
      exact .inr (.inl ⟨.held, .dropped, held⟩)
    all_goals exact absurd hm (Multiset.notMem_zero _)

/-- A socket that is no longer in its slot was closed. -/
theorem closing_of_gone {s s' : System S} {a : Action} (effect : Effect s a s') (owned : Owned s)
    {i g : ℕ} (live : s.stack.socket_set.gen i = some g)
    (gone : s'.stack.socket_set.gen i ≠ some g) :
    ∃ h ∈ s.place .closing, h.handle.incarnation = g := by
  have of_same : SameTables s.stack s'.stack → _ := fun same => gone (same.gen ▸ live)
  cases effect with
  | kept same => exact (of_same same).elim
  | delivered h next same => exact (of_same same).elim
  | accepted h same => exact (of_same same).elim
  | requested c action held same => exact (of_same same).elim
  | dropped h same => exact (of_same same).elim
  | admitted packet now batch h socket accepted action opens admits =>
    rw [admits.gen] at gone
    split_ifs at gone with hi
    · rw [hi, admits.gen_free] at live
      cases live
    · exact absurd live gone
  | removed h next removes pending =>
    rw [removes.gen] at gone
    split_ifs at gone with hi
    · have closing : h ∈ s.place .closing := mem_place_closing.mpr (mem_pending_of_next next)
      have refers := (owned.live closing).1
      rw [← hi, live] at refers
      exact ⟨h, closing, (Option.some.inj refers).symm⟩
    · exact absurd live gone

/-- A step follows an arrow, or leaves the socket at its stage. -/
theorem At.step {s s' : System S} {a : Action} (effect : Effect s a s') (owned : Owned s) {g : ℕ}
    {y : Stage} (after : s'.At g y) : s.At g y ∨ ∃ x, s.At g x ∧ Stage.Moves x y := by
  have ownership := ownership_of_effect effect
  have grows := next_le_of_ownership ownership
  cases after with
  | unborn new => exact .inl (.unborn (grows.trans new))
  | @owned _ h incarnation owns =>
    rcases place_of_effect effect owns with was | ⟨x, moves, was⟩ | ⟨rfl, fresh⟩
    · exact .inl (.owned incarnation was)
    · exact .inr ⟨x, .owned incarnation was, moves⟩
    · exact .inr ⟨_, .unborn (fresh.symm.trans incarnation).le, .opened⟩
  | @lost i live none =>
    obtain ⟨x, before⟩ := exists_at s g
    refine .inr ⟨x, before, .lost ?_⟩
    rintro rfl
    cases before with
    | removed old gone => exact gone i (gen_of_ownership ownership old live).1
    | owned incarnation owns => exact absurd owns (Multiset.notMem_zero _)
  | removed old gone =>
    by_cases was : ∃ i, s.stack.socket_set.gen i = some g
    · obtain ⟨i, live⟩ := was
      obtain ⟨h, closing, incarnation⟩ := closing_of_gone effect owned live (gone i)
      exact .inr ⟨_, .owned incarnation closing, .closed⟩
    · refine .inl (.removed ?_ fun i hi => was ⟨i, hi⟩)
      -- A socket that is new is there.
      by_contra young
      cases ownership with
      | kept same => rw [same.next] at old; exact young old
      | removed h removes => rw [removes.next] at old; exact young old
      | admitted h admits =>
        have hg : g = h.handle.incarnation := by
          rw [admits.next] at old
          rw [admits.handle]
          change g = s.stack.socket_set.next
          omega
        refine gone h.handle.index ?_
        rw [admits.gen, if_pos rfl, hg]

/-- In every run each socket is at one stage in each state. Whatever is done from a state on, the
socket goes on along the arrows, and it was at every stage that comes before its own, except that a
socket may be lost at any stage. So no socket is delivered, accepted, or closed twice, or out of
order, and a socket that was removed or lost stays so. -/
theorem life_cycle {size : ℕ} {interface : S.Interface} {s t : System S}
    (run : Reachable step (new size interface) s) (later : Reachable step s t) (g : ℕ) :
    (∃! x, s.At g x) ∧
    (∀ x y, s.At g x → t.At g y → Relation.ReflTransGen Stage.Moves x y) ∧
    ∀ x y, Stage.Moves x y → y ≠ .lost → s.At g y →
      ∃ u, Reachable step (new size interface) u ∧ u.At g x ∧ Reachable step u s := by
  have owned : ∀ {u : System S}, Reachable step (new size interface) u → Owned u :=
    fun reached => (sound_of_run reached).owned
  refine ⟨?_, ?_, ?_⟩
  · obtain ⟨x, hx⟩ := exists_at s g
    exact ⟨x, hx, fun y hy => hy.unique (owned run) hx⟩
  · intro x y before
    induction later generalizing y with
    | refl =>
      intro after
      rw [before.unique (owned run) after]
    | @tail u v a first _ steps ih =>
      intro after
      have effect := effect_of_steps (steps_of_step steps)
      rcases At.step effect (owned (run.trans first)) after with same | ⟨z, between, moves⟩
      · exact ih y same
      · exact .tail (ih z between) moves
  · intro x y moves not_lost
    refine run.exists_entry (P := fun u => u.At g y) (Q := fun u => u.At g x) ?_ ?_
    · intro start
      refine moves.ne_unborn (start.unique (owned .refl) (.unborn ?_))
      exact Nat.zero_le g
    · intro u a v first _ steps not_yet after
      have effect := effect_of_steps (steps_of_step steps)
      rcases At.step effect (owned first) after with same | ⟨z, before, moves'⟩
      · exact absurd same not_yet
      · rw [moves.unique moves' not_lost]
        exact before

end System

end L3Extract
