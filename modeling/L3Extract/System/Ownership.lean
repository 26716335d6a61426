import L3Extract.System.Account
import Mathlib.Data.Finset.Card

/-!
# One owner per socket

A socket is owned by what will see to its removal: first by the Ready that is to deliver it, then by
the entry in the acceptor's channel, by the stream in a user's hands, and at last by the Close that
is to remove it. Ownership moves from one to the next and is never copied: the owners have no
duplicates, and each refers to a socket that is there (`Owned`).
-/

namespace L3Extract

open OperationEvent Transition TcpStack

variable {S : Smoltcp}

/-- The slot of the handle holds the very socket that the handle was made for. -/
def TcpStack.Refers (t : TcpStack S) (h : TypedSocketHandle) : Prop :=
  t.socket_set.gen h.handle.index = some h.handle.incarnation ∧
    t.kind_at h.handle.index = some h.protocol

/-- Two handles that refer to the socket in one slot are the same. -/
theorem TcpStack.Refers.unique {t : TcpStack S} {h h' : TypedSocketHandle} (refers : t.Refers h)
    (refers' : t.Refers h') (index : h.handle.index = h'.handle.index) : h = h' := by
  obtain ⟨hg, hk⟩ := refers
  obtain ⟨hg', hk'⟩ := refers'
  rw [← index] at hg' hk'
  refine TypedSocketHandle.ext (by simpa [hk] using hk') ?_
  have hi : h.handle.incarnation = h'.handle.incarnation := by simpa [hg] using hg'
  cases hh : h.handle
  cases hh' : h'.handle
  simp_all

/-- Two handles that refer to the socket of one generation are the same. -/
theorem TcpStack.Refers.unique_of_incarnation {t : TcpStack S} {h h' : TypedSocketHandle}
    (refers : t.Refers h) (refers' : t.Refers h')
    (incarnation : h.handle.incarnation = h'.handle.incarnation) : h = h' :=
  refers.unique refers' (t.socket_set.gen_unique (incarnation ▸ refers.1) refers'.1)

/-- A handle that refers to a socket is in the handle table. -/
theorem TcpStack.Refers.mem {t : TcpStack S} {h : TypedSocketHandle} (refers : t.Refers h)
    (tables : t.Tables) : h.key ∈ t.socket_handles := (tables _ _).mpr refers.2

/-- A handle refers to its socket as long as the tables stay. -/
theorem TcpStack.Refers.of_same {t t' : TcpStack S} {h : TypedSocketHandle} (refers : t.Refers h)
    (same : SameTables t t') : t'.Refers h := by
  rw [Refers, same.gen, same.kind]
  exact refers

/-- A handle refers to its socket when another one is added. -/
theorem TcpStack.Refers.of_admits {t t' : TcpStack S} {h h' : TypedSocketHandle}
    (refers : t.Refers h) (admits : Admits t h' t') : t'.Refers h := by
  have hne : h.handle.index ≠ h'.handle.index := by
    intro hi
    have hf := admits.gen_free
    rw [← hi, refers.1] at hf
    cases hf
  rw [Refers, admits.gen, admits.kind, if_neg hne, if_neg hne]
  exact refers

/-- The handle of an added socket refers to it. -/
theorem TcpStack.Admits.refers {t t' : TcpStack S} {h : TypedSocketHandle}
    (admits : Admits t h t') : t'.Refers h := by
  rw [Refers, admits.gen, admits.kind, if_pos rfl, if_pos rfl]
  exact ⟨rfl, rfl⟩

/-- The handle of an added socket referred to nothing before. -/
theorem TcpStack.Admits.not_refers {t t' : TcpStack S} {h : TypedSocketHandle}
    (admits : Admits t h t') : ¬ t.Refers h := by
  intro refers
  have hf := admits.gen_free
  rw [refers.1] at hf
  cases hf

/-- Another handle refers on when a socket is removed. -/
theorem TcpStack.Refers.of_removes {t t' : TcpStack S} {h h' : TypedSocketHandle}
    (refers : t.Refers h) (refers' : t.Refers h') (hne : h ≠ h') (removes : Removes t h' t') :
    t'.Refers h := by
  have hi : h.handle.index ≠ h'.handle.index := fun hi => hne (refers.unique refers' hi)
  rw [Refers, removes.gen, removes.kind, if_neg hi, if_neg hi]
  exact refers

namespace System

/-- No socket has two owners, and every owner refers to its socket. -/
structure Owned (s : System S) : Prop where
  nodup : s.owners.Nodup
  refers : ∀ h ∈ s.owners, s.stack.Refers h

/-- A pending Ready or Close is an owner. -/
theorem mem_owners_of_pending {s : System S} {e : OperationEvent} {h : TypedSocketHandle}
    (he : e ∈ s.pending) (howner : e.owner = some h) : h ∈ s.owners :=
  Multiset.mem_add.mpr (.inl (Multiset.mem_add.mpr (.inl
    ((Multiset.mem_filterMap _ _).mpr ⟨e, he, howner⟩))))

/-- An entry at an acceptor is an owner. -/
theorem mem_owners_of_infos {s : System S} {h : TypedSocketHandle} (hh : h ∈ s.infos) :
    h ∈ s.owners :=
  Multiset.mem_add.mpr (.inl (Multiset.mem_add.mpr (.inr hh)))

/-- A stream in a user's hands is an owner. -/
theorem mem_owners_of_streams {s : System S} {h : TypedSocketHandle} (hh : h ∈ s.streams) :
    h ∈ s.owners := Multiset.mem_add.mpr (.inr hh)

/-- The event that is handled next is pending. -/
theorem mem_pending_of_next {s : System S} {e : OperationEvent} (h : s.next_event = some e) :
    e ∈ s.pending := by
  obtain ⟨events, hd, he⟩ := Option.bind_eq_some_iff.mp h
  obtain ⟨rest, rfl⟩ := List.head?_eq_some_iff.mp he
  refine Multiset.mem_add.mpr (.inr ?_)
  rw [coe_collected_of_driving hd]
  simp

/-- What is pending in the stack is pending. -/
theorem mem_pending_of_stack {s : System S} : ∀ e ∈ s.stack.pending, e ∈ s.pending :=
  fun _ he => Multiset.mem_add.mpr (.inl he)

/-- What there is when an event is handled was pending before. -/
theorem mem_pending_of_handled {s : System S} {e : OperationEvent} (next : s.next_event = some e) :
    ∀ e₀ ∈ {e} + s.stack.pending, e₀ ∈ s.pending := by
  intro e₀ he
  rcases Multiset.mem_add.mp he with he | he
  · rw [Multiset.mem_singleton.mp he]
    exact mem_pending_of_next next
  · exact mem_pending_of_stack e₀ he

/-- How a step changes which sockets there are, and their owners. -/
inductive Ownership (s s' : System S) : Prop
  | kept (same : SameTables s.stack s'.stack) (owners : s'.owners ≤ s.owners)
  | admitted (h : TypedSocketHandle) (admits : Admits s.stack h s'.stack)
      (owners : s'.owners ≤ {h} + s.owners)
  | removed (h : TypedSocketHandle) (removes : Removes s.stack h s'.stack)
      (owners : {h} + s'.owners ≤ s.owners)

/-- A step moves an owner from one place to the next. -/
theorem ownership_of_effect {s s' : System S} {a : Action} (effect : Effect s a s') :
    Ownership s s' := by
  -- The owners among the pending events, by what happens to these.
  have owners_pending : ∀ {p q : Multiset OperationEvent}, p ≤ q →
      p.filterMap owner ≤ q.filterMap owner := fun h => Multiset.filterMap_le_filterMap owner h
  cases effect with
  | kept same pending infos streams delivered =>
    refine .kept same ?_
    rw [owners, owners, streams]
    exact add_le_add (add_le_add (owners_pending pending) infos) le_rfl
  | admitted packet now batch h socket accepted action opens admits pending infos streams
      delivered =>
    refine .admitted h admits ?_
    have hp := owners_pending pending
    rw [Multiset.filterMap_add, filterMap_singleton] at hp
    rw [owners, owners, infos, streams, ← add_assoc, ← add_assoc]
    exact add_le_add (add_le_add hp le_rfl) le_rfl
  | removed h next removes pending infos streams delivered =>
    refine .removed h removes ?_
    have hp := owners_pending pending
    rw [Multiset.filterMap_add, filterMap_singleton] at hp
    rw [owners, owners, infos, streams, ← add_assoc, ← add_assoc]
    exact add_le_add (add_le_add hp le_rfl) le_rfl
  | delivered h next same pending infos streams delivered =>
    refine .kept same ?_
    have hp := owners_pending pending
    rw [Multiset.filterMap_add, filterMap_singleton] at hp
    rw [owners, owners, streams]
    calc s'.pending.filterMap owner + ↑s'.infos + ↑s.streams
        ≤ s'.pending.filterMap owner + ({h} + ↑s.infos) + ↑s.streams :=
          add_le_add (add_le_add le_rfl infos) le_rfl
      _ = ({h} + s'.pending.filterMap owner) + ↑s.infos + ↑s.streams := by abel
      _ ≤ _ := add_le_add (add_le_add hp le_rfl) le_rfl
  | accepted h same pending infos streams delivered =>
    refine .kept same (le_of_eq ?_)
    rw [owners, owners, pending, infos, streams]
    abel
  | requested c action held same pending infos streams delivered =>
    refine .kept same ?_
    have hp := owners_pending pending
    rw [Multiset.filterMap_add, filterMap_singleton,
      owner_of_result_tx (c.event_result_tx _)] at hp
    rw [owners, owners, infos, streams]
    exact add_le_add (add_le_add (by simpa using hp) le_rfl) le_rfl
  | dropped h same pending infos streams delivered =>
    refine .kept same ?_
    have hp := owners_pending pending
    rw [Multiset.filterMap_add, filterMap_singleton] at hp
    rw [owners, owners, infos, streams]
    calc s'.pending.filterMap owner + ↑s.infos + ↑s'.streams
        ≤ ({h} + s.pending.filterMap owner) + ↑s.infos + ↑s'.streams :=
          add_le_add (add_le_add hp le_rfl) le_rfl
      _ = _ := by abel

/-- A socket that is in its slot after a step was there before, unless it is new. -/
theorem gen_of_ownership {s s' : System S} {i g : ℕ} (ownership : Ownership s s')
    (old : g < s.stack.socket_set.next) (live : s'.stack.socket_set.gen i = some g) :
    s.stack.socket_set.gen i = some g ∧ g < s'.stack.socket_set.next := by
  cases ownership with
  | kept same owners =>
    rw [same.gen] at live
    exact ⟨live, by rwa [same.next]⟩
  | admitted h admits owners =>
    rw [admits.gen] at live
    split_ifs at live
    · rw [admits.handle] at live
      cases live
      exact absurd old (lt_irrefl _)
    · exact ⟨live, by rw [admits.next]; omega⟩
  | removed h removes owners =>
    rw [removes.gen] at live
    split_ifs at live
    exact ⟨live, by rwa [removes.next]⟩

/-- The number of sockets ever added does not go down. -/
theorem next_le_of_ownership {s s' : System S} (ownership : Ownership s s') :
    s.stack.socket_set.next ≤ s'.stack.socket_set.next := by
  cases ownership with
  | kept same owners => exact same.next.ge
  | admitted h admits owners => rw [admits.next]; omega
  | removed h removes owners => exact removes.next.ge

/-- Ownership is kept by every step. -/
theorem Owned.step {s s' : System S} (owned : Owned s) (ownership : Ownership s s') :
    Owned s' := by
  cases ownership with
  | kept same owners =>
    exact ⟨Multiset.nodup_of_le owners owned.nodup, fun h hh =>
      (owned.refers h (Multiset.mem_of_le owners hh)).of_same same⟩
  | admitted h admits owners =>
    have hnew : h ∉ s.owners := fun hh => admits.not_refers (owned.refers h hh)
    rw [Multiset.singleton_add] at owners
    refine ⟨Multiset.nodup_of_le owners (Multiset.nodup_cons.mpr ⟨hnew, owned.nodup⟩), ?_⟩
    intro h' hh'
    rcases Multiset.mem_cons.mp (Multiset.mem_of_le owners hh') with rfl | hh'
    · exact admits.refers
    · exact (owned.refers h' hh').of_admits admits
  | removed h removes owners =>
    rw [Multiset.singleton_add] at owners
    obtain ⟨hgone, nodup⟩ := Multiset.nodup_cons.mp (Multiset.nodup_of_le owners owned.nodup)
    refine ⟨nodup, fun h' hh' => ?_⟩
    have refers := owned.refers h (Multiset.mem_of_le owners (Multiset.mem_cons_self h _))
    have refers' := owned.refers h' (Multiset.mem_of_le owners (Multiset.mem_cons_of_mem hh'))
    exact refers'.of_removes refers (fun hne => hgone (hne ▸ hh')) removes

/-- There is nothing to own at first. -/
theorem owned_new (size : ℕ) (interface : S.Interface) : Owned (new size interface) := by
  have ho : (new size interface).owners = 0 := rfl
  exact ⟨by rw [ho]; exact Multiset.nodup_zero, by rw [ho]; simp⟩

/-- A step keeps the tables in agreement. -/
theorem tables_step {s s' : System S} (tables : s.stack.Tables) (ownership : Ownership s s') :
    s'.stack.Tables := by
  cases ownership with
  | kept same => exact same.keeps tables
  | admitted h admits => exact admits.keeps tables
  | removed h removes => exact removes.keeps tables

/-! ## Deliveries -/

/-- No owner is counted twice. -/
theorem Owned.not_twice {s : System S} (owned : Owned s) {h : TypedSocketHandle} :
    ¬ {h} + {h} ≤ s.owners :=
  fun hle => Multiset.nodup_iff_le.mp owned.nodup h (by simpa using hle)

/-- No two pending events own one socket. -/
theorem Owned.not_both {s : System S} (owned : Owned s) {e e' : OperationEvent}
    {h : TypedSocketHandle} (both : {e} + {e'} ≤ s.pending) (owner : e.owner = some h)
    (owner' : e'.owner = some h) : False := by
  have ho := Multiset.filterMap_le_filterMap OperationEvent.owner both
  rw [Multiset.filterMap_add, filterMap_singleton, filterMap_singleton, owner, owner',
    Option.toList_some, Multiset.coe_singleton] at ho
  refine owned.not_twice (h := h) (ho.trans ?_)
  rw [owners, add_assoc]
  exact Multiset.le_add_right _ _

/-- An owner that is handled next is pending nowhere else. -/
theorem Owned.not_pending_of_next {s : System S} (owned : Owned s) {e : OperationEvent}
    {h : TypedSocketHandle} (next : s.next_event = some e) (owner : e.owner = some h) :
    e ∉ s.stack.pending := by
  intro he
  obtain ⟨rest, hd⟩ := driving_of_next next
  have hle : {e} + {e} ≤ s.pending := by
    rw [pending, coe_collected_of_driving hd]
    exact add_le_add (Multiset.singleton_le.mpr he) (Multiset.le_add_right _ _)
  exact owned.not_both hle owner owner

/-- No socket was sent to an acceptor twice, and none will be. -/
structure DeliveredOnce (s : System S) : Prop where
  nodup : s.delivered.Nodup
  not_ready : ∀ h ∈ s.delivered, .ready h ∉ s.pending
  old : ∀ h ∈ s.delivered, h.handle.incarnation < s.stack.socket_set.next

/-- A step that delivers nothing, and makes no delivered socket Ready again. -/
theorem DeliveredOnce.of_same {s s' : System S} (once : DeliveredOnce s)
    (delivered : s'.delivered = s.delivered)
    (ready : ∀ h ∈ s.delivered, .ready h ∈ s'.pending → .ready h ∈ s.pending)
    (next : s.stack.socket_set.next ≤ s'.stack.socket_set.next) : DeliveredOnce s' where
  nodup := by rw [delivered]; exact once.nodup
  not_ready h hh hr := by
    rw [delivered] at hh
    exact once.not_ready h hh (ready h hh hr)
  old h hh := by
    rw [delivered] at hh
    exact (once.old h hh).trans_le next

/-- A step delivers no socket a second time. -/
theorem DeliveredOnce.step {s s' : System S} {a : Action} (once : DeliveredOnce s)
    (owned : Owned s) (effect : Effect s a s') : DeliveredOnce s' := by
  cases effect with
  | kept same pending infos streams delivered =>
    exact once.of_same delivered (fun h _ hr => Multiset.mem_of_le pending hr) same.next.ge
  | admitted packet now batch h socket accepted action opens admits pending infos streams
      delivered =>
    refine once.of_same delivered (fun h' hh' hr => ?_) (by rw [admits.next]; omega)
    rcases Multiset.mem_add.mp (Multiset.mem_of_le pending hr) with hr | hr
    · -- The new socket is none of those that were delivered.
      obtain rfl : h' = h := by simpa using hr
      have hlt := once.old h' hh'
      rw [admits.handle] at hlt
      exact absurd hlt (lt_irrefl _)
    · exact hr
  | removed h next removes pending infos streams delivered =>
    refine once.of_same delivered (fun h' _ hr => ?_) removes.next.ge
    exact Multiset.mem_of_le pending (Multiset.mem_add.mpr (.inr hr))
  | delivered h next same pending infos streams delivered =>
    have hready : .ready h ∈ s.pending := mem_pending_of_next next
    have hnew : h ∉ s.delivered := fun hh => once.not_ready h hh hready
    rw [Multiset.singleton_add, Multiset.cons_coe] at delivered
    have hmem : ∀ h' ∈ s'.delivered, h' = h ∨ h' ∈ s.delivered := fun h' hh' => by
      simpa using Multiset.mem_of_le delivered (Multiset.mem_coe.mpr hh')
    refine ⟨?_, fun h' hh' hr => ?_, fun h' hh' => ?_⟩
    · exact Multiset.coe_nodup.mp (Multiset.nodup_of_le delivered
        (Multiset.coe_nodup.mpr (List.nodup_cons.mpr ⟨hnew, once.nodup⟩)))
    · rcases hmem h' hh' with rfl | hh'
      · -- A second Ready of the same socket would be a second owner.
        have hle := (Multiset.add_le_add_left (Multiset.singleton_le.mpr hr)).trans pending
        have ho := Multiset.filterMap_le_filterMap owner hle
        rw [Multiset.filterMap_add, filterMap_singleton] at ho
        refine owned.not_twice (h := h') (ho.trans ?_)
        rw [owners, add_assoc]
        exact Multiset.le_add_right _ _
      · exact once.not_ready h' hh' (Multiset.mem_of_le pending (Multiset.mem_add.mpr (.inr hr)))
    · rw [same.next]
      rcases hmem h' hh' with rfl | hh'
      · exact Arena.gen_lt_next (owned.refers h' (mem_owners_of_pending hready rfl)).1
      · exact once.old h' hh'
  | accepted h same pending infos streams delivered =>
    exact once.of_same delivered (fun h' _ hr => by rwa [pending] at hr) same.next.ge
  | requested c action held same pending infos streams delivered =>
    refine once.of_same delivered (fun h' _ hr => ?_) same.next.ge
    rcases Multiset.mem_add.mp (Multiset.mem_of_le pending hr) with hr | hr
    · have he := Multiset.mem_singleton.mp hr
      have htx := c.event_result_tx s.issued.length
      rw [← he] at htx
      cases htx
    · exact hr
  | dropped h same pending infos streams delivered =>
    refine once.of_same delivered (fun h' _ hr => ?_) same.next.ge
    rcases Multiset.mem_add.mp (Multiset.mem_of_le pending hr) with hr | hr
    · cases Multiset.mem_singleton.mp hr
    · exact hr

/-! ## Reachable states -/

/-- What holds of the tables and of ownership in every reachable state. -/
structure Sound (s : System S) : Prop where
  tables : s.stack.Tables
  owned : Owned s
  once : DeliveredOnce s

/-- The new system is sound. -/
theorem sound_new (size : ℕ) (interface : S.Interface) : Sound (new size interface) where
  tables := tables_new size interface
  owned := owned_new size interface
  once := ⟨List.nodup_nil, by simp [new, delivered, TcpStack.new, Channel.unbounded],
    by simp [new, delivered, TcpStack.new, Channel.unbounded]⟩

/-- A step keeps the system sound. -/
theorem Sound.step {s s' : System S} {a : Action} (sound : Sound s)
    (h : s.step a = some s') : Sound s' := by
  have effect := effect_of_steps (steps_of_step h)
  have ownership := ownership_of_effect effect
  exact ⟨tables_step sound.tables ownership, sound.owned.step ownership,
    sound.once.step sound.owned effect⟩

/-- The system is sound in every run. -/
theorem sound_of_run {size : ℕ} {interface : S.Interface} {guard : System S → Action → Prop}
    {s : System S} (run : Run System.step guard (new size interface) s) : Sound s :=
  run.invariant (sound_new size interface) fun _ _ _ _ _ h sound => sound.step h

/-- The handle of an event that owns its socket is in the table when the event is handled. -/
theorem Sound.contains_of_next {s : System S} (sound : Sound s) {e : OperationEvent}
    {h : TypedSocketHandle} (next : s.next_event = some e) (howner : e.owner = some h) :
    s.stack.Refers h ∧ s.stack.contains h = true := by
  have refers := sound.owned.refers h (mem_owners_of_pending (mem_pending_of_next next) howner)
  exact ⟨refers, decide_eq_true (refers.mem sound.tables)⟩

/-- In every reachable state each socket has at most one owner among the pending Ready and Close
events, the acceptors' channels, and the users' streams, and every owner refers to a socket that is
in the socket set and in the handle table. Hence no socket is delivered twice, and a Ready or Close
that is handled always finds the socket that it was made for. -/
theorem one_owner {size : ℕ} {interface : S.Interface} {s : System S}
    (run : Reachable step (new size interface) s) :
    (∀ g, (s.owners.filter fun h => h.handle.incarnation = g).card ≤ 1) ∧
    (∀ h ∈ s.owners, s.stack.Refers h ∧ h.key ∈ s.stack.socket_handles) ∧
    s.delivered.Nodup ∧
    (∀ h, s.next_event = some (.ready h) → s.stack.Refers h ∧ s.stack.contains h = true) ∧
    ∀ h, s.next_event = some (.close h) → s.stack.Refers h ∧ s.stack.contains h = true := by
  have sound := sound_of_run run
  refine ⟨fun g => ?_, fun h hh => ?_, sound.once.nodup, fun h next => ?_, fun h next => ?_⟩
  · rw [← Multiset.toFinset_card_of_nodup (sound.owned.nodup.filter _), Finset.card_le_one]
    intro h hh h' hh'
    rw [Multiset.mem_toFinset, Multiset.mem_filter] at hh hh'
    exact (sound.owned.refers h hh.1).unique_of_incarnation (sound.owned.refers h' hh'.1)
      (hh.2.trans hh'.2.symm)
  · have refers := sound.owned.refers h hh
    exact ⟨refers, refers.mem sound.tables⟩
  · exact sound.contains_of_next next rfl
  · exact sound.contains_of_next next rfl

open Reference in
/-- A connection is opened, delivered, accepted, and dropped: its Close then finds it. -/
theorem one_owner_dropped_stream : ∃ s : System reference,
    exec step (new 64 ()) [
      .start (some (syn 1 2)) 0 none, .finish, .start (some (ack 1 2 [7])) 0 none, .finish,
      .generate, .start none 0 (some 0), .event, .finish, .accept_tcp,
      .drop_tcp_stream ⟨⟨0, 0⟩, client_addr 1, server_addr 2⟩, .generate,
      .start none 0 (some 0)] = some s ∧
    s.next_event = some (.close (.tcp ⟨0, 0⟩)) ∧ s.stack.contains (.tcp ⟨0, 0⟩) = true := by
  obtain ⟨s, hs, hn⟩ := exists_of_exec_any step (new 64 () : System reference)
    [
      .start (some (syn 1 2)) 0 none, .finish, .start (some (ack 1 2 [7])) 0 none, .finish,
      .generate, .start none 0 (some 0), .event, .finish, .accept_tcp,
      .drop_tcp_stream ⟨⟨0, 0⟩, client_addr 1, server_addr 2⟩, .generate,
      .start none 0 (some 0)]
    (fun s => s.next_event = some (.close (.tcp ⟨0, 0⟩))) (by decide +kernel)
  have hn : s.next_event = some (.close (.tcp ⟨0, 0⟩)) := of_decide_eq_true hn
  exact ⟨s, hs, hn, ((one_owner (Run.of_exec hs)).2.2.2.2 _ hn).2⟩

end System

end L3Extract
