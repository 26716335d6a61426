import L3Extract.Stack.Buffers
import L3Extract.System.Retention

/-!
# The record of a run

What requests do to sockets is a matter of whole runs. A `Record` is kept beside the state of the
system (`Transition.recording`): the calls that issued the requests, and for every socket each
change of what its buffers hold, with the request whose event was being handled. The changes are
observed on the sockets before and after the step, not taken from what the handler says it did. Of
the callers, the record has who dropped the future of a call, and which requests were handled after
that.

`traffic_of_step` says what a step can do to requests and to buffers.
-/

namespace L3Extract

open OperationEvent Transition TcpStack

variable {S : Smoltcp}

/-- A change of what the buffers of a socket hold. Before it is made and after it is removed, the
socket has no buffers. -/
structure Change where
  /-- The request whose event is handled, if one is. -/
  cause : Option ResultTx
  before : Option Buffers
  after : Option Buffers
  deriving DecidableEq

/-- What happened in a run. -/
structure Record where
  /-- The calls that issued the requests, by the number of the request. -/
  calls : List Call
  /-- The changes of a socket's buffers, by the socket's handle. -/
  changes : SocketHandle → List Change
  /-- The requests whose futures were dropped. -/
  dropped : List ResultTx
  /-- The requests whose events were handled when their futures were no longer there. -/
  abandoned : List ResultTx

/-- The request whose future an action drops. -/
def Action.drops : Action → Option ResultTx
  | .drop_future rx => some rx
  | _ => none

namespace System

/-- The event that an action handles. -/
def handles (s : System S) : Action → Option OperationEvent
  | .event => s.next_event
  | _ => none

/-- The request whose event an action handles. -/
def cause (s : System S) : Action → Option ResultTx
  | .event => s.next_event.bind result_tx
  | _ => none

/-- The request whose event an action handles when its future is not there. -/
def abandons (s : System S) (a : Action) : Option ResultTx :=
  (s.handles a).bind fun e => e.result_tx.filter fun id => ⟨e.handle, id⟩ ∉ s.futures

/-- The call that an action issues a request for. -/
def issues (s : System S) : Action → List Call
  | .call c => if s.stack.operation_event.connected then [c] else []
  | _ => []

end System

namespace Record

/-- The record of a run that has not begun. -/
def empty : Record := ⟨[], fun _ => [], [], []⟩

/-- The record after one more step. -/
def note (r : Record) (s : System S) (a : Action) (s' : System S) : Record where
  calls := r.calls ++ s.issues a
  changes h := r.changes h ++
    if s'.stack.buffers h = s.stack.buffers h then []
    else [⟨s.cause a, s.stack.buffers h, s'.stack.buffers h⟩]
  dropped := r.dropped ++ a.drops.toList
  abandoned := r.abandoned ++ (s.abandons a).toList

/-- What a request did to the buffers of a socket: what they held before and after. -/
def done (r : Record) (id : ResultTx) (h : SocketHandle) :
    List (Option Buffers × Option Buffers) :=
  (r.changes h).filterMap fun ch => if ch.cause = some id then some (ch.before, ch.after) else none

/-- The request did nothing to any socket. -/
def Untouched (r : Record) (id : ResultTx) : Prop := ∀ h, r.done id h = []

/-- The request changed what the buffers of one socket hold from `b` to `b'`, once, and did nothing
else to any socket. -/
def Moved (r : Record) (id : ResultTx) (b b' : Buffers) : Prop :=
  ∃ h, ∀ h', r.done id h' = if h' = h ∧ b' ≠ b then [(some b, some b')] else []

/-- What a request does in a step comes after what it did before. -/
theorem done_note (r : Record) (s : System S) (a : Action) (s' : System S) (id : ResultTx)
    (h : SocketHandle) : (r.note s a s').done id h = r.done id h ++
      if s.cause a = some id ∧ s'.stack.buffers h ≠ s.stack.buffers h
      then [(s.stack.buffers h, s'.stack.buffers h)] else [] := by
  simp only [done, note, List.filterMap_append]
  by_cases heq : s'.stack.buffers h = s.stack.buffers h
  · simp [heq]
  · by_cases hc : s.cause a = some id <;> simp [heq, hc]

/-- A step that handles no event of the request. -/
theorem done_note_of_ne {r : Record} {s s' : System S} {a : Action} {id : ResultTx}
    (h : s.cause a ≠ some id) (h' : SocketHandle) :
    (r.note s a s').done id h' = r.done id h' := by
  rw [done_note, if_neg fun hc => h hc.1, List.append_nil]

/-- A step that does nothing to any socket. -/
theorem done_note_of_same {r : Record} {s s' : System S} {a : Action}
    (same : ∀ h, s'.stack.buffers h = s.stack.buffers h) (id : ResultTx) (h : SocketHandle) :
    (r.note s a s').done id h = r.done id h := by
  rw [done_note, if_neg fun hc => hc.2 (same h), List.append_nil]

end Record

namespace System

/-- The call of a request that was issued stays in the record. -/
theorem call_note {r : Record} {id : ℕ} {c : Call} (call : r.calls[id]? = some c) (s : System S)
    (a : Action) (s' : System S) : (r.note s a s').calls[id]? = some c := by
  rw [← call]
  exact List.getElem?_append_left (List.getElem?_eq_some_iff.mp call).1

/-- What a step does to requests and to the buffers of sockets. -/
inductive Traffic (s : System S) (a : Action) (s' : System S) : Prop
  /-- No event is handled, and no request is issued. -/
  | silent (silent : Silent s.stack s.stack.pending s'.stack) (cause : s.cause a = none)
      (issues : s.issues a = []) (issued : s'.issued = s.issued)
  | handled (e : OperationEvent) (action : a = .event) (next : s.next_event = some e)
      (dealt : Dealt s.stack e s'.stack) (cause : s.cause a = e.result_tx)
      (issues : s.issues a = [])
      (issued : s'.issued = s.issued)
  | called (c : Call) (cause : s.cause a = none) (issues : s.issues a = [c])
      (connected : s.stack.operation_event.connected = true) (eq : s' = s.issue c)

/-- What a step does to requests and buffers. -/
theorem traffic_of_step (spec : S.Spec) {s s' : System S} {a : Action} (h : s.step a = some s') :
    Traffic s a s' := by
  -- A step outside the stack, or in which only its channels change.
  have outside : s'.stack.memory = s.stack.memory → s'.stack.answers = s.stack.answers →
      s.cause a = none → s.issues a = [] → s'.issued = s.issued → Traffic s a s' :=
    fun memory answers cause issues issued => .silent (.same _ memory answers) cause issues issued
  cases steps_of_step h with
  | started packet now batch events batches stack res action rest took ok eq =>
    subst action eq
    exact .silent (begin_drive_cases ok).silent rfl rfl rfl
  | handled e events stack action driving ok eq =>
    subst action eq
    have next : s.next_event = some e := by rw [next_event, driving]; rfl
    refine .handled e rfl next ((handle_outcome ok).dealt spec) ?_ rfl rfl
    rw [cause, next]
    rfl
  | finished action driving eq => subst action eq; exact outside rfl rfl rfl rfl rfl
  | generated action connected eq => subst action eq; exact outside rfl rfl rfl rfl rfl
  | batch_dropped i action eq => subst action eq; exact outside rfl rfl rfl rfl rfl
  | generator_dropped action eq => subst action eq; exact outside rfl rfl rfl rfl rfl
  | accepted_tcp info rest action queue eq => subst action eq; exact outside rfl rfl rfl rfl rfl
  | accepted_udp info rest action queue eq => subst action eq; exact outside rfl rfl rfl rfl rfl
  | tcp_acceptor_dropped action eq => subst action eq; exact outside rfl rfl rfl rfl rfl
  | udp_acceptor_dropped action eq => subst action eq; exact outside rfl rfl rfl rfl rfl
  | called c action held connected eq =>
    subst action
    exact .called c rfl (if_pos connected) connected eq
  | refused c action connected eq =>
    subst action eq
    exact outside rfl rfl rfl (if_neg (by simp [connected])) rfl
  | returned futures action sub eq =>
    subst eq
    rcases action with ⟨rx, rfl⟩ | ⟨rx, rfl⟩ <;> exact outside rfl rfl rfl rfl rfl
  | tcp_stream_dropped stream action held idle eq =>
    subst action eq
    exact outside rfl rfl rfl rfl rfl
  | udp_socket_dropped socket action held idle eq =>
    subst action eq
    exact outside rfl rfl rfl rfl rfl

/-! ## The account of requests -/

/-- A step that issues no request makes no request pending. -/
theorem pending_le_of_effect {s s' : System S} {a : Action} (effect : Effect s a s')
    (issued : s'.issued = s.issued) :
    ∃ new : Multiset OperationEvent, s'.pending ≤ new + s.pending ∧
      new.filterMap result_tx = 0 := by
  have fewer : ∀ {e : OperationEvent}, {e} + s'.pending ≤ s.pending →
      ∃ new : Multiset OperationEvent, s'.pending ≤ new + s.pending ∧
        new.filterMap result_tx = 0 :=
    fun le => ⟨0, by rw [zero_add]; exact (Multiset.le_add_left _ _).trans le, rfl⟩
  cases effect with
  | kept same pending => exact ⟨0, by rwa [zero_add], rfl⟩
  | admitted packet now batch h socket accepted action opens admits pending =>
    exact ⟨_, pending, rfl⟩
  | removed h next removes pending => exact fewer pending
  | delivered h next same pending => exact fewer pending
  | accepted h same pending => exact ⟨0, by rw [zero_add, pending], rfl⟩
  | requested c action held same pending infos streams delivered hi =>
    rw [issued] at hi
    simp at hi
  | dropped h same pending => exact ⟨_, pending, rfl⟩

/-- A request that is pending after a step was pending before, or is the one that was issued. -/
theorem request_of_pending {s s' : System S} {a : Action} (effect : Effect s a s')
    (issued : s'.issued = s.issued) {e : OperationEvent} (he : e ∈ s'.pending) {id : ResultTx}
    (hid : e.result_tx = some id) : e ∈ s.pending := by
  obtain ⟨new, le, none⟩ := pending_le_of_effect effect issued
  rcases Multiset.mem_add.mp (Multiset.mem_of_le le he) with he | he
  · have : id ∈ new.filterMap result_tx := (Multiset.mem_filterMap _ _).mpr ⟨e, he, hid⟩
    simp [none] at this
  · exact he

/-- The account of requests grows by the requests that are issued only. -/
theorem requests_le_of_step {s s' : System S} {a : Action} (h : s.step a = some s')
    (issued : s'.issued = s.issued) : s'.requests ≤ s.requests := by
  have effect := effect_of_steps (steps_of_step h)
  cases call_step h with
  | started packet now batch events batches stack res action rest took ok eq =>
    subst eq
    refine add_le_add (begin_drive_cases ok).requests.le (Multiset.filterMap_le_filterMap _ ?_)
    cases res with
    | ok u => exact (coe_collected_of_start rest took).le
    | error err => simpa [collected, begun] using coe_collected_of_failure rest took
  | handled e events stack action driving ok eq =>
    subst eq
    obtain ⟨lost, -, hlost⟩ := (handle_outcome ok).requests
    have hcollected : (↑s.collected : Multiset OperationEvent).filterMap result_tx =
        ↑e.result_tx.toList +
          (↑(s.batches.flatten ++ events) : Multiset _).filterMap result_tx := by
      rw [coe_collected_of_driving driving, Multiset.filterMap_add, filterMap_singleton]
    rw [requests, requests, hcollected]
    calc stack.requests + (↑(s.batches.flatten ++ events) : Multiset _).filterMap result_tx
        ≤ (↑e.result_tx.toList + s.stack.requests) +
            (↑(s.batches.flatten ++ events) : Multiset _).filterMap result_tx :=
          add_le_add (hlost ▸ Multiset.le_add_right _ _) le_rfl
      _ = _ := by abel
  | beside driving socket_set answers =>
    -- Nothing is answered, and no request becomes pending.
    obtain ⟨new, le, none⟩ := pending_le_of_effect effect issued
    rw [requests_eq, requests_eq, answers]
    have := Multiset.filterMap_le_filterMap result_tx le
    rw [Multiset.filterMap_add, none, zero_add] at this
    exact add_le_add this le_rfl

end System

end L3Extract
