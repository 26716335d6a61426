import L3Extract.Smoltcp.Reference
import L3Extract.Stack.View
import L3Extract.System.Packets

/-!
# The answer to a Shutdown

The handler of a Shutdown leaves the answer to smoltcp: it registers a waker that answers, and calls
`close`, which runs the waker if it changes the state of the socket. On a socket whose transmit half
is shut already, or that is closed, `close` changes nothing, and the Shutdown stays in the waker. In
CLOSED nothing runs it any more (`shutdown_parked`).

`shutdown_answered` says that the handler answers exactly when `close` changes the state.
-/

namespace L3Extract

open OperationEvent Transition TcpStack

variable {S : Smoltcp}

/-- The states that `close` changes: LISTEN, SYN-SENT, SYN-RECEIVED, ESTABLISHED, and CLOSE-WAIT. -/
def TcpState.closable (state : TcpState) : Bool := state.after_close ≠ state

namespace TcpStack

/-- The slot of the handle has no socket to shut down, or one whose state `close` changes. -/
def shuts (t : TcpStack S) (h : TypedSocketHandle) : Bool :=
  !t.contains h || (t.tcp_at h.handle.index).any fun c => (S.tcp.state c).closable

/-- A Shutdown shuts a socket whose transmit half is open. -/
theorem shuts_tcp {t : TcpStack S} {handle : SocketHandle} {c : S.Tcp}
    (found : t.contains (.tcp handle) = true) (slot : t.tcp_at handle.index = some c) :
    t.shuts (.tcp handle) = (S.tcp.state c).closable := by
  simp only [shuts, found, TypedSocketHandle.handle, slot, Option.any_some, Bool.not_true,
    Bool.false_or]

/-! ## Wakers of a Shutdown -/

/-- The closure of a Shutdown's waker answers. -/
theorem answers_wake_both {t : TcpStack S} {i : ℕ} {h : TypedSocketHandle} {tx : ResultTx}
    (parked : t.waker i .send = some (.shutdown h tx)) :
    ∃ new, (t.wake_both i).answers = t.answers ++ new ∧ (tx, .ok .done) ∈ new := by
  obtain ⟨new, first, -⟩ := answers_wake t i .recv
  have still : (t.wake i .recv).waker i .send = some (.shutdown h tx) := by
    rw [waker_wake, if_neg (by simp), parked]
  have second : (t.wake_both i).answers = (t.wake i .recv).answers ++ [(tx, .ok .done)] := by
    rw [wake_both, wake_of_some still]
    rfl
  exact ⟨new ++ [(tx, .ok .done)], by rw [second, first, List.append_assoc], by simp⟩

/-- `close` runs the wakers of its socket if it changes the state. -/
theorem waker_close_tcp (spec : S.Spec) (t : TcpStack S) (i : ℕ) (c : S.Tcp) (side : Side) :
    (t.close_tcp i c).waker i side =
      if (S.tcp.state c).closable then none else t.waker i side := by
  have closable : (S.tcp.state c).closable = true ↔
      S.tcp.state (S.tcp.close c) ≠ S.tcp.state c := by
    rw [spec.close_state, TcpState.closable, decide_eq_true_eq]
  unfold close_tcp
  dsimp only
  split_ifs with same changes changes
  · exact absurd same (closable.mp changes)
  · exact waker_put t i i _ side
  · rw [wake_both, waker_wake, waker_wake]
    cases side <;> simp
  · exact absurd (closable.mpr same) changes

/-- The handler of a Shutdown answers it, or parks it. -/
theorem shutdown_answered_iff (spec : S.Spec) {t t' : TcpStack S} {h : TypedSocketHandle}
    {tx : ResultTx} (ok : t.handle (.shutdown h tx) = .ok t') :
    ((∃ a new, t'.answers = t.answers ++ new ∧ (tx, a) ∈ new) ↔ t.shuts h = true) ∧
      (t.shuts h = false → t'.waker h.handle.index .send = some (.shutdown h tx)) := by
  cases shutdown_cases ok with
  | unknown gone =>
    have shuts : t.shuts h = true := by
      rw [shuts, gone]
      rfl
    refine ⟨iff_of_true ⟨_, [(tx, _)], rfl, List.mem_singleton_self _⟩ shuts, fun no => ?_⟩
    rw [shuts] at no
    cases no
  | @closed handle c found socket =>
    have shuts := shuts_tcp found (tcp_at_eq_some.mpr socket)
    have registered : (t.register handle.index .send (.shutdown (.tcp handle) tx)).waker
        handle.index .send = some (.shutdown (.tcp handle) tx) := by
      rw [waker_register, if_pos ⟨rfl, rfl, Option.isSome_of_eq_some socket⟩]
    rw [shuts]
    cases closable : (S.tcp.state c).closable with
    | true =>
      -- The close changes the state, and runs the waker that was just registered.
      have changes : S.tcp.state (S.tcp.close c) ≠ S.tcp.state c := by
        rw [spec.close_state]
        exact of_decide_eq_true closable
      have closed := (waker_put (t.register handle.index .send (.shutdown (.tcp handle) tx))
        handle.index handle.index (.tcp (S.tcp.close c)) .send).trans registered
      obtain ⟨new, answers, answered⟩ := answers_wake_both closed
      refine ⟨iff_of_true ⟨_, new, ?_, answered⟩ rfl, fun no => by cases no⟩
      rw [close_tcp, if_neg changes, answers]
      rfl
    | false =>
      -- The close changes nothing, and runs no waker.
      have same : S.tcp.state (S.tcp.close c) = S.tcp.state c := by
        rw [spec.close_state]
        exact of_decide_eq_false closable |> not_not.mp
      refine ⟨iff_of_false ?_ (by simp), fun _ => ?_⟩
      · rintro ⟨a, new, answers, answered⟩
        rw [close_tcp, if_pos same] at answers
        have none : t.answers ++ new = t.answers := answers.symm
        rw [List.append_right_eq_self.mp none] at answered
        cases answered
      · exact (waker_close_tcp spec _ _ _ _).trans (by rw [closable]; exact registered)

/-- No Shutdown is parked. -/
def NoneShut (t : TcpStack S) : Prop :=
  ∀ i side h tx, t.waker i side ≠ some (.shutdown h tx)

/-- Beginning a call parks no Shutdown. -/
theorem Begins.noneShut {t t' : TcpStack S} {packet : Option Packet} {now : ℕ}
    {res : Except DriveError Unit} (begins : Begins t packet now t' res) (unshut : t.NoneShut) :
    t'.NoneShut := by
  have poll : ∀ {u : TcpStack S}, u.NoneShut → ((u.push packet).poll now).NoneShut := by
    intro u unshut i side h tx hw
    have before := (wakes_poll (u.push packet) now).waker_of_some hw
    rw [waker_advance] at before
    exact unshut i side h tx before
  have adds : ∀ {u : TcpStack S} {h' s new accepted}, Adds t h' s new accepted u → u.NoneShut := by
    intro u h' s new accepted adds i side h tx hw
    by_cases hi : i = h'.handle.index
    · subst hi
      cases side with
      | recv =>
        rw [adds.waker_recv] at hw
        cases hw
      | send => cases adds.waker_send _ hw
    · rw [adds.waker i side hi] at hw
      exact unshut i side h tx hw
  cases begins with
  | failed => exact unshut
  | unready arrived opens h => exact adds h
  | polled quiet => exact poll unshut
  | opened arrived opens h => exact poll (adds h)

/-- A Shutdown that is answered leaves none parked, and other events are not Shutdowns. -/
theorem NoneShut.handle (spec : S.Spec) {t t' : TcpStack S} {e : OperationEvent}
    (ok : t.handle e = .ok t') (shuts : ∀ h tx, e = .shutdown h tx → t.shuts h = true)
    (unshut : t.NoneShut) : t'.NoneShut := by
  intro i side h tx hw
  have outcome := handle_outcome ok
  rcases outcome.waker hw with old | rfl
  · exact unshut i side h tx old
  -- The waker is the Shutdown's own.
  by_cases hi : i = h.handle.index
  swap
  · rw [waker, outcome.val_of_ne hi] at hw
    exact unshut i side h tx hw
  subst hi
  cases shutdown_cases ok with
  | unknown gone => exact unshut _ side h tx hw
  | @closed handle c found socket =>
    have closable : (S.tcp.state c).closable = true := by
      have := shuts _ _ rfl
      rwa [shuts_tcp found (tcp_at_eq_some.mpr socket)] at this
    rw [show (TypedSocketHandle.tcp handle).handle.index = handle.index from rfl,
      waker_close_tcp spec, if_pos closable] at hw
    cases hw

end TcpStack

namespace System

/-- Only Shutdowns are handled that find no socket, or one whose state `close` changes. -/
def Shuts (s : System S) (a : Action) : Prop :=
  a = .event → ∀ h tx, s.next_event = some (.shutdown h tx) → s.stack.shuts h = true

/-- In every run whose Shutdowns meet the condition, no Shutdown is ever left in a waker. In every
reachable state, the handler of a Shutdown returns, answers it if and only if the condition holds,
and leaves it in the send waker of its slot otherwise. -/
theorem shutdown_answered (spec : S.Spec) (size : ℕ) (interface : S.Interface) :
    (∀ s : System S, Run step Shuts (new size interface) s → s.stack.NoneShut) ∧
    ∀ s : System S, Reachable step (new size interface) s → ∀ h tx,
      s.next_event = some (.shutdown h tx) →
      ∃ t, s.stack.handle (.shutdown h tx) = .ok t ∧
        ((∃ a new, t.answers = s.stack.answers ++ new ∧ (tx, a) ∈ new) ↔ s.stack.shuts h = true) ∧
        (s.stack.shuts h = false → t.waker h.handle.index .send = some (.shutdown h tx)) := by
  constructor
  · intro s run
    refine run.invariant (I := fun s => s.stack.NoneShut) ?_ fun s a s' _ meets h unshut => ?_
    · intro i side h tx hw
      simp [new, TcpStack.new, waker] at hw
    cases stack_step h with
    | began packet now batch res action ok => exact (begin_drive_cases ok).noneShut unshut
    | handled e action next ok =>
      exact unshut.handle spec ok fun h tx he => meets action h tx (he ▸ next)
    | outside socket_set socket_handles accepted_udp_sockets rx_queue =>
      intro i side h tx hw
      rw [waker, socket_set] at hw
      exact unshut i side h tx hw
  · intro s run h tx next
    obtain ⟨t, ok⟩ := handle_ok_of_next spec run next (by simp)
    exact ⟨t, ok, shutdown_answered_iff spec ok⟩

open Reference in
/-- A client opens a connection, and the user accepts it. -/
def accepted_connection : List Action := [
  .start (some (syn 1 2)) 0 none, .finish, .start (some (ack 1 2 [])) 0 none, .finish, .generate,
  .start none 0 (some 0), .event, .finish, .accept_tcp]

open Reference in
/-- The stream of the connection is shut down, and the call's event comes next. -/
def shut_down : List Action := [
  .call (.shutdown ⟨⟨0, 0⟩, client_addr 1, server_addr 2⟩), .generate, .start none 0 (some 0)]

open Reference in
/-- The client resets the connection. Its stream is shut down then, and the Shutdown waits in CLOSED
for a change of the state. -/
theorem shutdown_parked : ∃ s t : System reference,
    exec step (new 64 ()) (accepted_connection ++ [.start (some (rst 1 2)) 0 none, .finish] ++
      shut_down) = some s ∧
    s.next_event = some (.shutdown (.tcp ⟨0, 0⟩) 0) ∧ s.step .event = some t ∧
    (t.stack.tcp_at 0).map reference.tcp.state = some .closed ∧ t.stack.answers = [] ∧
    t.stack.waker 0 .send = some (.shutdown (.tcp ⟨0, 0⟩) 0) := by
  obtain ⟨s, hs, ht⟩ := exists_of_exec_any step (new 64 () : System reference)
    (accepted_connection ++ [.start (some (rst 1 2)) 0 none, .finish] ++ shut_down)
    (fun s => s.next_event = some (.shutdown (.tcp ⟨0, 0⟩) 0) ∧ (s.step .event).any fun t =>
      (t.stack.tcp_at 0).map reference.tcp.state = some .closed ∧ t.stack.answers = [] ∧
      t.stack.waker 0 .send = some (.shutdown (.tcp ⟨0, 0⟩) 0))
    (by decide +kernel)
  obtain ⟨next, ht⟩ := of_decide_eq_true ht
  obtain ⟨t, handled, ht⟩ := (Option.any_eq_true _ _).mp ht
  exact ⟨s, t, hs, next, handled, of_decide_eq_true ht⟩

/-- On a connection that is open the Shutdown is answered. -/
theorem shutdown_answered_established : ∃ (s : System reference) (t : TcpStack reference),
    s.next_event = some (.shutdown (.tcp ⟨0, 0⟩) 0) ∧
    s.stack.handle (.shutdown (.tcp ⟨0, 0⟩) 0) = .ok t ∧
    ∃ a new, t.answers = s.stack.answers ++ new ∧ (0, a) ∈ new := by
  obtain ⟨s, hs, ht⟩ := exists_of_exec_any step (new 64 () : System reference)
    (accepted_connection ++ shut_down)
    (fun s => s.next_event = some (.shutdown (.tcp ⟨0, 0⟩) 0) ∧ s.stack.shuts (.tcp ⟨0, 0⟩) = true)
    (by decide +kernel)
  obtain ⟨next, shuts⟩ := of_decide_eq_true ht
  obtain ⟨t, ok, answered, -⟩ :=
    (shutdown_answered reference_spec 64 ()).2 s (Run.of_exec hs) _ _ next
  exact ⟨s, t, next, ok, answered.mpr shuts⟩

end System

end L3Extract
