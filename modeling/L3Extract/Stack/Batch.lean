import L3Extract.Stack.Handlers

/-!
# The three passes over a batch

`drive_once` goes through a batch three times: it handles Ready, Shutdown, and Close as it scans the
batch, then Read and Write, then Recv and Send. `handle_events_eq` says that this is handling the
events one by one in the order `passes`.
-/

namespace L3Extract

open OperationEvent

variable {S : Smoltcp}

/-- The order in which `drive_once` handles a batch. -/
def passes (events : List OperationEvent) : List OperationEvent :=
  events.filter (·.deferred = none) ++ events.filter (·.deferred = some .tcp) ++
    events.filter (·.deferred = some .udp)

/-- The passes of `drive_once` over a batch only reorder it. -/
theorem passes_perm (events : List OperationEvent) : (passes events).Perm events := by
  refine List.perm_iff_count.mpr fun e => ?_
  have hcount : ∀ p : Option Protocol,
      (events.filter (·.deferred = p)).count e = if e.deferred = p then events.count e else 0 := by
    intro p
    split_ifs with hp
    · exact List.count_filter (by simpa using hp)
    · exact List.count_eq_zero.mpr fun h => hp (by simpa using (List.mem_filter.mp h).2)
  simp only [passes, List.count_append, hcount]
  cases e.deferred with
  | none => simp
  | some p => cases p <;> simp

namespace TcpStack

/-- The handlers are run one event at a time, in list order. -/
def handle_in_order (t : TcpStack S) (events : List OperationEvent) : Except Panic (TcpStack S) :=
  events.foldlM handle t

/-- The scan handles the events that are not put off, and collects the others. -/
theorem scan_events_eq (t : TcpStack S) (tcp_events udp_events events : List OperationEvent) :
    t.scan_events tcp_events udp_events events =
      (t.handle_in_order (events.filter (·.deferred = none))).map fun u =>
        (u, tcp_events ++ events.filter (·.deferred = some .tcp),
          udp_events ++ events.filter (·.deferred = some .udp)) := by
  induction events generalizing t tcp_events udp_events with
  | nil => simp [scan_events, handle_in_order, Except.map, pure, Except.pure]
  | cons e events ih =>
    cases e with
    | ready h =>
      cases hh : t.handle_ready_wake_event h <;>
        simp [scan_events, handle_in_order, deferred, handle, hh, bind, Except.bind, Except.map]
      exact ih _ _ _
    | shutdown h tx =>
      cases hh : t.handle_shutdown_event h tx <;>
        simp [scan_events, handle_in_order, deferred, handle, hh, bind, Except.bind, Except.map]
      exact ih _ _ _
    | close h =>
      cases hh : t.handle_close_event h <;>
        simp [scan_events, handle_in_order, deferred, handle, hh, bind, Except.bind, Except.map]
      exact ih _ _ _
    | _ => simp [scan_events, deferred, ih]

/-- The second pass handles its events in order. -/
theorem handle_tcp_wake_events_eq (t : TcpStack S) {events : List OperationEvent}
    (h : ∀ e ∈ events, e.deferred = some .tcp) :
    t.handle_tcp_wake_events events = t.handle_in_order events := by
  induction events generalizing t with
  | nil => rfl
  | cons e events ih =>
    have he : t.handle e = t.handle_tcp_wake_event e := by
      have := h e (by simp)
      cases e <;> simp_all [deferred, handle]
    simp only [handle_tcp_wake_events, handle_in_order, List.foldlM_cons, he] at ih ⊢
    exact congrArg _ (funext fun u => ih u fun e' he' => h e' (List.mem_cons_of_mem _ he'))

/-- The third pass handles its events in order. -/
theorem handle_udp_wake_events_eq (t : TcpStack S) {events : List OperationEvent}
    (h : ∀ e ∈ events, e.deferred = some .udp) :
    t.handle_udp_wake_events events = t.handle_in_order events := by
  induction events generalizing t with
  | nil => rfl
  | cons e events ih =>
    have he : t.handle e = t.handle_udp_wake_event e := by
      have := h e (by simp)
      cases e <;> simp_all [deferred, handle]
    simp only [handle_udp_wake_events, handle_in_order, List.foldlM_cons, he] at ih ⊢
    exact congrArg _ (funext fun u => ih u fun e' he' => h e' (List.mem_cons_of_mem _ he'))

/-- `drive_once` handles a batch as if it were in the order `passes`, one event at a time. -/
theorem handle_events_eq (t : TcpStack S) (events : List OperationEvent) :
    t.handle_events events = t.handle_in_order (passes events) := by
  have htcp : ∀ e ∈ events.filter (·.deferred = some .tcp), e.deferred = some .tcp :=
    fun e he => by simpa using (List.mem_filter.mp he).2
  have hudp : ∀ e ∈ events.filter (·.deferred = some .udp), e.deferred = some .udp :=
    fun e he => by simpa using (List.mem_filter.mp he).2
  simp only [handle_events, scan_events_eq, List.nil_append, passes, handle_in_order,
    List.foldlM_append]
  cases (events.filter (·.deferred = none)).foldlM handle t with
  | error panic => rfl
  | ok u =>
    simp only [Except.map, bind, Except.bind]
    rw [handle_tcp_wake_events_eq u htcp]
    simp only [handle_in_order]
    cases (events.filter (·.deferred = some .tcp)).foldlM handle u with
    | error panic => rfl
    | ok v => exact handle_udp_wake_events_eq v hudp

end TcpStack

end L3Extract
