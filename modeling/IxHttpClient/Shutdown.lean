import IxHttpClient.DispatchOrder
import IxHttpClient.Paths

/-!
# Shutdown

`~HttpClient` stores `_stop` without taking `_queueMutex`, so its store and
its `notify_one` can fall between the worker's test of the wait condition and
its call to `wait`: the notification is lost and `join` waits for a worker
that sleeps.  And a request already running never sees `_stop`: every
cancellation predicate `request` builds reads its local
`requestInitCancellation` and its own deadline only.
-/

namespace IxHttpClient

/-- The lost wake-up of `~HttpClient`: the worker has found the queue empty
and `_stop` false but not yet called `wait` when the destructor stores
`_stop` and notifies; the notification finds no waiter, and the worker then
waits.  From there only a later `performRequest` can wake it: without one,
`join` never returns. -/
theorem destructor_wakeup_lost (world : Nat → Environment) :
    ∃ s, Reachable world s ∧ s.worker = .waiting ∧ s.destructor = .joining ∧
      ∀ action t, step world s action = some t → ∃ args, action = .performRequest args := by
  refine ⟨_, @reachable_of_runActions world _ _ [.run, .run, .setStop, .notifyStop, .run]
    .init rfl, rfl, rfl, ?_⟩
  intro action t stepped
  cases action with
  | performRequest args => exact ⟨args, rfl⟩
  | _ => simp [step, workerStep, WorkerPc.wake, DispatchState.init] at stepped

/-- Every predicate the worker's `request` passes to the transport is built on
its local `requestInitCancellation` and, polled in any state of the
dispatcher, fires exactly when its own deadline is positive and has passed:
`connectTimeout` for `connect`, the first call, and `transferTimeout` for
every call after it.  `_stop` plays no part. -/
theorem request_polls_deadline_only (world : Nat → Environment) (s : DispatchState)
    (entry : Entry) (elapsed : Nat) :
    (HttpClient.request (world entry.id) false entry.args.url entry.args.verb entry.args.body
        entry.args 0).2 = [] ∨
    ∃ (host : String) (port : Int) (rest : List TransportCall),
      (HttpClient.request (world entry.id) false entry.args.url entry.args.verb entry.args.body
          entry.args 0).2 = .connect host port
        (makeCancellationRequestWithTimeout entry.args.connectTimeout .requestInitCancellation) ::
          rest ∧
      (makeCancellationRequestWithTimeout entry.args.connectTimeout
          .requestInitCancellation).isCancellationRequested s.flags elapsed =
        (decide (0 < entry.args.connectTimeout) && decide (entry.args.connectTimeout < elapsed)) ∧
      ∀ call ∈ rest, call.cancel =
          makeCancellationRequestWithTimeout entry.args.transferTimeout .requestInitCancellation ∧
        call.cancel.isCancellationRequested s.flags elapsed =
          (decide (0 < entry.args.transferTimeout) && decide (entry.args.transferTimeout < elapsed)) := by
  rcases HttpClient.request_calls_deadlines _ _ _ _ 0 with none | ⟨host, port, rest, calls, later⟩
  · exact .inl none
  · refine .inr ⟨host, port, rest, calls, rfl, fun call mem => ⟨later call mem, ?_⟩⟩
    rw [later call mem]
    rfl

/-- The connect of a plain GET, polled after `_stop` is set but before its
60-unit deadline, does not fire. -/
theorem get_connect_ignores_stop :
    (makeCancellationRequestWithTimeout 60 .requestInitCancellation).isCancellationRequested
      { DispatchState.init with stop := true }.flags 30 = false := by
  obtain ⟨rest, calls⟩ := @HttpClient.request_calls_of_connected (idleWorld 0)
    "http://example.com/" HttpClient.kGet "" plainGet 0 exampleTarget rfl rfl rfl
  rcases request_polls_deadline_only idleWorld { DispatchState.init with stop := true }
      ⟨0, plainGet⟩ 30 with none | ⟨host, port, rest', -, polled, -⟩
  · exact absurd (calls.symm.trans none) (List.cons_ne_nil _ _)
  · exact polled

/-- A GET of `http://example.com/` with no deadlines. -/
def noDeadlineGet : HttpRequestArgs :=
  { plainGet with connectTimeout := 0, transferTimeout := 0 }

/-- The worker is inside `request` for a GET with no deadlines when the
destructor sets `_stop`; the predicate of the request's `connect` never fires. -/
theorem stop_unobserved_by_request :
    ∃ s entry, Reachable idleWorld s ∧ s.stop = true ∧ s.worker = .request entry ∧
      ∃ call ∈ (HttpClient.request (idleWorld entry.id) false entry.args.url entry.args.verb
          entry.args.body entry.args 0).2,
        ∀ elapsed, call.cancel.isCancellationRequested s.flags elapsed = false := by
  obtain ⟨rest, calls⟩ := @HttpClient.request_calls_of_connected (idleWorld 0)
    "http://example.com/" HttpClient.kGet "" noDeadlineGet 0 exampleTarget rfl rfl rfl
  refine ⟨_, ⟨0, noDeadlineGet⟩, @reachable_of_runActions idleWorld _ _
    [.performRequest noDeadlineGet, .run, .run, .run, .run, .run, .setStop] .init rfl, rfl, rfl,
    _, calls ▸ List.mem_cons_self _ _, fun elapsed => ?_⟩
  simp [CancellationRequest.isCancellationRequested, makeCancellationRequestWithTimeout,
    TransportCall.cancel, DispatchState.flags, noDeadlineGet]

end IxHttpClient
