import IxHttpClient.Engine
import Mathlib.Logic.Relation

/-!
# The asynchronous dispatcher

In asynchronous mode `HttpClient` runs one worker thread, `run` (lines
72-103), over a queue guarded by `_queueMutex` and `_condition`.
`performRequest` (lines 52-70) pushes under the lock and notifies after
releasing it; `~HttpClient` (lines 34-41) stores `_stop` without the lock,
notifies once and joins.  The system is a state machine whose actions are
the steps of these threads, interleaved in any order.  Ghost lists record
every push, pop, started request and invoked callback, in order.
-/

namespace IxHttpClient

/-- A queue entry: the position of its push among all pushes, and the request
it carries; the entry stands for its callback too. -/
structure Entry where
  id : Nat
  args : HttpRequestArgs
deriving DecidableEq

/-- Where the worker is in `run`. -/
inductive WorkerPc where
  /-- At the top of the loop, about to take `_queueMutex`. -/
  | lock
  /-- Holding the lock, about to evaluate `!_stop && _queue.empty()`. -/
  | test
  /-- Holding the lock, about to call `_condition.wait`. -/
  | waitCall
  /-- Blocked in `_condition.wait`, the lock released. -/
  | waiting
  /-- Notified, about to take the lock back and test again. -/
  | woken
  /-- Holding the lock, at `if (_stop) return;` of line 87. -/
  | checkStop
  /-- Holding the lock, about to pop the front entry and release the lock. -/
  | pop
  /-- At `if (_stop) return;` of line 96, with the popped entry. -/
  | recheck (entry : Entry)
  /-- Inside `request` for the entry. -/
  | request (entry : Entry)
  /-- About to invoke the entry's callback with the response. -/
  | callback (entry : Entry) (response : HttpResponse)
  /-- At `if (_stop) return;` of line 101. -/
  | finalCheck
  /-- Returned from `run`. -/
  | exited
  /-- Never leaves `request`: it deadlocked, or the thread was ended by an
  uncaught exception. -/
  | stuck (entry : Entry)
deriving DecidableEq

namespace WorkerPc

/-- The positions at which the worker holds `_queueMutex`. -/
def holdsLock : WorkerPc → Bool
  | .test | .waitCall | .checkStop | .pop => true
  | _ => false

/-- `notify_one`: it wakes the worker if the worker is blocked in `wait`. -/
def wake : WorkerPc → WorkerPc
  | .waiting => .woken
  | pc => pc

end WorkerPc

/-- Where `~HttpClient` is. -/
inductive DestructorPc where
  | running
  | stopped
  | joining
  | joined
deriving DecidableEq

/-- The dispatcher: the shared queue and flag, the threads' positions, the
notifications producers still owe, and the ghost history. -/
structure DispatchState where
  queue : List Entry
  stop : Bool
  worker : WorkerPc
  destructor : DestructorPc
  /-- `performRequest` calls past their push and before their `notify_one`. -/
  notifies : Nat
  /-- Every entry pushed, in the order the pushes took `_queueMutex`. -/
  enqueued : List Entry
  /-- Every entry popped, in order. -/
  taken : List Entry
  /-- Every entry whose request the worker started, in order. -/
  executed : List Entry
  /-- Every callback invoked, with its response, in order. -/
  delivered : List (Entry × HttpResponse)

/-- An `HttpClient` built in asynchronous mode, before any call. -/
def DispatchState.init : DispatchState :=
  ⟨[], false, .lock, .running, 0, [], [], [], []⟩

/-- A step of one thread. -/
inductive DispatchAction where
  /-- `performRequest`: lock, push, unlock. -/
  | performRequest (args : HttpRequestArgs)
  /-- The `notify_one` of an earlier `performRequest`. -/
  | notify
  /-- One step of the worker. -/
  | run
  /-- `_stop = true` in `~HttpClient`. -/
  | setStop
  /-- `_condition.notify_one()` in `~HttpClient`. -/
  | notifyStop
  /-- `_thread.join()` returning. -/
  | join

/-- The outcome of the worker's `request(args->url, args->verb, args->body,
args)` for an entry, in the world the entry's request runs in. -/
def respond (world : Nat → Environment) (entry : Entry) : Outcome :=
  (HttpClient.request (world entry.id) false entry.args.url entry.args.verb entry.args.body
    entry.args 0).1

section Steps

variable (world : Nat → Environment)

/-- One step of `run`. -/
def workerStep (s : DispatchState) : Option DispatchState :=
  match s.worker with
  | .lock => some { s with worker := .test }
  | .test => some { s with worker := if !s.stop && s.queue.isEmpty then .waitCall else .checkStop }
  | .waitCall => some { s with worker := .waiting }
  | .waiting => none
  | .woken => some { s with worker := .test }
  | .checkStop => some { s with worker := if s.stop then .exited else .pop }
  | .pop =>
      match s.queue with
      | [] => none
      | entry :: rest => some { s with queue := rest, worker := .recheck entry,
                                       taken := s.taken ++ [entry] }
  | .recheck entry =>
      if s.stop then some { s with worker := .exited }
      else some { s with worker := .request entry, executed := s.executed ++ [entry] }
  | .request entry =>
      match respond world entry with
      | .response response => some { s with worker := .callback entry response }
      | _ => some { s with worker := .stuck entry }
  | .callback entry response =>
      some { s with worker := .finalCheck, delivered := s.delivered ++ [(entry, response)] }
  | .finalCheck => some { s with worker := if s.stop then .exited else .lock }
  | .exited => none
  | .stuck _ => none

/-- One step of the system: a producer, the worker or the destructor. -/
def step (s : DispatchState) : DispatchAction → Option DispatchState
  | .performRequest args =>
      if s.worker.holdsLock then none
      else
        let entry : Entry := ⟨s.enqueued.length, args⟩
        some { s with queue := s.queue ++ [entry], enqueued := s.enqueued ++ [entry],
                      notifies := s.notifies + 1 }
  | .notify =>
      if s.notifies = 0 then none
      else some { s with notifies := s.notifies - 1, worker := s.worker.wake }
  | .run => workerStep world s
  | .setStop =>
      if s.destructor = .running then some { s with stop := true, destructor := .stopped }
      else none
  | .notifyStop =>
      if s.destructor = .stopped then some { s with worker := s.worker.wake, destructor := .joining }
      else none
  | .join =>
      if s.destructor = .joining ∧ s.worker = .exited then some { s with destructor := .joined }
      else none

/-- The states the system can reach from `init`. -/
inductive Reachable : DispatchState → Prop where
  | init : Reachable DispatchState.init
  | step {s t : DispatchState} {action : DispatchAction} :
      Reachable s → step world s action = some t → Reachable t

/-- The step relation of the system. -/
def Step (s t : DispatchState) : Prop :=
  ∃ action, step world s action = some t

/-- Run a list of actions from `s`. -/
def runActions : DispatchState → List DispatchAction → Option DispatchState
  | s, [] => some s
  | s, action :: rest => (step world s action).bind (runActions · rest)

variable {world}

theorem reachable_of_runActions {s t : DispatchState} {actions : List DispatchAction}
    (reachable : Reachable world s) (ran : runActions world s actions = some t) :
    Reachable world t := by
  induction actions generalizing s with
  | nil =>
      cases ran
      exact reachable
  | cons action rest ih =>
      cases stepped : step world s action with
      | none => simp [runActions, stepped] at ran
      | some middle =>
          simp only [runActions, stepped, Option.bind_some] at ran
          exact ih (reachable.step stepped) ran

theorem Reachable.of_steps {s t : DispatchState} (reachable : Reachable world s)
    (steps : Relation.ReflTransGen (Step world) s t) : Reachable world t := by
  induction steps with
  | refl => exact reachable
  | tail _ stepped ih =>
      obtain ⟨_, stepped⟩ := stepped
      exact ih.step stepped

end Steps

/-- The atomics a cancellation predicate can read in a state: `_stop`, and
`request`'s local `requestInitCancellation`, which nothing sets after it is
initialised to `false`. -/
def DispatchState.flags (s : DispatchState) : CancellationFlag → Bool
  | .stop => s.stop
  | .requestInitCancellation => false

end IxHttpClient
