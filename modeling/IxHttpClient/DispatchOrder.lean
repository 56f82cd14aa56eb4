import IxHttpClient.Dispatcher
import IxHttpClient.Stages

/-!
# Order of dispatch

One invariant holds in every reachable state of the dispatcher: the pushes
are the pops followed by the queue, entries are numbered by their push, the
started requests are a prefix of the pops and the answered callbacks a prefix
of the started requests, each answered with the response of its own request.
Once `_stop` is set no request starts, since line 96 checks the flag after
every pop; so an entry still queued then is never started or answered.
-/

namespace IxHttpClient

namespace WorkerPc

/-- How the worker's position lines up the popped, started and answered
entries. -/
def Tracks (respond : Entry → Outcome) : WorkerPc → (taken executed answered : List Entry) → Prop
  | .recheck entry, taken, executed, answered => taken = executed ++ [entry] ∧ answered = executed
  | .request entry, taken, executed, answered => taken = executed ∧ answered ++ [entry] = executed
  | .callback entry response, taken, executed, answered =>
      taken = executed ∧ answered ++ [entry] = executed ∧ respond entry = .response response
  | .stuck entry, taken, executed, answered => taken = executed ∧ answered ++ [entry] = executed
  | .exited, _, executed, answered => answered = executed
  | _, taken, executed, answered => taken = executed ∧ answered = executed

theorem tracks_wake {respond : Entry → Outcome} {taken executed answered : List Entry}
    {pc : WorkerPc} (tracks : pc.Tracks respond taken executed answered) :
    pc.wake.Tracks respond taken executed answered := by
  cases pc <;> exact tracks

end WorkerPc

/-- The invariant of the dispatcher. -/
structure DispatchState.Invariant (world : Nat → Environment) (s : DispatchState) : Prop where
  queued : s.enqueued = s.taken ++ s.queue
  numbered : s.enqueued.map Entry.id = List.range s.enqueued.length
  started : List.IsPrefix s.executed s.taken
  answered : List.IsPrefix (s.delivered.map Prod.fst) s.executed
  responded : ∀ p ∈ s.delivered, respond world p.1 = .response p.2
  tracks : s.worker.Tracks (respond world) s.taken s.executed (s.delivered.map Prod.fst)

namespace DispatchState.Invariant

variable {world : Nat → Environment} {s t : DispatchState}

theorem init : DispatchState.init.Invariant world :=
  ⟨rfl, rfl, List.prefix_refl _, List.prefix_refl _, fun _ mem => (List.not_mem_nil _ mem).elim,
    ⟨rfl, rfl⟩⟩

/-- A worker move that changes no list keeps the invariant when the new
position tracks the lists. -/
theorem with_worker (inv : s.Invariant world) {pc : WorkerPc}
    (tracks : pc.Tracks (respond world) s.taken s.executed (s.delivered.map Prod.fst)) :
    { s with worker := pc }.Invariant world :=
  ⟨inv.queued, inv.numbered, inv.started, inv.answered, inv.responded, tracks⟩

theorem workerStep (inv : s.Invariant world) (stepped : workerStep world s = some t) :
    t.Invariant world := by
  obtain ⟨queue, stop, worker, destructor, notifies, enqueued, taken, executed, delivered⟩ := s
  have tracks := inv.tracks
  cases worker with
  | lock | waitCall | woken =>
      cases stepped
      exact inv.with_worker tracks
  | waiting | exited | stuck _ => cases stepped
  | test =>
      cases stepped
      split <;> exact inv.with_worker tracks
  | checkStop | finalCheck =>
      cases stepped
      split
      · exact inv.with_worker tracks.2
      · exact inv.with_worker tracks
  | pop =>
      cases queue with
      | nil => cases stepped
      | cons entry rest =>
          cases stepped
          obtain ⟨taken, answered⟩ := tracks
          refine ⟨by simpa using inv.queued, inv.numbered, ?_, inv.answered, inv.responded,
            ⟨by rw [taken], answered⟩⟩
          rw [taken]
          exact List.prefix_append _ _
  | recheck entry =>
      obtain ⟨taken, answered⟩ := tracks
      cases stop with
      | true =>
          cases stepped
          exact inv.with_worker answered
      | false =>
          cases stepped
          refine ⟨inv.queued, inv.numbered, taken ▸ List.prefix_refl _, ?_, inv.responded,
            ⟨taken, by rw [answered]⟩⟩
          rw [answered]
          exact List.prefix_append _ _
  | request entry =>
      cases responded : respond world entry with
      | response response =>
          simp only [IxHttpClient.workerStep, responded, Option.some.injEq] at stepped
          subst stepped
          exact inv.with_worker ⟨tracks.1, tracks.2, responded⟩
      | _ =>
          simp only [IxHttpClient.workerStep, responded, Option.some.injEq] at stepped
          subst stepped
          exact inv.with_worker tracks
  | callback entry response =>
      cases stepped
      obtain ⟨taken, answered, responded⟩ := tracks
      refine ⟨inv.queued, inv.numbered, inv.started, ?_, ?_, ⟨taken, by simpa using answered⟩⟩
      · simp only [List.map_append, List.map_cons, List.map_nil]
        exact answered ▸ List.prefix_refl _
      · intro pair mem
        rcases List.mem_append.mp mem with mem | mem
        · exact inv.responded pair mem
        · simp only [List.mem_singleton] at mem
          subst mem
          exact responded

theorem step {action : DispatchAction} (inv : s.Invariant world)
    (stepped : step world s action = some t) : t.Invariant world := by
  cases action with
  | performRequest args =>
      simp only [IxHttpClient.step] at stepped
      split at stepped
      · cases stepped
      · cases stepped
        refine ⟨by simp [inv.queued], by simp [inv.numbered, List.range_succ], inv.started,
          inv.answered, inv.responded, inv.tracks⟩
  | notify =>
      simp only [IxHttpClient.step] at stepped
      split at stepped
      · cases stepped
      · cases stepped
        exact ⟨inv.queued, inv.numbered, inv.started, inv.answered, inv.responded,
          WorkerPc.tracks_wake inv.tracks⟩
  | run => exact inv.workerStep stepped
  | setStop =>
      simp only [IxHttpClient.step] at stepped
      split at stepped
      · cases stepped
        exact ⟨inv.queued, inv.numbered, inv.started, inv.answered, inv.responded, inv.tracks⟩
      · cases stepped
  | notifyStop =>
      simp only [IxHttpClient.step] at stepped
      split at stepped
      · cases stepped
        exact ⟨inv.queued, inv.numbered, inv.started, inv.answered, inv.responded,
          WorkerPc.tracks_wake inv.tracks⟩
      · cases stepped
  | join =>
      simp only [IxHttpClient.step] at stepped
      split at stepped
      · cases stepped
        exact ⟨inv.queued, inv.numbered, inv.started, inv.answered, inv.responded, inv.tracks⟩
      · cases stepped

end DispatchState.Invariant

variable {world : Nat → Environment}

theorem Reachable.invariant {s : DispatchState} (reachable : Reachable world s) :
    s.Invariant world := by
  induction reachable with
  | init => exact .init
  | step _ stepped inv => exact inv.step stepped

/-- Once `_stop` is set the worker starts no request: only the check of line 96
could, and it sees the flag. -/
theorem workerStep_of_stop {s t : DispatchState} (stopped : s.stop = true)
    (stepped : workerStep world s = some t) : t.stop = true ∧ t.executed = s.executed := by
  unfold workerStep at stepped
  repeat' split at stepped
  all_goals (cases stepped <;> exact ⟨stopped, rfl⟩)

theorem step_of_stop {s t : DispatchState} {action : DispatchAction} (stopped : s.stop = true)
    (stepped : step world s action = some t) : t.stop = true ∧ t.executed = s.executed := by
  cases action with
  | run => exact workerStep_of_stop stopped stepped
  | setStop =>
      simp only [step] at stepped
      split at stepped
      · cases stepped
        exact ⟨rfl, rfl⟩
      · cases stepped
  | _ =>
      simp only [step] at stepped
      split at stepped
      all_goals cases stepped
      all_goals exact ⟨stopped, rfl⟩

theorem executed_of_steps {s t : DispatchState} (stopped : s.stop = true)
    (steps : Relation.ReflTransGen (Step world) s t) :
    t.stop = true ∧ t.executed = s.executed := by
  induction steps with
  | refl => exact ⟨stopped, rfl⟩
  | tail _ stepped ih =>
      obtain ⟨_, stepped⟩ := stepped
      obtain ⟨stopped', executed⟩ := step_of_stop ih.1 stepped
      exact ⟨stopped', executed.trans ih.2⟩

namespace DispatchState.Invariant

variable {s : DispatchState}

theorem enqueued_nodup (inv : s.Invariant world) : s.enqueued.Nodup :=
  List.Nodup.of_map Entry.id (inv.numbered ▸ List.nodup_range _)

theorem executed_prefix (inv : s.Invariant world) : List.IsPrefix s.executed s.enqueued :=
  inv.started.trans (inv.queued ▸ List.prefix_append _ _)

/-- An entry still queued has not been started. -/
theorem not_executed_of_queued (inv : s.Invariant world) {entry : Entry}
    (queued : entry ∈ s.queue) : entry ∉ s.executed := fun executed => by
  have nodup := inv.enqueued_nodup
  rw [inv.queued] at nodup
  exact List.disjoint_of_nodup_append nodup (inv.started.subset executed) queued

end DispatchState.Invariant

/-- The asynchronous dispatcher runs requests in the order of their pushes,
each at most once; it answers each callback at most once, in the same order,
with the response of `request` on the entry's own arguments; and no entry
still queued when `_stop` is set is ever started or answered. -/
theorem dispatch_in_order_and_drop_on_stop (world : Nat → Environment) :
    (∀ s, Reachable world s →
      List.IsPrefix s.executed s.enqueued ∧ s.executed.Nodup ∧
        List.IsPrefix (s.delivered.map Prod.fst) s.executed ∧
        ∀ answer ∈ s.delivered, respond world answer.1 = .response answer.2) ∧
    (∀ s t, Reachable world s → s.stop = true → Relation.ReflTransGen (Step world) s t →
      ∀ entry ∈ s.queue, entry ∉ t.executed ∧ entry ∉ t.delivered.map Prod.fst) := by
  refine ⟨fun s reachable => ?_, fun s t reachable stopped steps entry queued => ?_⟩
  · have inv := reachable.invariant
    exact ⟨inv.executed_prefix, inv.enqueued_nodup.sublist inv.executed_prefix.sublist,
      inv.answered, inv.responded⟩
  · have frozen := (executed_of_steps stopped steps).2
    have fresh := reachable.invariant.not_executed_of_queued queued
    refine ⟨frozen ▸ fresh, fun answered => fresh ?_⟩
    rw [← frozen]
    exact ((reachable.of_steps steps).invariant.answered).subset answered

/-- A world in which every server accepts the connection and sends nothing. -/
def idleWorld : Nat → Environment :=
  fun _ => Environment.serving ⟨[], []⟩ []

theorem queued_get_dropped_on_stop :
    ∃ s, runActions idleWorld .init [.performRequest plainGet, .setStop] = some s ∧
      s.queue = [⟨0, plainGet⟩] ∧
      ∀ t, Relation.ReflTransGen (Step idleWorld) s t →
        (⟨0, plainGet⟩ : Entry) ∉ t.executed ∧ (⟨0, plainGet⟩ : Entry) ∉ t.delivered.map Prod.fst :=
  ⟨_, rfl, rfl, fun t steps => (dispatch_in_order_and_drop_on_stop idleWorld).2 _ t
    (@reachable_of_runActions idleWorld _ _ [.performRequest plainGet, .setStop] .init rfl) rfl
    steps _ (List.mem_singleton_self _)⟩

end IxHttpClient
