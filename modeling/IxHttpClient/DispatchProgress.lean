import IxHttpClient.DispatchOrder

/-!
# Progress of the dispatcher

`performRequest` pushes under `_queueMutex` and notifies after releasing it,
and `run` tests the queue and calls `wait` without releasing the lock in
between.  So, unlike the destructor's, a producer's notification is never
lost: in every reachable state the worker goes to `wait` with the queue
empty, and while it sleeps at least as many `notify_one` calls are owed as
entries are queued.  From this the dispatcher makes progress: while `_stop`
is not set and the requests return, the worker alone, with the notifications
owed, starts every queued entry and answers its callback, whatever the other
threads did before.  Once `_stop` is set the destructor can finish in the
same way: the worker leaves `run` and `join` returns, unless the worker lost
its wake-up or is inside a request that does not return.
-/

namespace IxHttpClient

namespace WorkerPc

/-- What the worker's position says of the queue, the owed notifications and
the flag: it calls `wait` only with the queue empty, it sleeps only while
every queued entry has a notification owed, it passes the check of line 87
and pops only with an entry queued, it leaves `run` only once `_stop` is set,
and it is stuck only in a request that does not return. -/
def Signalled (respond : Entry → Outcome) (queue : List Entry) (notifies : Nat) (stop : Bool) :
    WorkerPc → Prop
  | .waitCall => queue = []
  | .waiting => queue.length ≤ notifies
  | .checkStop => stop = false → queue ≠ []
  | .pop => queue ≠ []
  | .exited => stop = true
  | .stuck entry => ∀ response, respond entry ≠ .response response
  | _ => True

namespace Signalled

variable {respond : Entry → Outcome} {queue : List Entry} {notifies : Nat} {stop : Bool}
  {pc : WorkerPc}

/-- A push, made while the worker does not hold the lock, owes one more
notification. -/
theorem push (signalled : pc.Signalled respond queue notifies stop) (unlocked : pc.holdsLock = false)
    (entry : Entry) : pc.Signalled respond (queue ++ [entry]) (notifies + 1) stop := by
  cases pc with
  | waitCall | checkStop | pop | test => cases unlocked
  | waiting =>
      show (queue ++ [entry]).length ≤ notifies + 1
      simpa using Nat.succ_le_succ signalled
  | _ => exact signalled

/-- A delivered notification wakes a sleeping worker. -/
theorem wake (signalled : pc.Signalled respond queue notifies stop) (notifies' : Nat) :
    pc.wake.Signalled respond queue notifies' stop := by
  cases pc <;> first | exact trivial | exact signalled

theorem setStop (signalled : pc.Signalled respond queue notifies stop) :
    pc.Signalled respond queue notifies true := by
  cases pc <;> first | exact rfl | exact signalled | exact nofun

end Signalled

end WorkerPc

/-- The producers' side of the protocol holds in `s`. -/
def DispatchState.Signalled (world : Nat → Environment) (s : DispatchState) : Prop :=
  s.worker.Signalled (respond world) s.queue s.notifies s.stop

namespace DispatchState.Signalled

variable {world : Nat → Environment} {s t : DispatchState}

theorem init : DispatchState.init.Signalled world :=
  trivial

theorem workerStep (signalled : s.Signalled world) (stepped : workerStep world s = some t) :
    t.Signalled world := by
  obtain ⟨queue, stop, worker, destructor, notifies, enqueued, taken, executed, delivered⟩ := s
  cases worker with
  | waiting | exited | stuck _ => cases stepped
  | test =>
      cases stepped
      split
      · rename_i idle
        simp only [Bool.and_eq_true, Bool.not_eq_true', List.isEmpty_iff] at idle
        exact idle.2
      · rename_i busy
        simp only [Bool.and_eq_true, Bool.not_eq_true', List.isEmpty_iff, not_and] at busy
        exact busy
  | waitCall =>
      cases stepped
      show queue.length ≤ notifies
      rw [show queue = [] from signalled]
      exact Nat.zero_le _
  | checkStop =>
      cases stepped
      split
      · assumption
      · exact signalled (Bool.eq_false_iff.mpr ‹_›)
  | finalCheck =>
      cases stepped
      split
      · assumption
      · trivial
  | pop =>
      cases queue with
      | nil => cases stepped
      | cons entry rest =>
          cases stepped
          trivial
  | recheck entry =>
      cases stop with
      | true =>
          cases stepped
          exact rfl
      | false =>
          cases stepped
          trivial
  | request entry =>
      cases responded : respond world entry with
      | response response =>
          simp only [IxHttpClient.workerStep, responded, Option.some.injEq] at stepped
          subst stepped
          trivial
      | _ =>
          simp only [IxHttpClient.workerStep, responded, Option.some.injEq] at stepped
          subst stepped
          intro response
          simp [responded]
  | lock | woken | callback _ _ =>
      cases stepped
      trivial

theorem step {action : DispatchAction} (signalled : s.Signalled world)
    (stepped : step world s action = some t) : t.Signalled world := by
  cases action with
  | performRequest args =>
      simp only [IxHttpClient.step] at stepped
      split at stepped
      · cases stepped
      · cases stepped
        exact WorkerPc.Signalled.push signalled (Bool.eq_false_iff.mpr ‹_›) _
  | notify =>
      simp only [IxHttpClient.step] at stepped
      split at stepped
      · cases stepped
      · cases stepped
        exact WorkerPc.Signalled.wake signalled _
  | run => exact signalled.workerStep stepped
  | setStop =>
      simp only [IxHttpClient.step] at stepped
      split at stepped
      · cases stepped
        exact WorkerPc.Signalled.setStop signalled
      · cases stepped
  | notifyStop =>
      simp only [IxHttpClient.step] at stepped
      split at stepped
      · cases stepped
        exact WorkerPc.Signalled.wake signalled _
      · cases stepped
  | join =>
      simp only [IxHttpClient.step] at stepped
      split at stepped
      · cases stepped
        exact signalled
      · cases stepped

end DispatchState.Signalled

theorem Reachable.signalled {world : Nat → Environment} {s : DispatchState}
    (reachable : Reachable world s) : s.Signalled world := by
  induction reachable with
  | init => exact .init
  | step _ stepped signalled => exact signalled.step stepped

/-- While the worker sleeps in `wait`, every queued entry is covered by a
notification a `performRequest` still owes. -/
theorem waiting_worker_notified (world : Nat → Environment) {s : DispatchState}
    (reachable : Reachable world s) (asleep : s.worker = .waiting) :
    s.queue.length ≤ s.notifies := by
  have signalled := reachable.signalled
  unfold DispatchState.Signalled at signalled
  rw [asleep] at signalled
  exact signalled

theorem sleeping_worker_owed_notify :
    ∃ s, runActions idleWorld .init [.run, .run, .run, .performRequest plainGet] = some s ∧
      s.worker = .waiting ∧ s.queue.length ≤ s.notifies :=
  ⟨_, rfl, rfl, waiting_worker_notified idleWorld
    (@reachable_of_runActions idleWorld _ _ [.run, .run, .run, .performRequest plainGet] .init rfl)
    rfl⟩

section Progress

variable (world : Nat → Environment)

/-- A move of the worker alone: a step of `run`, or a notification a
producer owes reaching it. -/
def WorkerMove (s t : DispatchState) : Prop :=
  step world s .run = some t ∨ step world s .notify = some t

variable {world}

theorem WorkerMove.step {s t : DispatchState} (move : WorkerMove world s t) : Step world s t :=
  move.elim (⟨_, ·⟩) (⟨_, ·⟩)

theorem step_run_of_request {s : DispatchState} {entry : Entry}
    (atRequest : s.worker = .request entry) {response : HttpResponse}
    (responded : respond world entry = .response response) :
    step world s .run = some { s with worker := .callback entry response } := by
  simp [step, workerStep, atRequest, responded]

/-- From the top of the loop, with entries queued and `_stop` clear, the
worker takes the lock, finds the queue non-empty and the flag clear, and is
about to pop. -/
theorem pop_of_lock {s : DispatchState} (atLock : s.worker = .lock) (running : s.stop = false)
    (nonempty : s.queue ≠ []) :
    Relation.ReflTransGen (WorkerMove world) s { s with worker := .pop } := by
  obtain ⟨queue, stop, worker, destructor, notifies, enqueued, taken, executed, delivered⟩ := s
  dsimp only at atLock running nonempty
  subst atLock running
  obtain ⟨entry, rest, rfl⟩ := List.exists_cons_of_ne_nil nonempty
  exact .head (.inl rfl) (.head (.inl rfl) (.single (.inl rfl)))

/-- From `pop`, the worker starts the front entry and, when its request
returns, answers the callback and is back at the top of the loop. -/
theorem lock_of_pop {s : DispatchState} (atPop : s.worker = .pop) (running : s.stop = false)
    {entry : Entry} {rest : List Entry} (queued : s.queue = entry :: rest)
    {response : HttpResponse} (responded : respond world entry = .response response) :
    Relation.ReflTransGen (WorkerMove world) s
      { s with queue := rest, worker := .lock, taken := s.taken ++ [entry],
               executed := s.executed ++ [entry],
               delivered := s.delivered ++ [(entry, response)] } := by
  obtain ⟨queue, stop, worker, destructor, notifies, enqueued, taken, executed, delivered⟩ := s
  dsimp only at atPop running queued
  subst atPop running queued
  exact .head (.inl rfl) (.head (.inl rfl)
    (.head (.inl (step_run_of_request rfl responded)) (.head (.inl rfl) (.single (.inl rfl)))))

/-- From `pop`, with `_stop` clear and every queued request returning, the
worker alone starts and answers each queued entry in turn, up to `entry`. -/
theorem delivered_of_pop {entry : Entry} {back : List Entry} (front : List Entry)
    {origin s : DispatchState} (moves : Relation.ReflTransGen (WorkerMove world) origin s)
    (atPop : s.worker = .pop) (running : s.stop = false) (queued : s.queue = front ++ entry :: back)
    (returns : ∀ e ∈ s.queue, ∃ response, respond world e = .response response) :
    ∃ t, Relation.ReflTransGen (WorkerMove world) origin t ∧ entry ∈ t.delivered.map Prod.fst := by
  induction front generalizing s with
  | nil =>
      obtain ⟨response, responded⟩ := returns entry (by simp [queued])
      exact ⟨_, moves.trans (lock_of_pop atPop running queued responded), by simp⟩
  | cons first front ih =>
      obtain ⟨response, responded⟩ := returns first (by simp [queued])
      exact ih ((moves.trans (lock_of_pop atPop running queued responded)).trans
          (pop_of_lock rfl running (by simp))) rfl running rfl
        (fun e mem => returns e (by rw [queued]; exact List.mem_cons_of_mem _ mem))

/-- The entry the worker is running, or is about to run again after
`recheck`, was pushed: so when the pushed requests return, so does it, and a
reachable worker is not stuck. -/
theorem returns_inFlight {s : DispatchState} (reachable : Reachable world s)
    (returns : ∀ entry ∈ s.enqueued, ∃ response, respond world entry = .response response) :
    (∀ entry, s.worker = .request entry ∨ s.worker = .recheck entry →
      ∃ response, respond world entry = .response response) ∧
    ∀ entry, s.worker ≠ .stuck entry := by
  have inv := reachable.invariant
  have signalled := reachable.signalled
  have tracks := inv.tracks
  have pushed : ∀ {e}, e ∈ s.taken → ∃ response, respond world e = .response response :=
    fun mem => returns _ (by rw [inv.queued]; exact List.mem_append_left _ mem)
  refine ⟨fun entry atEntry => ?_, fun entry stuck => ?_⟩
  · rcases atEntry with atEntry | atEntry <;> rw [atEntry] at tracks
    · exact pushed (inv.started.subset (tracks.2 ▸ by simp))
    · exact pushed (tracks.1 ▸ by simp)
  · unfold DispatchState.Signalled at signalled
    rw [stuck] at tracks signalled
    obtain ⟨response, responded⟩ := @pushed entry (inv.started.subset (tracks.2 ▸ by simp))
    exact signalled response responded

/-- From any reachable state with an entry queued, `_stop` clear and the
pushed requests returning, the worker alone, woken by a notification owed if
it sleeps, gets back to `pop` with the queue as it was. -/
theorem pop_of_reachable {s : DispatchState} (reachable : Reachable world s)
    (running : s.stop = false) (nonempty : s.queue ≠ [])
    (returns : ∀ entry ∈ s.enqueued, ∃ response, respond world entry = .response response) :
    ∃ t, Relation.ReflTransGen (WorkerMove world) s t ∧ t.worker = .pop ∧ t.stop = false ∧
      t.queue = s.queue := by
  have signalled := reachable.signalled
  have inFlight := returns_inFlight reachable returns
  obtain ⟨queue, stop, worker, destructor, notifies, enqueued, taken, executed, delivered⟩ := s
  dsimp only at running nonempty inFlight
  subst running
  obtain ⟨first, rest, rfl⟩ := List.exists_cons_of_ne_nil nonempty
  cases worker with
  | lock => exact ⟨_, pop_of_lock rfl rfl nonempty, rfl, rfl, rfl⟩
  | woken => exact ⟨_, .head (.inl rfl) (.head (.inl rfl) (.single (.inl rfl))), rfl, rfl, rfl⟩
  | test => exact ⟨_, .head (.inl rfl) (.single (.inl rfl)), rfl, rfl, rfl⟩
  | checkStop => exact ⟨_, .single (.inl rfl), rfl, rfl, rfl⟩
  | pop => exact ⟨_, .refl, rfl, rfl, rfl⟩
  | waiting =>
      have owed : notifies ≠ 0 := by
        have covered : (first :: rest).length ≤ notifies := signalled
        simp only [List.length_cons] at covered
        omega
      exact ⟨_, .head (.inr (if_neg owed))
        (.head (.inl rfl) (.head (.inl rfl) (.single (.inl rfl)))), rfl, rfl, rfl⟩
  | finalCheck => exact ⟨_, .head (.inl rfl) (pop_of_lock rfl rfl nonempty), rfl, rfl, rfl⟩
  | callback entry response =>
      exact ⟨_, .head (.inl rfl) (.head (.inl rfl) (pop_of_lock rfl rfl nonempty)), rfl, rfl, rfl⟩
  | request entry =>
      obtain ⟨response, responded⟩ := inFlight.1 entry (.inl rfl)
      exact ⟨_, .head (.inl (step_run_of_request rfl responded))
        (.head (.inl rfl) (.head (.inl rfl) (pop_of_lock rfl rfl nonempty))), rfl, rfl, rfl⟩
  | recheck entry =>
      obtain ⟨response, responded⟩ := inFlight.1 entry (.inr rfl)
      exact ⟨_, .head (.inl rfl) (.head (.inl (step_run_of_request rfl responded))
        (.head (.inl rfl) (.head (.inl rfl) (pop_of_lock rfl rfl nonempty)))), rfl, rfl, rfl⟩
  | waitCall => exact absurd signalled nonempty
  | exited => cases signalled
  | stuck entry => exact absurd rfl (inFlight.2 entry)

end Progress

/-- While `_stop` is clear and the requests pushed so far return, every
queued entry is started and its callback answered by the worker alone, with
the notifications owed: no interleaving of the other threads so far can
strand it. -/
theorem queued_entry_answered (world : Nat → Environment) {s : DispatchState}
    (reachable : Reachable world s) (running : s.stop = false)
    (returns : ∀ entry ∈ s.enqueued, ∃ response, respond world entry = .response response)
    {entry : Entry} (queued : entry ∈ s.queue) :
    ∃ t, Relation.ReflTransGen (WorkerMove world) s t ∧ entry ∈ t.executed ∧
      entry ∈ t.delivered.map Prod.fst := by
  have inv := reachable.invariant
  obtain ⟨u, toPop, atPop, stopped, sameQueue⟩ :=
    pop_of_reachable reachable running (List.ne_nil_of_mem queued) returns
  obtain ⟨front, back, split⟩ := List.append_of_mem queued
  obtain ⟨t, moves, answered⟩ := delivered_of_pop front toPop atPop stopped
    (sameQueue.trans split) fun e mem => returns e (by
      rw [inv.queued]
      exact List.mem_append_right _ (sameQueue ▸ mem))
  have reached := reachable.of_steps (moves.mono fun _ _ => WorkerMove.step)
  exact ⟨t, moves, reached.invariant.answered.subset answered, answered⟩

/-- A `200` reply framed by `Content-Length: 5`. -/
def fiveByteReply : Reply :=
  ⟨"HTTP/1.1 200 OK".data, [("Content-Length", "5")]⟩

/-- A world in which every server answers with `fiveByteReply` and five bytes. -/
def answeringWorld : Nat → Environment :=
  fun _ => Environment.serving fiveByteReply "hello".data

theorem second_get_answered :
    ∃ s, runActions answeringWorld .init
        [.run, .run, .run, .performRequest plainGet, .performRequest plainGet] = some s ∧
      ∃ t, Relation.ReflTransGen (WorkerMove answeringWorld) s t ∧
        (⟨1, plainGet⟩ : Entry) ∈ t.executed ∧ (⟨1, plainGet⟩ : Entry) ∈ t.delivered.map Prod.fst := by
  have returns : ∀ entry ∈ [(⟨0, plainGet⟩ : Entry), ⟨1, plainGet⟩],
      ∃ response, respond answeringWorld entry = .response response := by
    simp only [List.mem_cons, List.mem_singleton, List.not_mem_nil, or_false]
    rintro entry (rfl | rfl) <;>
      exact ⟨_, @HttpClient.request_of_contentLength (answeringWorld 0) HttpClient.kGet plainGet 0
        200 "http://example.com/" "" exampleTarget fiveByteReply "hello".data [] "5"
        ((List.append_nil _).symm ▸ Environment.serving_delivers (by decide) _ _ 0) (by decide)
        (by decide) (by decide) (by decide) (by decide) (by decide)⟩
  exact ⟨_, rfl, queued_entry_answered answeringWorld (@reachable_of_runActions answeringWorld _ _
    [.run, .run, .run, .performRequest plainGet, .performRequest plainGet] .init rfl) rfl returns
    (List.mem_append_right _ (List.mem_singleton_self _))⟩

section Shutdown

/-- A step of the worker leaves the flag and the destructor as they were, and
the worker only steps before it has left `run`. -/
theorem workerStep_frame {world : Nat → Environment} {s t : DispatchState}
    (stepped : workerStep world s = some t) :
    t.stop = s.stop ∧ t.destructor = s.destructor ∧ s.worker ≠ .exited := by
  obtain ⟨queue, stop, worker, destructor, notifies, enqueued, taken, executed, delivered⟩ := s
  cases worker with
  | waiting | exited | stuck _ => cases stepped
  | pop =>
      cases queue with
      | nil => cases stepped
      | cons entry rest =>
          cases stepped
          exact ⟨rfl, rfl, nofun⟩
  | request entry =>
      cases responded : respond world entry <;>
        simp only [workerStep, responded, Option.some.injEq] at stepped <;>
        subst stepped <;> exact ⟨rfl, rfl, nofun⟩
  | recheck entry =>
      simp only [workerStep] at stepped
      split at stepped <;> cases stepped <;> exact ⟨rfl, rfl, nofun⟩
  | lock | test | waitCall | woken | checkStop | callback _ _ | finalCheck =>
      cases stepped
      exact ⟨rfl, rfl, nofun⟩

/-- What the destructor's position says: `_stop` is set exactly once its
first statement has run, and `join` has returned only after the worker left
`run`. -/
structure DispatchState.Stopping (s : DispatchState) : Prop where
  stop_iff : s.stop = true ↔ s.destructor ≠ .running
  exited_of_joined : s.destructor = .joined → s.worker = .exited

namespace DispatchState.Stopping

variable {world : Nat → Environment} {s t : DispatchState}

theorem init : DispatchState.init.Stopping :=
  ⟨by simp [DispatchState.init], nofun⟩

theorem step {action : DispatchAction} (stopping : s.Stopping)
    (stepped : step world s action = some t) : t.Stopping := by
  obtain ⟨queue, stop, worker, destructor, notifies, enqueued, taken, executed, delivered⟩ := s
  obtain ⟨stop_iff, exited_of_joined⟩ := stopping
  dsimp only at stop_iff exited_of_joined
  cases action with
  | performRequest args =>
      simp only [IxHttpClient.step] at stepped
      split at stepped
      · cases stepped
      · cases stepped
        exact ⟨stop_iff, exited_of_joined⟩
  | notify =>
      simp only [IxHttpClient.step] at stepped
      split at stepped
      · cases stepped
      · cases stepped
        exact ⟨stop_iff, fun joined => by simp [exited_of_joined joined, WorkerPc.wake]⟩
  | run =>
      obtain ⟨sameStop, sameDestructor, running⟩ := workerStep_frame stepped
      exact ⟨by rw [sameStop, sameDestructor]; exact stop_iff,
        fun joined => absurd (exited_of_joined (sameDestructor.symm.trans joined)) running⟩
  | setStop =>
      simp only [IxHttpClient.step] at stepped
      split at stepped
      · cases stepped
        exact ⟨iff_of_true rfl nofun, nofun⟩
      · cases stepped
  | notifyStop =>
      simp only [IxHttpClient.step] at stepped
      split at stepped
      · rename_i stopped
        cases stepped
        exact ⟨iff_of_true (stop_iff.mpr (by rw [stopped]; exact nofun)) nofun, nofun⟩
      · cases stepped
  | join =>
      simp only [IxHttpClient.step] at stepped
      split at stepped
      · rename_i ready
        cases stepped
        exact ⟨stop_iff.trans (iff_of_true (by rw [ready.1]; exact nofun) nofun), fun _ => ready.2⟩
      · cases stepped

end DispatchState.Stopping

theorem Reachable.stopping {world : Nat → Environment} {s : DispatchState}
    (reachable : Reachable world s) : s.Stopping := by
  induction reachable with
  | init => exact .init
  | step _ stepped stopping => exact stopping.step stepped

variable {world : Nat → Environment}

/-- Once `_stop` is set, a worker that is not going to sleep leaves `run` by
itself, finishing a request in flight when it returns. -/
theorem exited_of_awake {s : DispatchState} (reachable : Reachable world s)
    (stopped : s.stop = true)
    (returns : ∀ entry ∈ s.enqueued, ∃ response, respond world entry = .response response)
    (awake : s.worker ≠ .waitCall ∧ s.worker ≠ .waiting) :
    ∃ t, Relation.ReflTransGen (WorkerMove world) s t ∧ t.worker = .exited ∧ t.stop = true ∧
      t.destructor = s.destructor := by
  have signalled := reachable.signalled
  have inFlight := returns_inFlight reachable returns
  obtain ⟨queue, stop, worker, destructor, notifies, enqueued, taken, executed, delivered⟩ := s
  dsimp only at stopped inFlight awake
  subst stopped
  cases worker with
  | lock | woken => exact ⟨_, .head (.inl rfl) (.head (.inl rfl) (.single (.inl rfl))), rfl, rfl, rfl⟩
  | test => exact ⟨_, .head (.inl rfl) (.single (.inl rfl)), rfl, rfl, rfl⟩
  | checkStop | recheck _ | finalCheck => exact ⟨_, .single (.inl rfl), rfl, rfl, rfl⟩
  | exited => exact ⟨_, .refl, rfl, rfl, rfl⟩
  | pop =>
      obtain ⟨first, rest, rfl⟩ := List.exists_cons_of_ne_nil (show queue ≠ [] from signalled)
      exact ⟨_, .head (.inl rfl) (.single (.inl rfl)), rfl, rfl, rfl⟩
  | callback entry response =>
      exact ⟨_, .head (.inl rfl) (.single (.inl rfl)), rfl, rfl, rfl⟩
  | request entry =>
      obtain ⟨response, responded⟩ := inFlight.1 entry (.inl rfl)
      exact ⟨_, .head (.inl (step_run_of_request rfl responded))
        (.head (.inl rfl) (.single (.inl rfl))), rfl, rfl, rfl⟩
  | stuck entry => exact absurd rfl (inFlight.2 entry)
  | waitCall => exact absurd rfl awake.1
  | waiting => exact absurd rfl awake.2

/-- Once the worker has left `run`, the destructor finishes: it notifies, if
it has not yet, and `join` returns. -/
theorem joined_of_exited {s : DispatchState} (stopping : s.Stopping) (stopped : s.stop = true)
    (exited : s.worker = .exited) :
    ∃ t, Relation.ReflTransGen (Step world) s t ∧ t.worker = .exited ∧ t.destructor = .joined := by
  obtain ⟨queue, stop, worker, destructor, notifies, enqueued, taken, executed, delivered⟩ := s
  obtain ⟨stop_iff, -⟩ := stopping
  dsimp only at stopped exited stop_iff
  subst stopped exited
  cases destructor with
  | running => exact absurd rfl (stop_iff.mp rfl)
  | stopped => exact ⟨_, .head ⟨.notifyStop, rfl⟩ (.single ⟨.join, rfl⟩), rfl, rfl⟩
  | joining => exact ⟨_, .single ⟨.join, rfl⟩, rfl, rfl⟩
  | joined => exact ⟨_, .refl, rfl, rfl⟩

/-- Once `_stop` is set, a sleeping worker is woken by the destructor's own
notification while that is still to come, or else by one a producer owes. -/
theorem awake_of_stopped {s : DispatchState} (reachable : Reachable world s)
    (stopped : s.stop = true)
    (notLost : s.destructor = .joining → (s.worker = .waitCall ∨ s.worker = .waiting) →
      s.notifies ≠ 0) :
    ∃ t, Relation.ReflTransGen (Step world) s t ∧ t.worker ≠ .waitCall ∧ t.worker ≠ .waiting ∧
      t.stop = true ∧ t.enqueued = s.enqueued := by
  obtain ⟨stop_iff, exited_of_joined⟩ := reachable.stopping
  obtain ⟨queue, stop, worker, destructor, notifies, enqueued, taken, executed, delivered⟩ := s
  dsimp only at stopped notLost stop_iff exited_of_joined
  subst stopped
  cases worker with
  | waitCall =>
      cases destructor with
      | running => exact absurd rfl (stop_iff.mp rfl)
      | stopped => exact ⟨_, .head ⟨.run, rfl⟩ (.single ⟨.notifyStop, rfl⟩), nofun, nofun, rfl, rfl⟩
      | joining =>
          exact ⟨_, .head ⟨.run, rfl⟩ (.single ⟨.notify, if_neg (notLost rfl (.inl rfl))⟩),
            nofun, nofun, rfl, rfl⟩
      | joined => cases exited_of_joined rfl
  | waiting =>
      cases destructor with
      | running => exact absurd rfl (stop_iff.mp rfl)
      | stopped => exact ⟨_, .single ⟨.notifyStop, rfl⟩, nofun, nofun, rfl, rfl⟩
      | joining =>
          exact ⟨_, .single ⟨.notify, if_neg (notLost rfl (.inr rfl))⟩, nofun, nofun, rfl, rfl⟩
      | joined => cases exited_of_joined rfl
  | lock | test | woken | checkStop | pop | recheck _ | request _ | callback _ _ | finalCheck
    | exited | stuck _ => exact ⟨_, .refl, nofun, nofun, rfl, rfl⟩

end Shutdown

/-- Once `_stop` is set, `~HttpClient` completes whenever the requests pushed
return and the worker has not lost its wake-up, that is unless it is going to
sleep or asleep after the destructor's only notification with none owed by a
producer: from every reachable state, whatever interleaving led there, some
continuation has the worker leave `run` and `join` return. -/
theorem shutdown_completes (world : Nat → Environment) {s : DispatchState}
    (reachable : Reachable world s) (stopped : s.stop = true)
    (returns : ∀ entry ∈ s.enqueued, ∃ response, respond world entry = .response response)
    (notLost : s.destructor = .joining → (s.worker = .waitCall ∨ s.worker = .waiting) →
      s.notifies ≠ 0) :
    ∃ t, Relation.ReflTransGen (Step world) s t ∧ t.worker = .exited ∧ t.destructor = .joined := by
  obtain ⟨u, woken, notCalling, notWaiting, awakeStopped, sameEnqueued⟩ :=
    awake_of_stopped reachable stopped notLost
  have reachedU := reachable.of_steps woken
  obtain ⟨v, exits, exited, exitStopped, -⟩ :=
    exited_of_awake reachedU awakeStopped (sameEnqueued ▸ returns) ⟨notCalling, notWaiting⟩
  have exitSteps := exits.mono fun _ _ => WorkerMove.step
  obtain ⟨t, joins, finished, joined⟩ :=
    joined_of_exited (reachedU.of_steps exitSteps).stopping exitStopped exited
  exact ⟨t, (woken.trans exitSteps).trans joins, finished, joined⟩

theorem stop_while_asleep_completes :
    ∃ s, runActions idleWorld .init [.run, .run, .run, .setStop] = some s ∧
      s.worker = .waiting ∧ s.destructor = .stopped ∧
      ∃ t, Relation.ReflTransGen (Step idleWorld) s t ∧ t.worker = .exited ∧
        t.destructor = .joined :=
  ⟨_, rfl, rfl, rfl, shutdown_completes idleWorld
    (@reachable_of_runActions idleWorld _ _ [.run, .run, .run, .setStop] .init rfl) rfl nofun
    nofun⟩

end IxHttpClient
