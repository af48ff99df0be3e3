import AlertPipeline.WorkerPoolSafety

/-
What `Stop` does and does not guarantee about tasks.  `Submit` reads `stopped` under the
read lock and releases it before its send, so a `Stop` that runs in between can close
`taskQueue` under it.  The workers' `select` picks among its ready cases at random, so a
worker can still start a queued task after `stopChan` is closed.  And a `Stop` call that
finds `stopped` set returns at once.  The `Stop` call that set `stopped` does wait for every
worker.
-/

namespace AlertPipeline

namespace WorkerPool

variable {τ : Type}

theorem step_frame_workers {wp wp' : WorkerPool τ} {a : PoolAction τ}
    (hs : wp.step a = some wp') (ha : ∀ w c, a ≠ .worker w c) :
    wp'.workers = wp.workers ∧ wp'.dequeued = wp.dequeued := by
  cases a with
  | submit => obtain ⟨-, rfl⟩ := submitCall_eq hs; exact ⟨rfl, rfl⟩
  | submitStep =>
    rcases submitStep_cases hs with ⟨_, -, rfl⟩ | ⟨_, -, rfl⟩ | ⟨_, -, -, -, rfl⟩ |
      ⟨_, -, -, -, rfl⟩ | ⟨_, -, -, rfl⟩ <;> exact ⟨rfl, rfl⟩
  | stop => obtain ⟨-, rfl⟩ := stopCall_eq hs; exact ⟨rfl, rfl⟩
  | stopWithTimeout => obtain ⟨-, -, rfl⟩ := stopWithTimeoutCall_eq hs; exact ⟨rfl, rfl⟩
  | stopStep =>
    rcases stopStep_cases hs with ⟨-, -, rfl⟩ | ⟨-, -, rfl⟩ | ⟨-, -, rfl⟩ | ⟨-, -, rfl⟩ |
      ⟨-, -, rfl⟩ | ⟨-, -, rfl⟩ | ⟨-, -, rfl⟩ <;> exact ⟨rfl, rfl⟩
  | timeoutStep => obtain ⟨p, rfl⟩ := timeoutStep_eq hs; exact ⟨rfl, rfl⟩
  | worker w c => exact absurd rfl (ha w c)
  | cancel => cases hs; exact ⟨rfl, rfl⟩

/-- The only way out of `running` is the return of the task. -/
theorem step_leaves_running {wp wp' : WorkerPool τ} {a : PoolAction τ} {w : Nat} {task : τ}
    (hs : wp.step a = some wp') (hw : wp.workers w = .running task)
    (hw' : wp'.workers w ≠ .running task) : a = .worker w .taskReturns := by
  cases a
  case worker v c =>
    by_cases hvw : v = w
    · subst hvw
      cases c <;> simp [step, workerStep, hw] at hs ⊢
    · rcases workerStep_cases hs with ⟨_, _, -, -, -, -, rfl⟩ | ⟨-, rfl⟩ | ⟨_, -, rfl⟩ <;>
        simp [Function.update_noteq (Ne.symm hvw), hw] at hw'
  all_goals
    exact absurd (by rw [(step_frame_workers hs fun _ _ h => nomatch h).1]; exact hw) hw'

/-- At every reachable state a task leaves `running` only by returning, so `Stop` never
interrupts one; and the `Stop` call that set `stopped` returns only once every worker has
left: no task is running then and no worker takes another one. -/
theorem winning_stop_waits_for_workers {workerCount queueSize : Int} {wp : WorkerPool τ}
    (h : Reachable workerCount queueSize wp) :
    (∀ a wp' w task, wp.step a = some wp' → wp.workers w = .running task →
      wp'.workers w ≠ .running task → a = .worker w .taskReturns) ∧
    ∀ i, wp.stoppers i = .returned → (∀ w task, wp.workers w ≠ .running task) ∧
      ∀ a wp', wp.step a = some wp' → wp'.dequeued = wp.dequeued := by
  refine ⟨fun a wp' w task hs => step_leaves_running hs, fun i hi => ?_⟩
  have hd := h.inv.drained i (.inr hi)
  refine ⟨fun w task hw => by simpa [hw, WorkerPhase.holdsWaitGroup] using hd w, ?_⟩
  intro a wp' hs
  cases a
  case worker w c =>
    rcases workerStep_cases hs with ⟨_, _, hw, -⟩ | ⟨-, rfl⟩ | ⟨_, hw, rfl⟩
    · simpa [hw, WorkerPhase.holdsWaitGroup] using hd w
    · rfl
    · rfl
  all_goals exact (step_frame_workers hs fun _ _ h => nomatch h).2

/-- After `fullQueueTwoStops` the winning `Stop` has returned with task `2` still queued:
that task is never started. -/
theorem winning_stop_waits_for_workers_fullQueue :
    ∃ wp : WorkerPool Nat, Reachable 1 1 wp ∧ wp.stoppers 0 = .returned ∧
      wp.taskQueue.buffer = [2] ∧ wp.dequeued = [1] ∧
      ((∀ a wp' w task, wp.step a = some wp' → wp.workers w = .running task →
        wp'.workers w ≠ .running task → a = .worker w .taskReturns) ∧
      ∀ i, wp.stoppers i = .returned → (∀ w task, wp.workers w ≠ .running task) ∧
        ∀ a wp', wp.step a = some wp' → wp'.dequeued = wp.dequeued) := by
  obtain ⟨wp, hr, hs, hq, hd⟩ := Reachable.of_run 1 1 fullQueueTwoStops
    (fun wp : WorkerPool Nat => wp.stoppers 0 = .returned ∧ wp.taskQueue.buffer = [2] ∧
      wp.dequeued = [1]) (by decide)
  exact ⟨wp, hr, hs, hq, hd, winning_stop_waits_for_workers hr⟩

/-- A schedule of the evaluator's pool `NewWorkerPool(5, 300)`: the watcher's dispatcher
calls `SubmitWithContext`, passes the context check and reads `stopped` unset; `Stop` then
wins, closes `stopChan`, sees the five workers leave and closes `taskQueue`; the send of
`Submit` comes last. -/
def submitStopRace : List (PoolAction Nat) :=
  [.submit 0 7 true, .submitStep 0 false, .submitStep 0 false, .stop 0, .stopStep 0,
    .stopStep 0, .worker 0 .stopChan, .worker 1 .stopChan, .worker 2 .stopChan,
    .worker 3 .stopChan, .worker 4 .stopChan, .stopStep 0, .stopStep 0, .submitStep 0 false]

theorem submit_after_stop_panics :
    ∃ wp : WorkerPool Nat, Reachable 5 300 wp ∧ wp.stoppers 0 = .returned ∧
      wp.taskQueue.closed = true ∧ wp.submitters 0 = .panicked := by
  exact Reachable.of_run 5 300 submitStopRace
    (fun wp => (wp.stoppers 0 = .returned ∧ wp.taskQueue.closed = true ∧
      wp.submitters 0 = .panicked)) (by decide)

/-- Two tasks on `NewWorkerPool(1, 2)`: the worker starts the first, the second waits in
`taskQueue`; `Stop` wins and closes `stopChan` while the first runs. -/
def stopWhileQueued : List (PoolAction Nat) :=
  [.submit 0 1 false, .submitStep 0 false, .submitStep 0 false, .worker 0 .taskQueue,
    .submit 1 2 false, .submitStep 1 false, .submitStep 1 false, .stop 0, .stopStep 0,
    .stopStep 0, .worker 0 .taskReturns]

/-- Once `stopChan` is closed, the worker's `select` may still take the queued task and
start it; and a second `Stop` call, made while that task runs, returns at once. -/
theorem stop_starts_queued_task_and_returns_early :
    (∃ wp : WorkerPool Nat, Reachable 1 2 wp ∧ wp.stopChanClosed = true ∧
      wp.taskQueue.buffer = [2] ∧
      (wp.step (.worker 0 .taskQueue)).map (·.workers 0) = some (.running 2)) ∧
    (∃ wp : WorkerPool Nat, Reachable 1 2 wp ∧ wp.workers 0 = .running 2 ∧
      (wp.run [.stop 1, .stopStep 1]).map (fun wp' => (wp'.stoppers 1, wp'.workers 0)) =
        some (.returnedEarly, .running 2)) := by
  constructor
  · exact Reachable.of_run 1 2 stopWhileQueued
      (fun wp => (wp.stopChanClosed = true ∧ wp.taskQueue.buffer = [2] ∧
        (wp.step (.worker 0 .taskQueue)).map (·.workers 0) = some (.running 2))) (by decide)
  · exact Reachable.of_run 1 2 (stopWhileQueued ++ [.worker 0 .taskQueue])
      (fun wp => (wp.workers 0 = .running 2 ∧
        (wp.run [.stop 1, .stopStep 1]).map (fun wp' => (wp'.stoppers 1, wp'.workers 0)) =
          some (.returnedEarly, .running 2))) (by decide)

end WorkerPool

end AlertPipeline
