import AlertPipeline.Channel

/-
The worker pool of `internal/pool` (`WorkerPool`): `workerCount` goroutines drain the
buffered `taskQueue`; `Submit` and `SubmitWithContext` never block; `Stop` is guarded by
`mu` and `stopped`, closes `stopChan`, waits on `wg` for the workers and then closes
`taskQueue`; `StopWithTimeout` runs `Stop` in a goroutine of its own and waits for it or for
its timeout.

One model step is one atomic action of one goroutine.  A section guarded by `mu` is one
step, since no goroutine blocks inside one.  A running task is opaque: it ends by one step
of its worker.  `accepted` and `dequeued` are ghost logs of the tasks that entered the
queue and of the tasks workers received, in order.
-/

namespace AlertPipeline

/-- Where a worker goroutine (`worker`) is. -/
inductive WorkerPhase (τ : Type) where
  | notStarted
  /-- At the three-way `select` of the worker's `for` loop. -/
  | selecting
  /-- Inside `task(ctx)`. -/
  | running (task : τ)
  /-- Returned; its deferred `wg.Done()` ran. -/
  | exited
deriving Repr, DecidableEq

/-- The ready case of the worker's `select` that the scheduler picks, or the return of the
task the worker runs. -/
inductive WorkerCase where
  | taskQueue
  | stopChan
  | ctxDone
  | taskReturns
deriving Repr, DecidableEq

/-- What `Submit` and `SubmitWithContext` return. -/
inductive SubmitResult where
  /-- `nil`. -/
  | ok
  /-- `fmt.Errorf("worker pool is stopped")`. -/
  | stopped
  /-- `fmt.Errorf("task queue is full")`. -/
  | queueFull
  /-- `ctx.Err()`. -/
  | ctxErr
deriving Repr, DecidableEq

/-- One call of `Submit` or `SubmitWithContext`. -/
inductive SubmitPhase (τ : Type) where
  | idle
  /-- `SubmitWithContext`: `select { case <-ctx.Done(): ... default: }`. -/
  | checkContext (task : τ)
  /-- `Submit`: `wp.mu.RLock(); if wp.stopped { ... }; wp.mu.RUnlock()`. -/
  | checkStopped (task : τ)
  /-- `select { case wp.taskQueue <- task: ... default: ... }`. -/
  | send (task : τ)
  | returned (result : SubmitResult)
  | panicked
deriving Repr, DecidableEq

/-- One call of `Stop`. -/
inductive StopPhase where
  | idle
  /-- `wp.mu.Lock(); if wp.stopped { wp.mu.Unlock(); return }; wp.stopped = true; ...`. -/
  | lock
  | closeStopChan
  | waitWorkers
  | closeTaskQueue
  | returned
  /-- The return inside `if wp.stopped`. -/
  | returnedEarly
  | panicked
deriving Repr, DecidableEq

/-- One call of `StopWithTimeout`, waiting for the goroutine that runs `Stop` in slot
`stopper` to close `done`, or for its timeout context. -/
inductive TimeoutPhase where
  | idle
  | waiting (stopper : Nat)
  /-- `timedOut` is the `"worker pool shutdown timeout exceeded"` error. -/
  | returned (timedOut : Bool)
deriving Repr, DecidableEq

structure WorkerPool (τ : Type) where
  workerCount : Nat
  taskQueue : Chan τ
  stopChanClosed : Bool
  stopped : Bool
  /-- The context given to `Start` is done. -/
  ctxDone : Bool
  workers : Nat → WorkerPhase τ
  submitters : Nat → SubmitPhase τ
  stoppers : Nat → StopPhase
  timeouts : Nat → TimeoutPhase
  accepted : List τ
  dequeued : List τ

/-- The error text of each failed `Submit`; `ctx.Err()` is the context's own error. -/
def SubmitResult.text? : SubmitResult → Option String
  | .ok => none
  | .stopped => some "worker pool is stopped"
  | .queueFull => some "task queue is full"
  | .ctxErr => none

/-- `NewWorkerPool`, with its defaults for non-positive arguments. -/
def newWorkerPool (workerCount queueSize : Int) : WorkerPool τ where
  workerCount := if workerCount ≤ 0 then 1 else workerCount.toNat
  taskQueue := Chan.make (if queueSize ≤ 0 then 100 else queueSize.toNat)
  stopChanClosed := false
  stopped := false
  ctxDone := false
  workers := fun _ => .notStarted
  submitters := fun _ => .idle
  stoppers := fun _ => .idle
  timeouts := fun _ => .idle
  accepted := []
  dequeued := []

/-- `Start`: one worker goroutine per `workerCount`, each counted in `wg`. -/
def WorkerPool.start (wp : WorkerPool τ) : WorkerPool τ :=
  { wp with workers := fun w => if w < wp.workerCount then .selecting else wp.workers w }

/-- A worker counted in `wg`: started and not yet returned. -/
def WorkerPhase.holdsWaitGroup : WorkerPhase τ → Bool
  | .selecting | .running _ => true
  | .notStarted | .exited => false

/-- A call of `Submit` or `SubmitWithContext` that has not returned yet. -/
def SubmitPhase.pending : SubmitPhase τ → Bool
  | .checkContext _ | .checkStopped _ | .send _ => true
  | _ => false

/-- A `Stop` call that set `stopped` itself, from then until it returns. -/
def StopPhase.won : StopPhase → Bool
  | .closeStopChan | .waitWorkers | .closeTaskQueue | .returned => true
  | _ => false

/-- The `done` channel of `StopWithTimeout` is closed once its `Stop` call returned. -/
def StopPhase.hasReturned : StopPhase → Bool
  | .returned | .returnedEarly => true
  | _ => false

/-- One atomic action of one goroutine of the pool, or of its environment. -/
inductive PoolAction (τ : Type) where
  /-- A goroutine calls `Submit(task)`, or `SubmitWithContext(ctx, task)`, in slot `i`. -/
  | submit (i : Nat) (task : τ) (withContext : Bool)
  /-- The next action of the call in slot `i`; `ctxDone` is the state of its context. -/
  | submitStep (i : Nat) (ctxDone : Bool)
  | stop (i : Nat)
  /-- A goroutine calls `StopWithTimeout` in slot `i`; its `Stop` goroutine takes slot
  `stopper`. -/
  | stopWithTimeout (i stopper : Nat)
  | stopStep (i : Nat)
  | timeoutStep (i : Nat) (timedOut : Bool)
  | worker (w : Nat) (c : WorkerCase)
  /-- The context given to `Start` is cancelled. -/
  | cancel

namespace WorkerPool

variable {τ : Type}

@[simps] def setWorker (wp : WorkerPool τ) (w : Nat) (p : WorkerPhase τ) : WorkerPool τ :=
  { wp with workers := Function.update wp.workers w p }

@[simps] def setSubmitter (wp : WorkerPool τ) (i : Nat) (p : SubmitPhase τ) : WorkerPool τ :=
  { wp with submitters := Function.update wp.submitters i p }

@[simps] def setStopper (wp : WorkerPool τ) (i : Nat) (p : StopPhase) : WorkerPool τ :=
  { wp with stoppers := Function.update wp.stoppers i p }

@[simps] def setTimeout (wp : WorkerPool τ) (i : Nat) (p : TimeoutPhase) : WorkerPool τ :=
  { wp with timeouts := Function.update wp.timeouts i p }

/-- `wp.wg.Wait()` can return: no started worker is still counted. -/
def workersDone (wp : WorkerPool τ) : Bool :=
  (List.range wp.workerCount).all fun w => !(wp.workers w).holdsWaitGroup

/-- A new call of `Submit` or `SubmitWithContext` in an unused slot. -/
def submitCall (wp : WorkerPool τ) (i : Nat) (task : τ) (withContext : Bool) :
    Option (WorkerPool τ) :=
  match wp.submitters i with
  | .idle => some (wp.setSubmitter i (if withContext then .checkContext task else .checkStopped task))
  | _ => none

/-- `SubmitWithContext` and `Submit`, one atomic action at a time. -/
def submitStep (wp : WorkerPool τ) (i : Nat) (ctxDone : Bool) : Option (WorkerPool τ) :=
  match wp.submitters i with
  | .checkContext task =>
      some (wp.setSubmitter i (if ctxDone then .returned .ctxErr else .checkStopped task))
  | .checkStopped task =>
      some (wp.setSubmitter i (if wp.stopped then .returned .stopped else .send task))
  | .send task =>
      match wp.taskQueue.trySend task with
      | .sent q =>
          some { wp.setSubmitter i (.returned .ok) with
            taskQueue := q, accepted := wp.accepted ++ [task] }
      | .full => some (wp.setSubmitter i (.returned .queueFull))
      | .panics => some (wp.setSubmitter i .panicked)
  | _ => none

def stopCall (wp : WorkerPool τ) (i : Nat) : Option (WorkerPool τ) :=
  match wp.stoppers i with
  | .idle => some (wp.setStopper i .lock)
  | _ => none

/-- `StopWithTimeout` starts `go func() { wp.Stop(); close(done) }()`. -/
def stopWithTimeoutCall (wp : WorkerPool τ) (i stopper : Nat) : Option (WorkerPool τ) :=
  match wp.timeouts i, wp.stoppers stopper with
  | .idle, .idle => some ((wp.setTimeout i (.waiting stopper)).setStopper stopper .lock)
  | _, _ => none

/-- `Stop`, one atomic action at a time. -/
def stopStep (wp : WorkerPool τ) (i : Nat) : Option (WorkerPool τ) :=
  match wp.stoppers i with
  | .lock =>
      if wp.stopped then some (wp.setStopper i .returnedEarly)
      else some { wp.setStopper i .closeStopChan with stopped := true }
  | .closeStopChan =>
      if wp.stopChanClosed then some (wp.setStopper i .panicked)
      else some { wp.setStopper i .waitWorkers with stopChanClosed := true }
  | .waitWorkers => if wp.workersDone then some (wp.setStopper i .closeTaskQueue) else none
  | .closeTaskQueue =>
      if wp.taskQueue.closed then some (wp.setStopper i .panicked)
      else some { wp.setStopper i .returned with taskQueue := { wp.taskQueue with closed := true } }
  | _ => none

/-- The `select` of `StopWithTimeout` between `done` and `timeout.Done()`. -/
def timeoutStep (wp : WorkerPool τ) (i : Nat) (timedOut : Bool) : Option (WorkerPool τ) :=
  match wp.timeouts i with
  | .waiting stopper =>
      if timedOut then some (wp.setTimeout i (.returned true))
      else if (wp.stoppers stopper).hasReturned then some (wp.setTimeout i (.returned false))
      else none
  | _ => none

/-- `worker`: the case of its `select` that the scheduler picks, or the return of the task. -/
def workerStep (wp : WorkerPool τ) (w : Nat) : WorkerCase → Option (WorkerPool τ)
  | .taskQueue =>
      match wp.workers w, wp.taskQueue.recv? with
      | .selecting, some (some task, q) =>
          some { wp.setWorker w (.running task) with
            taskQueue := q, dequeued := wp.dequeued ++ [task] }
      | .selecting, some (none, _) => some (wp.setWorker w .exited)
      | _, _ => none
  | .stopChan =>
      match wp.workers w with
      | .selecting => if wp.stopChanClosed then some (wp.setWorker w .exited) else none
      | _ => none
  | .ctxDone =>
      match wp.workers w with
      | .selecting => if wp.ctxDone then some (wp.setWorker w .exited) else none
      | _ => none
  | .taskReturns =>
      match wp.workers w with
      | .running _ => some (wp.setWorker w .selecting)
      | _ => none

def step (wp : WorkerPool τ) : PoolAction τ → Option (WorkerPool τ)
  | .submit i task withContext => wp.submitCall i task withContext
  | .submitStep i ctxDone => wp.submitStep i ctxDone
  | .stop i => wp.stopCall i
  | .stopWithTimeout i stopper => wp.stopWithTimeoutCall i stopper
  | .stopStep i => wp.stopStep i
  | .timeoutStep i timedOut => wp.timeoutStep i timedOut
  | .worker w c => wp.workerStep w c
  | .cancel => some { wp with ctxDone := true }

/-! ### What each action can do -/

theorem submitCall_eq {wp wp' : WorkerPool τ} {i : Nat} {task : τ} {withContext : Bool}
    (h : wp.submitCall i task withContext = some wp') :
    wp.submitters i = .idle ∧
      wp' = wp.setSubmitter i (if withContext then .checkContext task else .checkStopped task) := by
  unfold submitCall at h
  split at h
  · cases h; exact ⟨‹_›, rfl⟩
  · cases h

theorem submitStep_cases {wp wp' : WorkerPool τ} {i : Nat} {ctxDone : Bool}
    (h : wp.submitStep i ctxDone = some wp') :
    (∃ task, wp.submitters i = .checkContext task ∧
        wp' = wp.setSubmitter i (if ctxDone then .returned .ctxErr else .checkStopped task)) ∨
    (∃ task, wp.submitters i = .checkStopped task ∧
        wp' = wp.setSubmitter i (if wp.stopped then .returned .stopped else .send task)) ∨
    (∃ task, wp.submitters i = .send task ∧ wp.taskQueue.closed = false ∧
        wp.taskQueue.buffer.length < wp.taskQueue.capacity ∧
        wp' = { wp.setSubmitter i (.returned .ok) with
          taskQueue := { wp.taskQueue with buffer := wp.taskQueue.buffer ++ [task] },
          accepted := wp.accepted ++ [task] }) ∨
    (∃ task, wp.submitters i = .send task ∧ wp.taskQueue.closed = false ∧
        wp.taskQueue.capacity ≤ wp.taskQueue.buffer.length ∧
        wp' = wp.setSubmitter i (.returned .queueFull)) ∨
    (∃ task, wp.submitters i = .send task ∧ wp.taskQueue.closed = true ∧
        wp' = wp.setSubmitter i .panicked) := by
  unfold submitStep at h
  split at h
  · cases h; exact .inl ⟨_, ‹_›, rfl⟩
  · cases h; exact .inr (.inl ⟨_, ‹_›, rfl⟩)
  · rename_i task hs
    split at h
    · rename_i q hq
      obtain ⟨hc, hlt, rfl⟩ := Chan.trySend_eq_sent hq
      cases h
      exact .inr (.inr (.inl ⟨task, hs, hc, hlt, rfl⟩))
    · rename_i hq
      obtain ⟨hc, hle⟩ := Chan.trySend_eq_full hq
      cases h
      exact .inr (.inr (.inr (.inl ⟨task, hs, hc, hle, rfl⟩)))
    · rename_i hq
      cases h
      exact .inr (.inr (.inr (.inr ⟨task, hs, Chan.trySend_eq_panics.mp hq, rfl⟩)))
  · cases h

theorem stopCall_eq {wp wp' : WorkerPool τ} {i : Nat} (h : wp.stopCall i = some wp') :
    wp.stoppers i = .idle ∧ wp' = wp.setStopper i .lock := by
  unfold stopCall at h
  split at h
  · cases h; exact ⟨‹_›, rfl⟩
  · cases h

theorem stopWithTimeoutCall_eq {wp wp' : WorkerPool τ} {i stopper : Nat}
    (h : wp.stopWithTimeoutCall i stopper = some wp') :
    wp.timeouts i = .idle ∧ wp.stoppers stopper = .idle ∧
      wp' = (wp.setTimeout i (.waiting stopper)).setStopper stopper .lock := by
  unfold stopWithTimeoutCall at h
  split at h
  · cases h; exact ⟨‹_›, ‹_›, rfl⟩
  · cases h

theorem stopStep_cases {wp wp' : WorkerPool τ} {i : Nat} (h : wp.stopStep i = some wp') :
    (wp.stoppers i = .lock ∧ wp.stopped = true ∧ wp' = wp.setStopper i .returnedEarly) ∨
    (wp.stoppers i = .lock ∧ wp.stopped = false ∧
        wp' = { wp.setStopper i .closeStopChan with stopped := true }) ∨
    (wp.stoppers i = .closeStopChan ∧ wp.stopChanClosed = true ∧
        wp' = wp.setStopper i .panicked) ∨
    (wp.stoppers i = .closeStopChan ∧ wp.stopChanClosed = false ∧
        wp' = { wp.setStopper i .waitWorkers with stopChanClosed := true }) ∨
    (wp.stoppers i = .waitWorkers ∧ wp.workersDone = true ∧
        wp' = wp.setStopper i .closeTaskQueue) ∨
    (wp.stoppers i = .closeTaskQueue ∧ wp.taskQueue.closed = true ∧
        wp' = wp.setStopper i .panicked) ∨
    (wp.stoppers i = .closeTaskQueue ∧ wp.taskQueue.closed = false ∧
        wp' = { wp.setStopper i .returned with
          taskQueue := { wp.taskQueue with closed := true } }) := by
  unfold stopStep at h
  split at h <;> rename_i hs
  · split at h <;> cases h
    · exact .inl ⟨hs, ‹_›, rfl⟩
    · exact .inr (.inl ⟨hs, by simpa using ‹¬_ = true›, rfl⟩)
  · split at h <;> cases h
    · exact .inr (.inr (.inl ⟨hs, ‹_›, rfl⟩))
    · exact .inr (.inr (.inr (.inl ⟨hs, by simpa using ‹¬_ = true›, rfl⟩)))
  · split at h <;> cases h
    exact .inr (.inr (.inr (.inr (.inl ⟨hs, ‹_›, rfl⟩))))
  · split at h <;> cases h
    · exact .inr (.inr (.inr (.inr (.inr (.inl ⟨hs, ‹_›, rfl⟩)))))
    · exact .inr (.inr (.inr (.inr (.inr (.inr ⟨hs, by simpa using ‹¬_ = true›, rfl⟩)))))
  · cases h

theorem timeoutStep_eq {wp wp' : WorkerPool τ} {i : Nat} {timedOut : Bool}
    (h : wp.timeoutStep i timedOut = some wp') :
    ∃ p, wp' = wp.setTimeout i p := by
  unfold timeoutStep at h
  split at h
  · split at h
    · cases h; exact ⟨_, rfl⟩
    · split at h
      · cases h; exact ⟨_, rfl⟩
      · cases h
  · cases h

theorem workerStep_cases {wp wp' : WorkerPool τ} {w : Nat} {c : WorkerCase}
    (h : wp.workerStep w c = some wp') :
    (∃ task q, wp.workers w = .selecting ∧ wp.taskQueue.buffer = task :: q.buffer ∧
        q.capacity = wp.taskQueue.capacity ∧ q.closed = wp.taskQueue.closed ∧
        wp' = { wp.setWorker w (.running task) with
          taskQueue := q, dequeued := wp.dequeued ++ [task] }) ∨
    (wp.workers w = .selecting ∧ wp' = wp.setWorker w .exited) ∨
    (∃ task, wp.workers w = .running task ∧ wp' = wp.setWorker w .selecting) := by
  cases c <;> simp only [workerStep] at h
  · split at h
    · rename_i task q hw hq
      obtain ⟨hb, hcap, hcl⟩ := Chan.recv?_eq_some_some hq
      cases h
      exact .inl ⟨task, q, hw, hb, hcap, hcl, rfl⟩
    · cases h; exact .inr (.inl ⟨‹_›, rfl⟩)
    · cases h
  all_goals
    split at h
    all_goals first
      | (split at h <;> cases h; exact .inr (.inl ⟨‹_›, rfl⟩))
      | (cases h; exact .inr (.inr ⟨_, ‹_›, rfl⟩))
      | cases h

/-- The pools a started `NewWorkerPool(workerCount, queueSize)` can reach. -/
inductive Reachable (workerCount queueSize : Int) : WorkerPool τ → Prop where
  | init : Reachable workerCount queueSize (newWorkerPool workerCount queueSize).start
  | step {wp wp' : WorkerPool τ} (a : PoolAction τ) :
      Reachable workerCount queueSize wp → wp.step a = some wp' →
      Reachable workerCount queueSize wp'

/-- Replay a schedule; `none` as soon as an action is not enabled. -/
def run (wp : WorkerPool τ) : List (PoolAction τ) → Option (WorkerPool τ)
  | [] => some wp
  | a :: rest => (wp.step a).bind (run · rest)

theorem Reachable.run {workerCount queueSize : Int} {wp wp' : WorkerPool τ} :
    ∀ {schedule : List (PoolAction τ)}, Reachable workerCount queueSize wp →
      wp.run schedule = some wp' → Reachable workerCount queueSize wp'
  | [], h, hrun => by cases hrun; exact h
  | a :: rest, h, hrun => by
    simp only [WorkerPool.run, Option.bind_eq_some] at hrun
    obtain ⟨mid, hstep, hrest⟩ := hrun
    exact Reachable.run (h.step a hstep) hrest

/-- A schedule replayed from the started pool ends in a reachable state where `p` holds. -/
theorem Reachable.of_run (workerCount queueSize : Int) (schedule : List (PoolAction τ))
    (p : WorkerPool τ → Prop) [DecidablePred p]
    (h : ((newWorkerPool workerCount queueSize).start.run schedule).map (fun wp => decide (p wp)) =
      some true) :
    ∃ wp, Reachable workerCount queueSize wp ∧ p wp := by
  cases hr : (newWorkerPool workerCount queueSize : WorkerPool τ).start.run schedule with
  | none => simp [hr] at h
  | some wp =>
    simp only [hr, Option.map_some', Option.some.injEq,
      decide_eq_true_eq] at h
    exact ⟨wp, Reachable.init.run hr, h⟩

end WorkerPool

end AlertPipeline
