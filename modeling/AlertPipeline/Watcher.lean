import AlertPipeline.WorkerPool

/-
The watch pipelines of `internal/collector`, `PodWatcher` and `NodeWatcher`.  `watchPods`
(`watchNodes`) receives each event of the watch stream and tries a non-blocking send on the
buffered `eventChan`, dropping the event when it is full.  The single `eventDispatcher`
receives from `eventChan` and calls `SubmitWithContext` on the worker pool with a task that
runs `processEvent(event)`.  The worker running that task evaluates the event's object and
passes each alert to `AlertStateManager.ProcessAlert`, which calls `AlertRepo.Create` and, when
it succeeds, `Publish`.

The two watchers differ only in the capacity of `eventChan` (500 and 300) and in the
evaluator, so one model serves both: `evaluate obj now` is the list of rule instances that
`evaluatePodConditions` (`evaluateNodeConditions`) yields for `obj` at time `now`, since
`time.Since` makes the pending-pod rule depend on the time.  Events are numbered by their
position in the watch stream, and objects that are not pods (nodes) are skipped by the code
and are not in the stream here.  `NewAlert` gives each alert `uuid.New()`, modelled as a
counter, that is, as never giving an id twice.

A worker's receive from `taskQueue` and the evaluation that starts `processEvent` are one
step: the evaluation reads nothing another goroutine writes.  `Publish` never blocks and
touches nothing modelled here, so one `ProcessAlert` call is one step.  The pool is the
watcher's own and runs with the watcher's context: tasks that other watchers submit to a
shared pool would only take queue space.
-/

namespace AlertPipeline

/-- A `PodEvent` (`NodeEvent`): the object the watch stream delivered at position `index`. -/
structure WatchEvent (ο : Type) where
  index : Nat
  obj : ο
deriving Repr, DecidableEq

/-- An alert built by the evaluator: its rule instance and the id `NewAlert` gave it. -/
structure BuiltAlert (ρ : Type) where
  id : Nat
  rule : ρ
deriving Repr, DecidableEq

/-- Where `watchPods` (`watchNodes`) is. -/
inductive WatchPhase (ο : Type) where
  /-- At the `select` on `watcher.ResultChan()`, `stopCh` and `ctx.Done()`. -/
  | selecting
  /-- Holding `e`, before `select { case eventChan <- e: default: }`. -/
  | received (e : WatchEvent ο)
  | exited
deriving Repr, DecidableEq

/-- Where `eventDispatcher` is. -/
inductive DispatchPhase (ο : Type) where
  | selecting
  /-- Inside `SubmitWithContext(ctx, task)` for event `e`, as pool submitter `slot`. -/
  | submitting (slot : Nat) (e : WatchEvent ο)
  | exited
  /-- `SubmitWithContext` sent on the closed `taskQueue` and panicked. -/
  | panicked
deriving Repr, DecidableEq

/-- Where the `processEvent` call of one worker is. -/
inductive ProcessEventPhase (ο ρ : Type) where
  | idle
  /-- In `for _, alert := range alerts`, with the alerts not yet passed to `ProcessAlert`. -/
  | processing (e : WatchEvent ο) (pending : List (BuiltAlert ρ))
deriving Repr, DecidableEq

/-- One evaluation by a worker: `alerts := evaluate(e.obj)` at time `now`. -/
structure Evaluation (ο ρ : Type) where
  event : WatchEvent ο
  now : Int
  alerts : List (BuiltAlert ρ)
deriving Repr, DecidableEq

/-- One `AlertRepo.Create` call, for an alert built for event `event`, and whether it
succeeded. -/
structure CreateCall (ρ : Type) where
  event : Nat
  alert : BuiltAlert ρ
  ok : Bool
deriving Repr, DecidableEq

structure Watcher (ο ρ : Type) where
  /-- What the watch stream has not delivered yet. -/
  stream : List ο
  /-- How many events the stream delivered; the next one gets this index. -/
  delivered : Nat
  watch : WatchPhase ο
  eventChan : Chan (WatchEvent ο)
  stopChClosed : Bool
  dispatcher : DispatchPhase ο
  /-- The dispatcher's `SubmitWithContext` calls so far; the next one is pool submitter
  `submits`. -/
  submits : Nat
  /-- The worker pool; its context is the one given to the watcher. -/
  pool : WorkerPool (WatchEvent ο)
  procs : Nat → ProcessEventPhase ο ρ
  /-- The id the next `uuid.New()` gives. -/
  nextId : Nat
  /-- Each event the watcher handled, and whether `eventChan` took it. -/
  watchLog : List (Nat × Bool)
  /-- Each event the dispatcher submitted, and what `SubmitWithContext` returned (`none`: it
  panicked). -/
  submitLog : List (Nat × Option SubmitResult)
  evaluated : List (Evaluation ο ρ)
  creates : List (CreateCall ρ)

/-- The pool actions of goroutines other than the watcher's: `Stop` and `StopWithTimeout`
calls, workers leaving on `stopChan` or `ctx.Done()`, and the cancellation of the context. -/
def PoolAction.external {τ : Type} : PoolAction τ → Bool
  | .stop _ | .stopWithTimeout _ _ | .stopStep _ | .timeoutStep _ _ | .worker _ .stopChan
  | .worker _ .ctxDone | .cancel => true
  | _ => false

/-- One atomic action of one goroutine of the pipeline, or of its environment. -/
inductive WatcherAction (ο : Type) where
  /-- The watch stream delivers its next event to `watchPods`. -/
  | watchRecv
  | watchSend
  /-- `watchPods` takes `<-stopCh` or `<-ctx.Done()` and returns. -/
  | watchExit
  /-- `case event := <-eventChan`, and the call of `SubmitWithContext`. -/
  | dispatchRecv
  /-- One step of the dispatcher's `SubmitWithContext`. -/
  | dispatchSubmit
  | dispatchExit
  /-- Worker `w` takes `taskQueue`; a task starts `processEvent`, evaluated at time `now`. -/
  | take (w : Nat) (now : Int)
  /-- `ProcessAlert` of the next alert of worker `w`, whose `Create` succeeds or not. -/
  | processAlert (w : Nat) (ok : Bool)
  | taskReturns (w : Nat)
  /-- `Stop`: `close(stopCh)`. -/
  | stop
  | pool (a : PoolAction (WatchEvent ο))

/-- `evaluate` builds its alerts with `NewAlert`, each with the next id. -/
def buildAlerts {ρ : Type} : Nat → List ρ → List (BuiltAlert ρ)
  | _, [] => []
  | id, rule :: rest => ⟨id, rule⟩ :: buildAlerts (id + 1) rest

namespace Watcher

variable {ο ρ : Type}

/-- `Start` of a watcher whose `eventChan` holds `eventChanSize` events, on the started pool
`pool`, with the watch stream to deliver `original`. -/
def started (eventChanSize : Nat) (original : List ο) (pool : WorkerPool (WatchEvent ο)) :
    Watcher ο ρ where
  stream := original
  delivered := 0
  watch := .selecting
  eventChan := Chan.make eventChanSize
  stopChClosed := false
  dispatcher := .selecting
  submits := 0
  pool := pool
  procs := fun _ => .idle
  nextId := 0
  watchLog := []
  submitLog := []
  evaluated := []
  creates := []

/-- `NewPodWatcher` and `Start`: `eventChan` holds 500 events. -/
def newPodWatcher (original : List ο) (pool : WorkerPool (WatchEvent ο)) : Watcher ο ρ :=
  started 500 original pool

/-- `NewNodeWatcher` and `Start`: `eventChan` holds 300 events. -/
def newNodeWatcher (original : List ο) (pool : WorkerPool (WatchEvent ο)) : Watcher ο ρ :=
  started 300 original pool

def watchRecvStep (p : Watcher ο ρ) : Option (Watcher ο ρ) :=
  match p.watch, p.stream with
  | .selecting, obj :: rest =>
      some { p with
        watch := .received ⟨p.delivered, obj⟩, stream := rest, delivered := p.delivered + 1 }
  | _, _ => none

/-- A full `eventChan` drops the event; `eventChan` is never closed. -/
def watchSendStep (p : Watcher ο ρ) : Option (Watcher ο ρ) :=
  match p.watch with
  | .received e =>
      match p.eventChan.trySend e with
      | .sent q =>
          some { p with
            watch := .selecting, eventChan := q, watchLog := p.watchLog ++ [(e.index, true)] }
      | .full => some { p with watch := .selecting, watchLog := p.watchLog ++ [(e.index, false)] }
      | .panics => none
  | _ => none

def watchExitStep (p : Watcher ο ρ) : Option (Watcher ο ρ) :=
  match p.watch with
  | .selecting =>
      if p.stopChClosed || p.pool.ctxDone then some { p with watch := .exited } else none
  | _ => none

def dispatchRecvStep (p : Watcher ο ρ) : Option (Watcher ο ρ) :=
  match p.dispatcher, p.eventChan.recv? with
  | .selecting, some (some e, q) =>
      (p.pool.submitCall p.submits e true).map fun pool =>
        { p with
          eventChan := q, pool, dispatcher := .submitting p.submits e, submits := p.submits + 1 }
  | _, _ => none

/-- `SubmitWithContext` runs with the watcher's context; once it returns, the dispatcher only
logs its error and is back at its `select`. -/
def dispatchSubmitStep (p : Watcher ο ρ) : Option (Watcher ο ρ) :=
  match p.dispatcher with
  | .submitting k e =>
      (p.pool.submitStep k p.pool.ctxDone).map fun pool =>
        match pool.submitters k with
        | .returned r =>
            { p with
              pool, dispatcher := .selecting, submitLog := p.submitLog ++ [(e.index, some r)] }
        | .panicked =>
            { p with pool, dispatcher := .panicked, submitLog := p.submitLog ++ [(e.index, none)] }
        | _ => { p with pool }
  | _ => none

def dispatchExitStep (p : Watcher ο ρ) : Option (Watcher ο ρ) :=
  match p.dispatcher with
  | .selecting =>
      if p.stopChClosed || p.pool.ctxDone then some { p with dispatcher := .exited } else none
  | _ => none

/-- Worker `w`'s `case task, ok := <-taskQueue`: a task starts `processEvent`, whose
evaluation runs at time `now`; a closed and drained queue ends the worker. -/
def takeStep (evaluate : ο → Int → List ρ) (p : Watcher ο ρ) (w : Nat) (now : Int) :
    Option (Watcher ο ρ) :=
  (p.pool.workerStep w .taskQueue).map fun pool =>
    match pool.workers w with
    | .running e =>
        { p with
          pool
          procs := Function.update p.procs w
            (.processing e (buildAlerts p.nextId (evaluate e.obj now)))
          nextId := p.nextId + (evaluate e.obj now).length
          evaluated := p.evaluated ++ [⟨e, now, buildAlerts p.nextId (evaluate e.obj now)⟩] }
    | _ => { p with pool }

def processAlertStep (p : Watcher ο ρ) (w : Nat) (ok : Bool) : Option (Watcher ο ρ) :=
  match p.procs w with
  | .processing e (alert :: rest) =>
      some { p with
        procs := Function.update p.procs w (.processing e rest)
        creates := p.creates ++ [⟨e.index, alert, ok⟩] }
  | _ => none

/-- `processEvent` returns `nil` after its loop, and the worker is back at its `select`. -/
def taskReturnsStep (p : Watcher ο ρ) (w : Nat) : Option (Watcher ο ρ) :=
  match p.procs w with
  | .processing _ [] =>
      (p.pool.workerStep w .taskReturns).map fun pool =>
        { p with pool, procs := Function.update p.procs w .idle }
  | _ => none

/-- `Stop`'s `close(stopCh)`.  The program calls `Stop` once; a second call would panic. -/
def stopCall (p : Watcher ο ρ) : Option (Watcher ο ρ) :=
  if p.stopChClosed then none else some { p with stopChClosed := true }

def poolStep (p : Watcher ο ρ) (a : PoolAction (WatchEvent ο)) : Option (Watcher ο ρ) :=
  if a.external then (p.pool.step a).map fun pool => { p with pool } else none

def step (evaluate : ο → Int → List ρ) (p : Watcher ο ρ) : WatcherAction ο → Option (Watcher ο ρ)
  | .watchRecv => p.watchRecvStep
  | .watchSend => p.watchSendStep
  | .watchExit => p.watchExitStep
  | .dispatchRecv => p.dispatchRecvStep
  | .dispatchSubmit => p.dispatchSubmitStep
  | .dispatchExit => p.dispatchExitStep
  | .take w now => p.takeStep evaluate w now
  | .processAlert w ok => p.processAlertStep w ok
  | .taskReturns w => p.taskReturnsStep w
  | .stop => p.stopCall
  | .pool a => p.poolStep a

/-! ### What each action can do -/

theorem watchRecvStep_eq {p p' : Watcher ο ρ} (hs : p.watchRecvStep = some p') :
    ∃ obj rest, p.watch = .selecting ∧ p.stream = obj :: rest ∧
      p' = { p with
        watch := .received ⟨p.delivered, obj⟩, stream := rest, delivered := p.delivered + 1 } := by
  unfold watchRecvStep at hs; split at hs <;> cases hs; exact ⟨_, _, ‹_›, ‹_›, rfl⟩

theorem watchSendStep_cases {p p' : Watcher ο ρ} (hs : p.watchSendStep = some p') :
    ∃ e, p.watch = .received e ∧
      ((p.eventChan.buffer.length < p.eventChan.capacity ∧
        p' = { p with
          watch := .selecting, eventChan := { p.eventChan with buffer := p.eventChan.buffer ++ [e] }
          watchLog := p.watchLog ++ [(e.index, true)] }) ∨
      p' = { p with watch := .selecting, watchLog := p.watchLog ++ [(e.index, false)] }) := by
  unfold watchSendStep at hs
  split at hs
  · rename_i e he
    split at hs
    · obtain ⟨-, hlt, rfl⟩ := Chan.trySend_eq_sent ‹_›
      cases hs; exact ⟨e, he, .inl ⟨hlt, rfl⟩⟩
    · cases hs; exact ⟨e, he, .inr rfl⟩
    · cases hs
  · cases hs

theorem watchExitStep_eq {p p' : Watcher ο ρ} (hs : p.watchExitStep = some p') :
    p.watch = .selecting ∧ (p.stopChClosed || p.pool.ctxDone) = true ∧
      p' = { p with watch := .exited } := by
  unfold watchExitStep at hs
  split at hs
  · split at hs <;> cases hs; exact ⟨‹_›, ‹_›, rfl⟩
  · cases hs

theorem dispatchRecvStep_eq {p p' : Watcher ο ρ} (hs : p.dispatchRecvStep = some p') :
    ∃ e q pool, p.dispatcher = .selecting ∧ p.eventChan.recv? = some (some e, q) ∧
      p.pool.submitCall p.submits e true = some pool ∧
      p' = { p with
        eventChan := q, pool, dispatcher := .submitting p.submits e,
        submits := p.submits + 1 } := by
  unfold dispatchRecvStep at hs
  split at hs
  · obtain ⟨pool, hpool, rfl⟩ := Option.map_eq_some'.1 hs
    exact ⟨_, _, pool, ‹_›, ‹_›, hpool, rfl⟩
  · cases hs

theorem dispatchSubmitStep_cases {p p' : Watcher ο ρ} (hs : p.dispatchSubmitStep = some p') :
    ∃ k e pool, p.dispatcher = .submitting k e ∧ p.pool.submitStep k p.pool.ctxDone = some pool ∧
      ((∃ r, pool.submitters k = .returned r ∧ p' = { p with
          pool, dispatcher := .selecting, submitLog := p.submitLog ++ [(e.index, some r)] }) ∨
      (pool.submitters k = .panicked ∧ p' = { p with
          pool, dispatcher := .panicked, submitLog := p.submitLog ++ [(e.index, none)] }) ∨
      ((∀ r, pool.submitters k ≠ .returned r) ∧ pool.submitters k ≠ .panicked ∧
        p' = { p with pool })) := by
  unfold dispatchSubmitStep at hs
  split at hs
  · obtain ⟨pool, hpool, rfl⟩ := Option.map_eq_some'.1 hs
    refine ⟨_, _, pool, ‹_›, hpool, ?_⟩
    split
    · exact .inl ⟨_, ‹_›, rfl⟩
    · exact .inr (.inl ⟨‹_›, rfl⟩)
    · exact .inr (.inr ⟨by assumption, by assumption, rfl⟩)
  · cases hs

theorem dispatchExitStep_eq {p p' : Watcher ο ρ} (hs : p.dispatchExitStep = some p') :
    p.dispatcher = .selecting ∧ (p.stopChClosed || p.pool.ctxDone) = true ∧
      p' = { p with dispatcher := .exited } := by
  unfold dispatchExitStep at hs
  split at hs
  · split at hs <;> cases hs; exact ⟨‹_›, ‹_›, rfl⟩
  · cases hs

theorem takeStep_cases {evaluate : ο → Int → List ρ} {p p' : Watcher ο ρ} {w : Nat} {now : Int}
    (hs : p.takeStep evaluate w now = some p') :
    ∃ pool, p.pool.workerStep w .taskQueue = some pool ∧
      ((∃ e, pool.workers w = .running e ∧ p' = { p with
          pool
          procs := Function.update p.procs w
            (.processing e (buildAlerts p.nextId (evaluate e.obj now)))
          nextId := p.nextId + (evaluate e.obj now).length
          evaluated := p.evaluated ++ [⟨e, now, buildAlerts p.nextId (evaluate e.obj now)⟩] }) ∨
      ((∀ e, pool.workers w ≠ .running e) ∧ p' = { p with pool })) := by
  unfold takeStep at hs
  obtain ⟨pool, hpool, rfl⟩ := Option.map_eq_some'.1 hs
  refine ⟨pool, hpool, ?_⟩
  split
  · exact .inl ⟨_, ‹_›, rfl⟩
  · exact .inr ⟨by assumption, rfl⟩

theorem processAlertStep_eq {p p' : Watcher ο ρ} {w : Nat} {ok : Bool}
    (hs : p.processAlertStep w ok = some p') :
    ∃ e alert rest, p.procs w = .processing e (alert :: rest) ∧ p' = { p with
      procs := Function.update p.procs w (.processing e rest)
      creates := p.creates ++ [⟨e.index, alert, ok⟩] } := by
  unfold processAlertStep at hs; split at hs <;> cases hs; exact ⟨_, _, _, ‹_›, rfl⟩

theorem taskReturnsStep_eq {p p' : Watcher ο ρ} {w : Nat} (hs : p.taskReturnsStep w = some p') :
    ∃ e pool, p.procs w = .processing e [] ∧ p.pool.workerStep w .taskReturns = some pool ∧
      p' = { p with pool, procs := Function.update p.procs w .idle } := by
  unfold taskReturnsStep at hs
  split at hs
  · obtain ⟨pool, hpool, rfl⟩ := Option.map_eq_some'.1 hs
    exact ⟨_, pool, ‹_›, hpool, rfl⟩
  · cases hs

theorem stopCall_eq {p p' : Watcher ο ρ} (hs : p.stopCall = some p') :
    p.stopChClosed = false ∧ p' = { p with stopChClosed := true } := by
  unfold stopCall at hs; split at hs <;> cases hs; exact ⟨eq_false_of_ne_true ‹_›, rfl⟩

theorem poolStep_eq {p p' : Watcher ο ρ} {a : PoolAction (WatchEvent ο)}
    (hs : p.poolStep a = some p') :
    ∃ pool, a.external = true ∧ p.pool.step a = some pool ∧ p' = { p with pool } := by
  unfold poolStep at hs
  split at hs
  · obtain ⟨pool, hpool, rfl⟩ := Option.map_eq_some'.1 hs
    exact ⟨pool, ‹_›, hpool, rfl⟩
  · cases hs

/-- The states of a watcher started on `NewWorkerPool(workerCount, queueSize)`, with the watch
stream to deliver `original`. -/
inductive Reachable (evaluate : ο → Int → List ρ) (eventChanSize : Nat) (original : List ο)
    (workerCount queueSize : Int) : Watcher ο ρ → Prop where
  | init : Reachable evaluate eventChanSize original workerCount queueSize
      (started eventChanSize original (newWorkerPool workerCount queueSize).start)
  | step {p p' : Watcher ο ρ} (a : WatcherAction ο) :
      Reachable evaluate eventChanSize original workerCount queueSize p →
      p.step evaluate a = some p' →
      Reachable evaluate eventChanSize original workerCount queueSize p'

/-- Replay a schedule; `none` as soon as an action is not enabled. -/
def run (evaluate : ο → Int → List ρ) (p : Watcher ο ρ) :
    List (WatcherAction ο) → Option (Watcher ο ρ)
  | [] => some p
  | a :: rest => (p.step evaluate a).bind (run evaluate · rest)

theorem Reachable.run {evaluate : ο → Int → List ρ} {eventChanSize : Nat} {original : List ο}
    {workerCount queueSize : Int} {p p' : Watcher ο ρ} :
    ∀ {schedule : List (WatcherAction ο)},
      Reachable evaluate eventChanSize original workerCount queueSize p →
      p.run evaluate schedule = some p' →
      Reachable evaluate eventChanSize original workerCount queueSize p'
  | [], hr, hrun => by cases hrun; exact hr
  | a :: rest, hr, hrun => by
    simp only [Watcher.run, Option.bind_eq_some] at hrun
    obtain ⟨mid, hstep, hrest⟩ := hrun
    exact Reachable.run (hr.step a hstep) hrest

end Watcher

end AlertPipeline
