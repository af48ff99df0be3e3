import AlertPipeline.WorkerPool

/-
The invariant of the worker pool over every interleaving of `Submit`, `SubmitWithContext`,
worker steps, `Stop` and `StopWithTimeout` calls: the queue is a bounded FIFO whose
dequeued prefix and buffer make up exactly the accepted tasks, and the one `Stop` call that
sets `stopped` is the only one that closes `stopChan` and `taskQueue`, after every worker
has left.
-/

namespace AlertPipeline

/-- Phases of a `Stop` call that say nothing about the pool's channels. -/
def StopPhase.quiet : StopPhase → Bool
  | .idle | .lock | .returnedEarly => true
  | _ => false

namespace WorkerPool

variable {τ : Type}

/-- What holds in every pool that a started `NewWorkerPool` reaches.  A `Stop` call that
`won` is the one that set `stopped`; it alone closes `stopChan` and then `taskQueue`. -/
structure Inv (wp : WorkerPool τ) : Prop where
  buffer_le : wp.taskQueue.buffer.length ≤ wp.taskQueue.capacity
  fifo : wp.dequeued ++ wp.taskQueue.buffer = wp.accepted
  unstarted : ∀ w, wp.workerCount ≤ w → wp.workers w = .notStarted
  won_unique : ∀ i j, (wp.stoppers i).won → (wp.stoppers j).won → i = j
  stopped_iff : wp.stopped = true ↔ ∃ i, (wp.stoppers i).won
  stopChan_stopped : wp.stopChanClosed = true → wp.stopped = true
  closed_stopped : wp.taskQueue.closed = true → wp.stopped = true
  stopChan_won : ∀ i, (wp.stoppers i).won →
    (wp.stopChanClosed = true ↔ wp.stoppers i ≠ .closeStopChan)
  closed_won : ∀ i, (wp.stoppers i).won → (wp.taskQueue.closed = true ↔ wp.stoppers i = .returned)
  drained : ∀ i, (wp.stoppers i = .closeTaskQueue ∨ wp.stoppers i = .returned) →
    ∀ w, (wp.workers w).holdsWaitGroup = false
  no_panic : ∀ i, wp.stoppers i ≠ .panicked

theorem inv_start (workerCount queueSize : Int) :
    Inv (newWorkerPool workerCount queueSize : WorkerPool τ).start where
  buffer_le := by simp [newWorkerPool, start]
  fifo := rfl
  unstarted w hw := by simp only [start, newWorkerPool] at hw ⊢; simp [Nat.not_lt.mpr hw]
  won_unique i j hi := by simp [start, newWorkerPool, StopPhase.won] at hi
  stopped_iff := by simp [start, newWorkerPool, StopPhase.won]
  stopChan_stopped := by simp [start, newWorkerPool]
  closed_stopped := by simp [start, newWorkerPool]
  stopChan_won i hi := by simp [start, newWorkerPool, StopPhase.won] at hi
  closed_won i hi := by simp [start, newWorkerPool, StopPhase.won] at hi
  drained i hi := by simp [start, newWorkerPool] at hi
  no_panic i := by simp [start, newWorkerPool]

theorem Inv.setSubmitter {wp : WorkerPool τ} (h : Inv wp) (i : Nat) (p : SubmitPhase τ) :
    Inv (wp.setSubmitter i p) :=
  { h with }

theorem Inv.setTimeout {wp : WorkerPool τ} (h : Inv wp) (i : Nat) (p : TimeoutPhase) :
    Inv (wp.setTimeout i p) :=
  { h with }

theorem update_quiet_won {f : Nat → StopPhase} {i : Nat} {p : StopPhase}
    (hi : (f i).quiet) (hp : p.quiet) (j : Nat) : (Function.update f i p j).won = (f j).won := by
  by_cases hj : j = i
  · subst hj
    rw [Function.update_same]
    cases p <;> cases hf : f j <;> simp_all [StopPhase.quiet, StopPhase.won]
  · rw [Function.update_noteq hj]

theorem update_quiet_eq {f : Nat → StopPhase} {i : Nat} {p q : StopPhase}
    (hi : (f i).quiet) (hp : p.quiet) (hq : q.quiet = false) (j : Nat) :
    Function.update f i p j = q ↔ f j = q := by
  by_cases hj : j = i
  · subst hj
    rw [Function.update_same]
    constructor <;> rintro rfl <;> simp_all
  · rw [Function.update_noteq hj]

/-- Moving a `Stop` call between quiet phases touches none of the stopper fields. -/
theorem Inv.setStopper_quiet {wp : WorkerPool τ} (h : Inv wp) {i : Nat} {p : StopPhase}
    (hi : (wp.stoppers i).quiet) (hp : p.quiet) : Inv (wp.setStopper i p) := by
  have hw := update_quiet_won hi hp
  have he := fun q (hq : StopPhase.quiet q = false) => update_quiet_eq hi hp hq
  refine { h with
    won_unique := ?_, stopped_iff := ?_, stopChan_won := ?_, closed_won := ?_, drained := ?_,
    no_panic := ?_ } <;>
    simp only [setStopper_stoppers, setStopper_stopped, setStopper_stopChanClosed,
      setStopper_taskQueue, setStopper_workers, ne_eq, hw, he .closeStopChan rfl, he .returned rfl,
      he .closeTaskQueue rfl, he .panicked rfl]
  exacts [h.won_unique, h.stopped_iff, h.stopChan_won, h.closed_won, h.drained, h.no_panic]

theorem won_update {f : Nat → StopPhase} {i j : Nat} {p : StopPhase} :
    (Function.update f i p j).won = if j = i then p.won else (f j).won := by
  rw [Function.update_apply]; split <;> rfl

/-- `Stop` call `i` moves to a phase of a call that won, while no other call has won: the
stopper fields hold when the channels' flags follow that phase. -/
theorem Inv.won_step {wp : WorkerPool τ} (h : Inv wp) {i : Nat}
    (others : ∀ j, j ≠ i → (wp.stoppers j).won = false) {p : StopPhase} (hp : p.won)
    {s c d : Bool} (hs : s = true) (hc : c = true ↔ p ≠ .closeStopChan)
    (hd : d = true ↔ p = .returned)
    (hdrain : p = .closeTaskQueue ∨ p = .returned → ∀ w, (wp.workers w).holdsWaitGroup = false) :
    Inv { wp.setStopper i p with
      stopped := s, stopChanClosed := c, taskQueue := { wp.taskQueue with closed := d } } := by
  refine { h with
    won_unique := ?_, stopped_iff := ?_, stopChan_stopped := fun _ => hs,
    closed_stopped := fun _ => hs, stopChan_won := ?_, closed_won := ?_, drained := ?_,
    no_panic := ?_ } <;>
    simp only [setStopper_stoppers, setStopper_workers]
  · intro a b ha hb
    rw [won_update] at ha hb
    split_ifs at ha hb <;> simp_all
  · exact iff_of_true hs ⟨i, by simp [hp]⟩
  · intro j hj
    rw [won_update] at hj
    split_ifs at hj with hji
    · subst hji; simpa using hc
    · simp [others j hji] at hj
  · intro j hj
    rw [won_update] at hj
    split_ifs at hj with hji
    · subst hji; simpa using hd
    · simp [others j hji] at hj
  · intro j hj
    by_cases hji : j = i
    · subst hji; simp only [Function.update_same] at hj; exact hdrain hj
    · simp only [Function.update_noteq hji] at hj; exact h.drained j hj
  · intro j
    by_cases hji : j = i
    · subst hji; simp only [Function.update_same]; rintro rfl; simp [StopPhase.won] at hp
    · simp only [Function.update_noteq hji]; exact h.no_panic j

/-- The `Stop` call that won moves along its own path, closing channels as it goes. -/
theorem Inv.winner_step {wp : WorkerPool τ} (h : Inv wp) {i : Nat} (hi : (wp.stoppers i).won)
    {p : StopPhase} (hp : p.won) {c d : Bool} (hc : c = true ↔ p ≠ .closeStopChan)
    (hd : d = true ↔ p = .returned)
    (hdrain : p = .closeTaskQueue ∨ p = .returned → ∀ w, (wp.workers w).holdsWaitGroup = false) :
    Inv { wp.setStopper i p with
      stopChanClosed := c, taskQueue := { wp.taskQueue with closed := d } } :=
  h.won_step (fun j hj => Bool.eq_false_iff.mpr fun hw => hj (h.won_unique j i hw hi)) hp
    (h.stopped_iff.mpr ⟨i, hi⟩) hc hd hdrain

/-- The `Stop` call that finds `stopped` unset wins. -/
theorem Inv.lock_wins {wp : WorkerPool τ} (h : Inv wp) {i : Nat} (hst : wp.stopped = false) :
    Inv { wp.setStopper i .closeStopChan with stopped := true } := by
  have hsc : wp.stopChanClosed = false :=
    Bool.eq_false_iff.mpr fun hc => by simp [h.stopChan_stopped hc] at hst
  have hcl : wp.taskQueue.closed = false :=
    Bool.eq_false_iff.mpr fun hc => by simp [h.closed_stopped hc] at hst
  exact h.won_step (i := i) (p := .closeStopChan) (c := wp.stopChanClosed)
    (d := wp.taskQueue.closed)
    (fun j _ => Bool.eq_false_iff.mpr fun hw => by simp [h.stopped_iff.mpr ⟨j, hw⟩] at hst)
    rfl rfl (by simp [hsc]) (by simp [hcl]) (by simp)

theorem Inv.stopStep {wp wp' : WorkerPool τ} (h : Inv wp) {i : Nat}
    (hs : wp.stopStep i = some wp') : Inv wp' := by
  rcases stopStep_cases hs with ⟨hi, -, rfl⟩ | ⟨hi, hst, rfl⟩ | ⟨hi, hc, -⟩ | ⟨hi, hc, rfl⟩ |
    ⟨hi, hd, rfl⟩ | ⟨hi, hc, -⟩ | ⟨hi, hc, rfl⟩
  · exact h.setStopper_quiet (by simp [hi, StopPhase.quiet]) rfl
  · exact h.lock_wins hst
  · have := (h.stopChan_won i (by simp [hi, StopPhase.won])).mp hc
    exact absurd hi this
  · have hcl : wp.taskQueue.closed = false := by
      simpa [hi] using h.closed_won i (by simp [hi, StopPhase.won])
    exact h.winner_step (i := i) (p := .waitWorkers) (c := true) (d := wp.taskQueue.closed)
      (by simp [hi, StopPhase.won]) rfl (by simp) (by simp [hcl]) (by simp)
  · have hsc : wp.stopChanClosed = true := by
      simpa [hi] using h.stopChan_won i (by simp [hi, StopPhase.won])
    have hcl : wp.taskQueue.closed = false := by
      simpa [hi] using h.closed_won i (by simp [hi, StopPhase.won])
    have hdone : ∀ w, (wp.workers w).holdsWaitGroup = false := by
      intro w
      by_cases hw : w < wp.workerCount
      · simpa using List.all_eq_true.mp hd w (List.mem_range.mpr hw)
      · simp [h.unstarted w (Nat.not_lt.mp hw), WorkerPhase.holdsWaitGroup]
    exact h.winner_step (i := i) (p := .closeTaskQueue) (c := wp.stopChanClosed)
      (d := wp.taskQueue.closed) (by simp [hi, StopPhase.won]) rfl (by simp [hsc]) (by simp [hcl])
      (fun _ => hdone)
  · have := (h.closed_won i (by simp [hi, StopPhase.won])).mp hc
    rw [hi] at this; cases this
  · have hsc : wp.stopChanClosed = true := by
      simpa [hi] using h.stopChan_won i (by simp [hi, StopPhase.won])
    exact h.winner_step (i := i) (p := .returned) (c := wp.stopChanClosed) (d := true)
      (by simp [hi, StopPhase.won]) rfl (by simp [hsc]) (by simp)
      (fun _ => h.drained i (.inl hi))

theorem Inv.submitStep {wp wp' : WorkerPool τ} (h : Inv wp) {i : Nat} {ctxDone : Bool}
    (hs : wp.submitStep i ctxDone = some wp') : Inv wp' := by
  rcases submitStep_cases hs with ⟨_, -, rfl⟩ | ⟨_, -, rfl⟩ | ⟨task, -, -, hlt, rfl⟩ |
    ⟨_, -, -, -, rfl⟩ | ⟨_, -, -, rfl⟩
  -- every outcome but the send into `taskQueue` only moves the caller
  any_goals exact h.setSubmitter i _
  refine { h with buffer_le := ?_, fifo := ?_ }
  · simp only [List.length_append, List.length_singleton]; omega
  · simp only [setSubmitter_dequeued, ← h.fifo, List.append_assoc]

/-- A started worker can move freely: it is below `workerCount`, and no `Stop` call has
passed `wg.Wait()`. -/
theorem Inv.setWorker_started {wp : WorkerPool τ} (h : Inv wp) {w : Nat}
    (hw : (wp.workers w).holdsWaitGroup) (p : WorkerPhase τ) : Inv (wp.setWorker w p) := by
  refine { h with unstarted := ?_, drained := ?_ }
  · intro v hv
    have hvw : v ≠ w := by
      rintro rfl; simp [h.unstarted v hv, WorkerPhase.holdsWaitGroup] at hw
    simpa [Function.update_noteq hvw] using h.unstarted v hv
  · intro j hj
    exact absurd (h.drained j hj w) (by simp [hw])

theorem Inv.workerStep {wp wp' : WorkerPool τ} (h : Inv wp) {w : Nat} {c : WorkerCase}
    (hs : wp.workerStep w c = some wp') : Inv wp' := by
  rcases workerStep_cases hs with ⟨task, ⟨qb, qc, qcl⟩, hw, hb, hcap, hcl, rfl⟩ | ⟨hw, rfl⟩ |
    ⟨task, hw, rfl⟩
  · simp only at hcap hcl
    subst hcap hcl
    have h' := h.setWorker_started (w := w) (by simp [hw, WorkerPhase.holdsWaitGroup])
      (.running task)
    have hbuf := h.buffer_le
    refine ⟨?_, ?_, h'.3, h'.4, h'.5, h'.6, h'.7, h'.8, h'.9, h'.10, h'.11⟩
    · rw [hb] at hbuf; simp only [List.length_cons] at hbuf; simp only; omega
    · simp only [setWorker_accepted, List.append_assoc, List.singleton_append, ← hb, h.fifo]
  · exact h.setWorker_started (by simp [hw, WorkerPhase.holdsWaitGroup]) _
  · exact h.setWorker_started (by simp [hw, WorkerPhase.holdsWaitGroup]) _

theorem Inv.step {wp wp' : WorkerPool τ} (h : Inv wp) {a : PoolAction τ}
    (hs : wp.step a = some wp') : Inv wp' := by
  cases a with
  | submit i task withContext =>
    obtain ⟨-, rfl⟩ := submitCall_eq hs; exact h.setSubmitter i _
  | submitStep i ctxDone => exact h.submitStep hs
  | stop i =>
    obtain ⟨hi, rfl⟩ := stopCall_eq hs
    exact h.setStopper_quiet (by simp [hi, StopPhase.quiet]) rfl
  | stopWithTimeout i stopper =>
    obtain ⟨-, hi, rfl⟩ := stopWithTimeoutCall_eq hs
    exact (h.setTimeout i _).setStopper_quiet (by simp [hi, StopPhase.quiet]) rfl
  | stopStep i => exact h.stopStep hs
  | timeoutStep i timedOut =>
    obtain ⟨p, rfl⟩ := timeoutStep_eq hs; exact h.setTimeout i p
  | worker w c => exact h.workerStep hs
  | cancel => cases hs; exact { h with }

theorem Reachable.inv {workerCount queueSize : Int} {wp : WorkerPool τ}
    (h : Reachable workerCount queueSize wp) : Inv wp := by
  induction h with
  | init => exact inv_start workerCount queueSize
  | step a _ hs ih => exact ih.step hs

/-! ### Frame facts of one step -/

/-- No step changes the number of workers or the capacity of the queue. -/
theorem step_frame {wp wp' : WorkerPool τ} {a : PoolAction τ} (hs : wp.step a = some wp') :
    wp'.workerCount = wp.workerCount ∧ wp'.taskQueue.capacity = wp.taskQueue.capacity := by
  cases a with
  | submit => obtain ⟨-, rfl⟩ := submitCall_eq hs; exact ⟨rfl, rfl⟩
  | submitStep =>
    rcases submitStep_cases hs with ⟨_, -, rfl⟩ | ⟨_, -, rfl⟩ | ⟨_, -, -, -, rfl⟩ |
      ⟨_, -, -, -, rfl⟩ | ⟨_, -, -, rfl⟩ <;> exact ⟨rfl, rfl⟩
  | stop => obtain ⟨-, rfl⟩ := stopCall_eq hs; exact ⟨rfl, rfl⟩
  | stopWithTimeout => obtain ⟨-, -, rfl⟩ := stopWithTimeoutCall_eq hs; exact ⟨rfl, rfl⟩
  | stopStep =>
    rcases stopStep_cases hs with ⟨-, -, rfl⟩ | ⟨-, -, rfl⟩ | ⟨-, -, rfl⟩ | ⟨-, -, rfl⟩ |
      ⟨-, -, rfl⟩ | ⟨-, -, rfl⟩ | ⟨-, -, rfl⟩ <;> exact ⟨rfl, rfl⟩
  | timeoutStep => obtain ⟨p, rfl⟩ := timeoutStep_eq hs; exact ⟨rfl, rfl⟩
  | worker =>
    rcases workerStep_cases hs with ⟨_, _, -, -, hcap, -, rfl⟩ | ⟨-, rfl⟩ | ⟨_, -, rfl⟩
    exacts [⟨rfl, hcap⟩, ⟨rfl, rfl⟩, ⟨rfl, rfl⟩]
  | cancel => cases hs; exact ⟨rfl, rfl⟩

/-- A `Stop` call that has returned stays returned: every step that moves a `Stop` slot
needs that slot idle or inside `Stop`. -/
theorem step_keeps_returned {wp wp' : WorkerPool τ} {a : PoolAction τ} (hs : wp.step a = some wp')
    {i : Nat} (hi : wp.stoppers i = .returned) : wp'.stoppers i = .returned := by
  have hupdate : ∀ {j : Nat} {p : StopPhase}, wp.stoppers j ≠ .returned →
      Function.update wp.stoppers j p i = .returned := fun {j} _ hj => by
    rw [Function.update_noteq fun (h : i = j) => hj (h ▸ hi), hi]
  cases a with
  | submit => obtain ⟨-, rfl⟩ := submitCall_eq hs; exact hi
  | submitStep =>
    rcases submitStep_cases hs with ⟨_, -, rfl⟩ | ⟨_, -, rfl⟩ | ⟨_, -, -, -, rfl⟩ |
      ⟨_, -, -, -, rfl⟩ | ⟨_, -, -, rfl⟩ <;> exact hi
  | stop => obtain ⟨hj, rfl⟩ := stopCall_eq hs; exact hupdate (by simp [hj])
  | stopWithTimeout =>
    obtain ⟨-, hj, rfl⟩ := stopWithTimeoutCall_eq hs; exact hupdate (by simp [hj])
  | stopStep =>
    rcases stopStep_cases hs with ⟨hj, -, rfl⟩ | ⟨hj, -, rfl⟩ | ⟨hj, -, rfl⟩ | ⟨hj, -, rfl⟩ |
      ⟨hj, -, rfl⟩ | ⟨hj, -, rfl⟩ | ⟨hj, -, rfl⟩ <;> exact hupdate (by simp [hj])
  | timeoutStep => obtain ⟨p, rfl⟩ := timeoutStep_eq hs; exact hi
  | worker =>
    rcases workerStep_cases hs with ⟨_, _, -, -, -, -, rfl⟩ | ⟨-, rfl⟩ | ⟨_, -, rfl⟩ <;> exact hi
  | cancel => cases hs; exact hi

theorem Reachable.frame {workerCount queueSize : Int} {wp : WorkerPool τ}
    (h : Reachable workerCount queueSize wp) :
    wp.workerCount = (newWorkerPool workerCount queueSize : WorkerPool τ).workerCount ∧
      wp.taskQueue.capacity =
        (newWorkerPool workerCount queueSize : WorkerPool τ).taskQueue.capacity := by
  induction h with
  | init => exact ⟨rfl, rfl⟩
  | step a _ hs ih => obtain ⟨h1, h2⟩ := step_frame hs; exact ⟨h1.trans ih.1, h2.trans ih.2⟩

/-- Only the `Stop` call at `close(wp.stopChan)` closes `stopChan`, and only the one at
`close(wp.taskQueue)` closes `taskQueue`. -/
theorem step_closes {wp wp' : WorkerPool τ} {a : PoolAction τ} (hs : wp.step a = some wp') :
    (wp'.stopChanClosed = wp.stopChanClosed ∨
      ∃ i, a = .stopStep i ∧ wp.stoppers i = .closeStopChan) ∧
    (wp'.taskQueue.closed = wp.taskQueue.closed ∨
      ∃ i, a = .stopStep i ∧ wp.stoppers i = .closeTaskQueue) := by
  cases a with
  | submit => obtain ⟨-, rfl⟩ := submitCall_eq hs; exact ⟨.inl rfl, .inl rfl⟩
  | submitStep =>
    rcases submitStep_cases hs with ⟨_, -, rfl⟩ | ⟨_, -, rfl⟩ | ⟨_, -, -, -, rfl⟩ |
      ⟨_, -, -, -, rfl⟩ | ⟨_, -, -, rfl⟩ <;> exact ⟨.inl rfl, .inl rfl⟩
  | stop => obtain ⟨-, rfl⟩ := stopCall_eq hs; exact ⟨.inl rfl, .inl rfl⟩
  | stopWithTimeout =>
    obtain ⟨-, -, rfl⟩ := stopWithTimeoutCall_eq hs; exact ⟨.inl rfl, .inl rfl⟩
  | stopStep i =>
    rcases stopStep_cases hs with ⟨-, -, rfl⟩ | ⟨-, -, rfl⟩ | ⟨-, -, rfl⟩ | ⟨hi, -, rfl⟩ |
      ⟨-, -, rfl⟩ | ⟨-, -, rfl⟩ | ⟨hi, -, rfl⟩
    all_goals first
      | exact ⟨.inl rfl, .inl rfl⟩
      | exact ⟨.inr ⟨i, rfl, hi⟩, .inl rfl⟩
      | exact ⟨.inl rfl, .inr ⟨i, rfl, hi⟩⟩
  | timeoutStep => obtain ⟨p, rfl⟩ := timeoutStep_eq hs; exact ⟨.inl rfl, .inl rfl⟩
  | worker =>
    rcases workerStep_cases hs with ⟨_, _, -, -, -, hcl, rfl⟩ | ⟨-, rfl⟩ | ⟨_, -, rfl⟩
    exacts [⟨.inl rfl, .inl hcl⟩, ⟨.inl rfl, .inl rfl⟩, ⟨.inl rfl, .inl rfl⟩]
  | cancel => cases hs; exact ⟨.inl rfl, .inl rfl⟩

/-- `Submit` and `SubmitWithContext` never block: each pending call can always take its
next step. -/
theorem submitStep_isSome {wp : WorkerPool τ} {i : Nat} (ctxDone : Bool)
    (hp : (wp.submitters i).pending) : (wp.submitStep i ctxDone).isSome := by
  unfold submitStep
  split
  · rfl
  · rfl
  · split <;> rfl
  · simp_all [SubmitPhase.pending]

/-- The step of a `Submit` call that returns `nil` appends its task at the back of the
queue; every other step of the call leaves the queue and the accepted tasks alone. -/
theorem submitStep_effect {wp wp' : WorkerPool τ} {i : Nat} {ctxDone : Bool}
    (hs : wp.submitStep i ctxDone = some wp') :
    (wp'.submitters i = .returned .ok ∧ ∃ task, wp.submitters i = .send task ∧
      wp'.taskQueue.buffer = wp.taskQueue.buffer ++ [task] ∧
      wp'.accepted = wp.accepted ++ [task]) ∨
    (wp'.submitters i ≠ .returned .ok ∧ wp'.taskQueue = wp.taskQueue ∧
      wp'.accepted = wp.accepted) := by
  rcases submitStep_cases hs with ⟨_, -, rfl⟩ | ⟨_, -, rfl⟩ | ⟨task, hi, -, -, rfl⟩ |
    ⟨_, -, -, -, rfl⟩ | ⟨_, -, -, rfl⟩
  · right; split_ifs <;> simp
  · right; split_ifs <;> simp
  · exact .inl ⟨by simp, task, hi, rfl, rfl⟩
  all_goals right; simp

/-- `"task queue is full"` is returned only with `Q` tasks queued, `"worker pool is
stopped"` only once `stopped` is set. -/
theorem submitStep_errors {wp wp' : WorkerPool τ} (h : Inv wp) {i : Nat} {ctxDone : Bool}
    (hs : wp.submitStep i ctxDone = some wp') :
    (wp'.submitters i = .returned .queueFull →
      wp.taskQueue.buffer.length = wp.taskQueue.capacity) ∧
    (wp'.submitters i = .returned .stopped → wp.stopped = true) := by
  rcases submitStep_cases hs with ⟨_, -, rfl⟩ | ⟨_, -, rfl⟩ | ⟨_, -, -, -, rfl⟩ |
    ⟨_, -, -, hle, rfl⟩ | ⟨_, -, -, rfl⟩
  · constructor <;> split_ifs <;> simp
  · constructor <;> split_ifs <;> simp_all
  · simp
  · exact ⟨fun _ => le_antisymm h.buffer_le hle, by simp⟩
  · simp

/-- The backpressure and shutdown guarantees of the pool at a state `wp` of a started
`NewWorkerPool(workerCount, queueSize)`.  `Q` and `N` are the queue capacity and the worker
count after `NewWorkerPool`'s defaults. -/
structure Guarantees (workerCount queueSize : Int) (wp : WorkerPool τ) : Prop where
  submit_never_blocks : ∀ i ctxDone, (wp.submitters i).pending → (wp.submitStep i ctxDone).isSome
  at_most_Q_queued : wp.taskQueue.buffer.length ≤
    (newWorkerPool workerCount queueSize : WorkerPool τ).taskQueue.capacity
  at_most_N_running : ∀ w task, wp.workers w = .running task →
    w < (newWorkerPool workerCount queueSize : WorkerPool τ).workerCount
  submit_effect : ∀ i ctxDone wp', wp.submitStep i ctxDone = some wp' →
    (wp'.submitters i = .returned .ok ∧ ∃ task, wp.submitters i = .send task ∧
      wp'.taskQueue.buffer = wp.taskQueue.buffer ++ [task] ∧
      wp'.accepted = wp.accepted ++ [task]) ∨
    (wp'.submitters i ≠ .returned .ok ∧ wp'.taskQueue = wp.taskQueue ∧
      wp'.accepted = wp.accepted)
  full_only_when_Q_queued : ∀ i ctxDone wp', wp.submitStep i ctxDone = some wp' →
    wp'.submitters i = .returned .queueFull → wp.taskQueue.buffer.length =
      (newWorkerPool workerCount queueSize : WorkerPool τ).taskQueue.capacity
  stopped_only_after_stop : ∀ i ctxDone wp', wp.submitStep i ctxDone = some wp' →
    wp'.submitters i = .returned .stopped → wp.stopped = true
  dequeued_in_acceptance_order : wp.dequeued ++ wp.taskQueue.buffer = wp.accepted
  stop_never_panics : ∀ i, wp.stoppers i ≠ .panicked
  one_winner : ∀ i j, (wp.stoppers i).won → (wp.stoppers j).won → i = j
  stopped_iff_winner : wp.stopped = true ↔ ∃ i, (wp.stoppers i).won
  closed_by_winner : ∀ a wp', wp.step a = some wp' →
    (wp.stopChanClosed = false → wp'.stopChanClosed = true →
      ∃ i, a = .stopStep i ∧ (wp.stoppers i).won) ∧
    (wp.taskQueue.closed = false → wp'.taskQueue.closed = true →
      ∃ i, a = .stopStep i ∧ (wp.stoppers i).won)
  winner_closed_both : ∀ i, wp.stoppers i = .returned →
    wp.stopChanClosed = true ∧ wp.taskQueue.closed = true

theorem pool_guarantees {workerCount queueSize : Int} {wp : WorkerPool τ}
    (h : Reachable workerCount queueSize wp) : Guarantees workerCount queueSize wp := by
  have hi := h.inv
  obtain ⟨hN, hQ⟩ := h.frame
  refine ⟨fun i ctxDone hp => submitStep_isSome ctxDone hp, hQ ▸ hi.buffer_le, ?_,
    fun i ctxDone wp' hs => submitStep_effect hs,
    fun i ctxDone wp' hs hf => hQ ▸ (submitStep_errors hi hs).1 hf,
    fun i ctxDone wp' hs => (submitStep_errors hi hs).2, hi.fifo, hi.no_panic, hi.won_unique,
    hi.stopped_iff, ?_, ?_⟩
  · intro w task hw
    rw [← hN]
    refine Nat.lt_of_not_le fun hle => ?_
    simp [hi.unstarted w hle] at hw
  · intro a wp' hs
    obtain ⟨h1, h2⟩ := step_closes hs
    constructor
    · intro hc hc'
      rcases h1 with h1 | ⟨i, rfl, hsi⟩
      · simp [h1, hc] at hc'
      · exact ⟨i, rfl, by simp [hsi, StopPhase.won]⟩
    · intro hc hc'
      rcases h2 with h2 | ⟨i, rfl, hsi⟩
      · simp [h2, hc] at hc'
      · exact ⟨i, rfl, by simp [hsi, StopPhase.won]⟩
  · intro i hr
    have hw : (wp.stoppers i).won := by simp [hr, StopPhase.won]
    exact ⟨(hi.stopChan_won i hw).mpr (by simp [hr]), (hi.closed_won i hw).mpr hr⟩

/-- `NewWorkerPool(1, 1)`: the worker takes task `1` and task `2` fills the queue, so the
`Submit` of task `3` finds it full; two `Stop` calls race, the second finds `stopped` set,
the worker finishes task `1` and leaves by `stopChan`, and a last `Submit` is refused. -/
def fullQueueTwoStops : List (PoolAction Nat) :=
  [.submit 0 1 false, .submitStep 0 false, .submitStep 0 false, .worker 0 .taskQueue,
    .submit 1 2 false, .submitStep 1 false, .submitStep 1 false,
    .submit 2 3 false, .submitStep 2 false, .submitStep 2 false,
    .stop 0, .stop 1, .stopStep 0, .stopStep 1, .stopStep 0,
    .worker 0 .taskReturns, .worker 0 .stopChan, .stopStep 0, .stopStep 0,
    .submit 3 4 false, .submitStep 3 false]

theorem pool_guarantees_fullQueueTwoStops :
    ∃ wp : WorkerPool Nat, Reachable 1 1 wp ∧ wp.accepted = [1, 2] ∧ wp.dequeued = [1] ∧
      wp.submitters 2 = .returned .queueFull ∧ wp.submitters 3 = .returned .stopped ∧
      wp.stoppers 0 = .returned ∧ wp.stoppers 1 = .returnedEarly ∧ Guarantees 1 1 wp := by
  obtain ⟨wp, hr, hacc, hdeq, h2, h3, hs0, hs1⟩ := Reachable.of_run 1 1 fullQueueTwoStops
    (fun wp : WorkerPool Nat => wp.accepted = [1, 2] ∧ wp.dequeued = [1] ∧
      wp.submitters 2 = .returned .queueFull ∧ wp.submitters 3 = .returned .stopped ∧
      wp.stoppers 0 = .returned ∧ wp.stoppers 1 = .returnedEarly) (by decide)
  exact ⟨wp, hr, hacc, hdeq, h2, h3, hs0, hs1, pool_guarantees hr⟩

end WorkerPool

end AlertPipeline
