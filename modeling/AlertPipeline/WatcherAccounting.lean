import Mathlib.Data.List.Nodup
import AlertPipeline.WorkerPoolSafety
import AlertPipeline.Watcher

/-
Where every event and every alert of a watcher is.  `watchPods` handles the stream in order,
`eventChan` and `taskQueue` are FIFO, and the dispatcher submits one event at a time, so at
every step each delivered event sits at exactly one stage of the pipeline.  Each event a
worker took was evaluated once, on the object the stream delivered, and each alert built by
an evaluation has been passed to `Create` once or waits in the worker that built it.
-/

namespace AlertPipeline

/-- The task of a pending `Submit` call. -/
def SubmitPhase.task? {τ : Type} : SubmitPhase τ → Option τ
  | .checkContext t | .checkStopped t | .send t => some t
  | _ => none

/-- The task a worker runs. -/
def WorkerPhase.task? {τ : Type} : WorkerPhase τ → Option τ
  | .running t => some t
  | _ => none

/-- The event `watchPods` holds between its receive and its send. -/
def WatchPhase.held {ο : Type} : WatchPhase ο → List (WatchEvent ο)
  | .received e => [e]
  | _ => []

/-- The event inside the dispatcher's `SubmitWithContext`. -/
def DispatchPhase.held {ο : Type} : DispatchPhase ο → List (WatchEvent ο)
  | .submitting _ e => [e]
  | _ => []

/-- The event the dispatcher submits as pool submitter `k`. -/
def DispatchPhase.taskAt {ο : Type} : DispatchPhase ο → Nat → Option (WatchEvent ο)
  | .submitting slot e, k => if k = slot then some e else none
  | _, _ => none

def ProcessEventPhase.event? {ο ρ : Type} : ProcessEventPhase ο ρ → Option (WatchEvent ο)
  | .idle => none
  | .processing e _ => some e

def ProcessEventPhase.pending {ο ρ : Type} : ProcessEventPhase ο ρ → List (BuiltAlert ρ)
  | .idle => []
  | .processing _ pending => pending

theorem map_rule_buildAlerts {ρ : Type} :
    ∀ (id : Nat) (rules : List ρ), (buildAlerts id rules).map (·.rule) = rules
  | _, [] => rfl
  | id, rule :: rest => by simp [buildAlerts, map_rule_buildAlerts (id + 1) rest]

theorem map_id_buildAlerts {ρ : Type} :
    ∀ (id : Nat) (rules : List ρ), (buildAlerts id rules).map (·.id) = List.range' id rules.length
  | _, [] => rfl
  | id, rule :: rest => by simp [buildAlerts, map_id_buildAlerts (id + 1) rest, List.range'_succ]

/-- Replacing slot `w` of a family: the concatenation over `l` loses `f w` and gains `x`. -/
theorem flatMap_update_perm {α : Type} (f : Nat → List α) (x : List α) {w : Nat} :
    ∀ {l : List Nat}, l.Nodup → w ∈ l →
      (l.flatMap (Function.update f w x) ++ f w).Perm (l.flatMap f ++ x)
  | [], _, hw => absurd hw (List.not_mem_nil w)
  | v :: l, hl, hw => by
    rw [List.nodup_cons] at hl
    by_cases hv : v = w
    · subst hv
      have hrest : l.flatMap (Function.update f v x) = l.flatMap f :=
        List.flatMap_congr fun u hu => Function.update_noteq (by rintro rfl; exact hl.1 hu) _ _
      simp only [List.flatMap_cons, Function.update_same, hrest, List.append_assoc]
      exact List.perm_append_comm.trans ((List.perm_append_comm.append_right x).trans
        (by rw [List.append_assoc]))
    · have hw' : w ∈ l := (List.mem_cons.1 hw).resolve_left (Ne.symm hv)
      simp only [List.flatMap_cons, Function.update_noteq hv, List.append_assoc]
      exact (flatMap_update_perm f x hl.2 hw').append_left (f v)

namespace WorkerPool

variable {τ : Type}

theorem workerStep_taskQueue {wp wp' : WorkerPool τ} {w : Nat}
    (hs : wp.workerStep w .taskQueue = some wp') :
    wp.workers w = .selecting ∧
      ((∃ task q, wp.taskQueue.buffer = task :: q.buffer ∧
        wp' = { wp.setWorker w (.running task) with
          taskQueue := q, dequeued := wp.dequeued ++ [task] }) ∨
        wp' = wp.setWorker w .exited) := by
  simp only [workerStep] at hs
  split at hs
  · cases hs; exact ⟨‹_›, .inl ⟨_, _, (Chan.recv?_eq_some_some ‹_›).1, rfl⟩⟩
  · cases hs; exact ⟨‹_›, .inr rfl⟩
  · cases hs

theorem workerStep_taskReturns {wp wp' : WorkerPool τ} {w : Nat}
    (hs : wp.workerStep w .taskReturns = some wp') :
    ∃ task, wp.workers w = .running task ∧ wp' = wp.setWorker w .selecting := by
  simp only [workerStep] at hs
  split at hs
  · cases hs; exact ⟨_, ‹_›, rfl⟩
  · cases hs

/-- A worker leaving on `stopChan` or `ctx.Done()` was at its `select`. -/
theorem workerStep_leaves {wp wp' : WorkerPool τ} {w : Nat} {c : WorkerCase}
    (hc : c = .stopChan ∨ c = .ctxDone) (hs : wp.workerStep w c = some wp') :
    wp.workers w = .selecting ∧ wp' = wp.setWorker w .exited := by
  rcases hc with rfl | rfl <;> simp only [workerStep] at hs <;> split at hs <;>
    first | (split at hs <;> cases hs; exact ⟨‹_›, rfl⟩) | cases hs

/-- The actions of the pool's other goroutines leave the submitters, the queue, the logs and
the tasks of the workers alone. -/
theorem step_external_frame {wp wp' : WorkerPool τ} {a : PoolAction τ} (ha : a.external = true)
    (hs : wp.step a = some wp') :
    wp'.submitters = wp.submitters ∧ wp'.accepted = wp.accepted ∧ wp'.dequeued = wp.dequeued ∧
      wp'.taskQueue.buffer = wp.taskQueue.buffer ∧ wp'.workerCount = wp.workerCount ∧
      ∀ w, (wp'.workers w).task? = (wp.workers w).task? := by
  cases a with
  | stop => obtain ⟨-, rfl⟩ := stopCall_eq hs; exact ⟨rfl, rfl, rfl, rfl, rfl, fun _ => rfl⟩
  | stopWithTimeout =>
    obtain ⟨-, -, rfl⟩ := stopWithTimeoutCall_eq hs; exact ⟨rfl, rfl, rfl, rfl, rfl, fun _ => rfl⟩
  | stopStep =>
    rcases stopStep_cases hs with ⟨-, -, rfl⟩ | ⟨-, -, rfl⟩ | ⟨-, -, rfl⟩ | ⟨-, -, rfl⟩ |
      ⟨-, -, rfl⟩ | ⟨-, -, rfl⟩ | ⟨-, -, rfl⟩ <;> exact ⟨rfl, rfl, rfl, rfl, rfl, fun _ => rfl⟩
  | timeoutStep =>
    obtain ⟨_, rfl⟩ := timeoutStep_eq hs; exact ⟨rfl, rfl, rfl, rfl, rfl, fun _ => rfl⟩
  | worker w c =>
    have hc : c = .stopChan ∨ c = .ctxDone := by cases c <;> simp_all [PoolAction.external]
    obtain ⟨hw, rfl⟩ := workerStep_leaves hc hs
    refine ⟨rfl, rfl, rfl, rfl, rfl, fun v => ?_⟩
    by_cases hv : v = w
    · subst hv; simp [hw, WorkerPhase.task?]
    · simp [Function.update_noteq hv]
  | cancel => cases hs; exact ⟨rfl, rfl, rfl, rfl, rfl, fun _ => rfl⟩
  | submit => simp [PoolAction.external] at ha
  | submitStep => simp [PoolAction.external] at ha

/-- A step of a `Submit` call whose task is `e` keeps `e` pending or returns; it touches no
other submitter and no worker. -/
theorem submitStep_task? {wp wp' : WorkerPool τ} {k : Nat} {ctxDone : Bool} {e : τ}
    (hs : wp.submitStep k ctxDone = some wp') (he : (wp.submitters k).task? = some e) :
    ((wp'.submitters k).task? = some e ∨ (∃ r, wp'.submitters k = .returned r) ∨
      wp'.submitters k = .panicked) ∧
    (∀ j, j ≠ k → wp'.submitters j = wp.submitters j) ∧ wp'.workers = wp.workers ∧
    wp'.dequeued = wp.dequeued ∧ wp'.workerCount = wp.workerCount := by
  rcases submitStep_cases hs with ⟨t, ht, rfl⟩ | ⟨t, ht, rfl⟩ | ⟨t, ht, -, -, rfl⟩ |
    ⟨t, ht, -, -, rfl⟩ | ⟨t, ht, -, rfl⟩ <;>
    simp only [ht, SubmitPhase.task?, Option.some.injEq] at he <;> subst he <;>
    refine ⟨?_, fun j hj => by simp [Function.update_noteq hj], rfl, rfl, rfl⟩
  · split <;> simp [SubmitPhase.task?]
  · split <;> simp [SubmitPhase.task?]
  all_goals simp

end WorkerPool

namespace Watcher

variable {ο ρ : Type}

/-- The events the watcher dropped because `eventChan` was full. -/
def dropped (p : Watcher ο ρ) : List Nat := (p.watchLog.filter fun x => !x.2).map (·.1)

/-- The events the watcher put on `eventChan`. -/
def sent (p : Watcher ο ρ) : List Nat := (p.watchLog.filter (·.2)).map (·.1)

/-- The events `SubmitWithContext` did not queue: it returned an error, or panicked. -/
def rejected (p : Watcher ο ρ) : List (Nat × Option SubmitResult) :=
  p.submitLog.filter fun x => !(x.2 == some .ok)

/-- The events `SubmitWithContext` queued. -/
def submittedOk (p : Watcher ο ρ) : List Nat :=
  (p.submitLog.filter fun x => x.2 == some .ok).map (·.1)

/-- The events a worker took from `taskQueue`. -/
def taken (p : Watcher ο ρ) : List Nat := p.pool.dequeued.map (·.index)

/-- The alerts the workers have built and not yet passed to `ProcessAlert`. -/
def pending (p : Watcher ο ρ) : List (BuiltAlert ρ) :=
  (List.range p.pool.workerCount).flatMap fun w => (p.procs w).pending

/-- `e` carries the object the stream delivered at its position. -/
def Genuine (original : List ο) (e : WatchEvent ο) : Prop := original[e.index]? = some e.obj

/-- The pipeline invariant, for a watcher whose stream delivers `original`. -/
structure Inv (evaluate : ο → Int → List ρ) (original : List ο) (p : Watcher ο ρ) : Prop where
  pool : WorkerPool.Inv p.pool
  stream_eq : p.stream = original.drop p.delivered
  watched : p.watchLog.map (·.1) ++ p.watch.held.map (·.index) = List.range p.delivered
  channel : p.submitLog.map (·.1) ++ p.dispatcher.held.map (·.index) ++
    p.eventChan.buffer.map (·.index) = p.sent
  accepted_eq : p.pool.accepted.map (·.index) = p.submittedOk
  slots_fresh : ∀ k, p.submits ≤ k → p.pool.submitters k = .idle
  slot_task : ∀ k, (p.pool.submitters k).task? = p.dispatcher.taskAt k
  evaluated_eq : p.evaluated.map (·.event) = p.pool.dequeued
  procs_match : ∀ w, (p.procs w).event? = (p.pool.workers w).task?
  genuine : ∀ e ∈ p.watch.held ++ p.eventChan.buffer ++ p.dispatcher.held ++ p.pool.accepted,
    Genuine original e
  evaluated_rules : ∀ r ∈ p.evaluated, r.alerts.map (·.rule) = evaluate r.event.obj r.now
  procs_evaluated : ∀ w e pending, p.procs w = .processing e pending →
    ∃ r ∈ p.evaluated, r.event = e ∧ pending <:+ r.alerts
  creates_evaluated : ∀ c ∈ p.creates, ∃ r ∈ p.evaluated, r.event.index = c.event ∧ c.alert ∈ r.alerts
  alerts_perm : (p.creates.map (·.alert) ++ p.pending).Perm (p.evaluated.flatMap (·.alerts))
  ids_nodup : ((p.evaluated.flatMap (·.alerts)).map (·.id)).Nodup
  ids_lt : ∀ a ∈ p.evaluated.flatMap (·.alerts), a.id < p.nextId

section Preservation

variable {evaluate : ο → Int → List ρ} {original : List ο}

theorem inv_started (eventChanSize : Nat) (workerCount queueSize : Int) :
    Inv evaluate original
      (started eventChanSize original (newWorkerPool workerCount queueSize).start) where
  pool := WorkerPool.inv_start workerCount queueSize
  stream_eq := rfl
  watched := rfl
  channel := rfl
  accepted_eq := rfl
  slots_fresh _ _ := rfl
  slot_task _ := rfl
  evaluated_eq := rfl
  procs_match w := by
    simp only [started, WorkerPool.start, newWorkerPool, ProcessEventPhase.event?]
    split_ifs <;> rfl
  genuine := by simp [started, WatchPhase.held, DispatchPhase.held, WorkerPool.start, newWorkerPool]
  evaluated_rules := by simp [started]
  procs_evaluated := by simp [started]
  creates_evaluated := by simp [started]
  alerts_perm := by simp [started, pending, ProcessEventPhase.pending]
  ids_nodup := by simp [started]
  ids_lt := by simp [started]

/-- A worker with a task was started, so it is one of the pool's `workerCount` workers. -/
theorem Inv.lt_workerCount {p : Watcher ο ρ} (hi : Inv evaluate original p) (w : Nat)
    (hw : p.pool.workers w ≠ .notStarted) : w < p.pool.workerCount :=
  Nat.lt_of_not_le fun hle => hw (hi.pool.unstarted w hle)

theorem Inv.procs_idle {p : Watcher ο ρ} (hi : Inv evaluate original p) {w : Nat}
    (hw : p.pool.workers w = .selecting) : p.procs w = .idle := by
  have := hi.procs_match w
  rw [hw] at this
  cases h : p.procs w <;> simp_all [ProcessEventPhase.event?, WorkerPhase.task?]

theorem Inv.watchRecv {p p' : Watcher ο ρ} (hi : Inv evaluate original p)
    (hs : p.watchRecvStep = some p') : Inv evaluate original p' := by
  obtain ⟨obj, rest, hw, hst, rfl⟩ := watchRecvStep_eq hs
  have hdrop : original.drop p.delivered = obj :: rest := hi.stream_eq ▸ hst
  refine { hi with
    stream_eq := by rw [← List.tail_drop, hdrop]; rfl
    watched := by
      have := hi.watched
      simp only [hw, WatchPhase.held, List.map_nil, List.append_nil] at this
      simp [WatchPhase.held, this, List.range_succ]
    genuine := fun e he => ?_ }
  have hheld := hi.genuine
  simp only [hw, WatchPhase.held, List.nil_append, List.mem_append, List.mem_singleton] at he hheld
  rcases he with ((rfl | he) | he) | he
  · have h0 : (original.drop p.delivered)[0]? = some obj := by rw [hdrop]; simp
    simpa [Genuine, List.getElem?_drop] using h0
  all_goals exact hheld e (by simp [he])

theorem Inv.watchSend {p p' : Watcher ο ρ} (hi : Inv evaluate original p)
    (hs : p.watchSendStep = some p') : Inv evaluate original p' := by
  obtain ⟨e, hw, hcase⟩ := watchSendStep_cases hs
  have hc := hi.channel
  simp only [sent] at hc
  rcases hcase with ⟨-, rfl⟩ | rfl <;> refine { hi with
    watched := by simpa [hw, WatchPhase.held] using hi.watched
    channel := by simp [sent, List.filter_append, ← hc]
    genuine := fun e' he' => hi.genuine e' ?_ } <;>
    simp only [hw, WatchPhase.held, List.mem_append, List.mem_singleton, List.nil_append] at he' ⊢
  · rcases he' with ((h | h) | h) | h
    · exact .inl (.inl (.inr h))
    · exact .inl (.inl (.inl h))
    · exact .inl (.inr h)
    · exact .inr h
  · exact he'.imp_left (.imp_left .inr)

theorem Inv.dispatchRecv {p p' : Watcher ο ρ} (hi : Inv evaluate original p)
    (hs : p.dispatchRecvStep = some p') : Inv evaluate original p' := by
  obtain ⟨e, q, pool, hd, hq, hpool, rfl⟩ := dispatchRecvStep_eq hs
  obtain ⟨hidle, rfl⟩ := WorkerPool.submitCall_eq hpool
  have hb := (Chan.recv?_eq_some_some hq).1
  refine { hi with
    pool := hi.pool.setSubmitter _ _
    channel := by simpa [hd, hb, DispatchPhase.held] using hi.channel
    slots_fresh := fun k (hk : p.submits + 1 ≤ k) => by
      simp [Function.update_noteq (show k ≠ p.submits by omega), hi.slots_fresh k (by omega)]
    slot_task := fun k => ?_
    genuine := fun e' he' => hi.genuine e' ?_ }
  · by_cases hk : k = p.submits
    · subst hk; simp [SubmitPhase.task?, DispatchPhase.taskAt]
    · simpa [Function.update_noteq hk, DispatchPhase.taskAt, hk, hd] using hi.slot_task k
  · simp only [hd, hb, DispatchPhase.held, List.mem_append, List.mem_cons, List.mem_singleton,
      List.not_mem_nil, or_false, WorkerPool.setSubmitter_accepted] at he' ⊢
    rcases he' with ((h | h) | h) | h
    · exact .inl (.inl h)
    · exact .inl (.inr (.inr h))
    · exact .inl (.inr (.inl h))
    · exact .inr h

theorem Inv.dispatchSubmit {p p' : Watcher ο ρ} (hi : Inv evaluate original p)
    (hs : p.dispatchSubmitStep = some p') : Inv evaluate original p' := by
  obtain ⟨k, e, pool, hd, hpool, hcase⟩ := dispatchSubmitStep_cases hs
  have he : (p.pool.submitters k).task? = some e := by
    simp [hi.slot_task k, hd, DispatchPhase.taskAt]
  have hgen_e : Genuine original e := hi.genuine e (by simp [hd, DispatchPhase.held])
  obtain ⟨hk, hother, hworkers, hdeq, hcount⟩ := WorkerPool.submitStep_task? hpool he
  have hfresh : ∀ j, p.submits ≤ j → j ≠ k := fun j hj hjk => by
    simp [hjk ▸ hi.slots_fresh j hj, SubmitPhase.task?] at he
  -- the step queued `e` exactly when it returned `nil`
  have hacc : (pool.submitters k = .returned .ok ∧ pool.accepted = p.pool.accepted ++ [e]) ∨
      (pool.submitters k ≠ .returned .ok ∧ pool.accepted = p.pool.accepted) := by
    rcases WorkerPool.submitStep_effect hpool with ⟨hr, t, ht, -, hacc⟩ | ⟨hr, -, hacc⟩
    · simp only [ht, SubmitPhase.task?, Option.some.injEq] at he
      exact .inl ⟨hr, he ▸ hacc⟩
    · exact .inr ⟨hr, hacc⟩
  -- the dispatcher and its log after the step, whichever way `SubmitWithContext` went
  have hframe : ∀ (d : DispatchPhase ο) (log : List (Nat × Option SubmitResult)),
      (∀ x ∈ d.held, x = e) →
      log.map (·.1) ++ d.held.map (·.index) = p.submitLog.map (·.1) ++ [e.index] →
      (pool.submitters k).task? = d.taskAt k → (∀ j, j ≠ k → d.taskAt j = none) →
      (pool.submitters k = .returned .ok → log.filter (fun x => x.2 == some .ok) =
        p.submitLog.filter (fun x => x.2 == some .ok) ++ [(e.index, some .ok)]) →
      (pool.submitters k ≠ .returned .ok → log.filter (fun x => x.2 == some .ok) =
        p.submitLog.filter (fun x => x.2 == some .ok)) →
      Inv evaluate original { p with pool, dispatcher := d, submitLog := log } := by
    intro d log hheld hlog htk hnone hok hnot
    refine { hi with
      pool := hi.pool.submitStep hpool
      channel := by
        show log.map (·.1) ++ d.held.map (·.index) ++ p.eventChan.buffer.map (·.index) = p.sent
        rw [hlog, ← hi.channel, hd]
        simp [DispatchPhase.held]
      accepted_eq := by
        show _ = (log.filter _).map _
        rcases hacc with ⟨hr, hacc⟩ | ⟨hr, hacc⟩
        · simp [hok hr, hacc, hi.accepted_eq, submittedOk]
        · simp [hnot hr, hacc, hi.accepted_eq, submittedOk]
      slots_fresh := fun j hj => by rw [hother j (hfresh j hj)]; exact hi.slots_fresh j hj
      slot_task := fun j => ?_
      evaluated_eq := hdeq ▸ hi.evaluated_eq
      procs_match := hworkers ▸ hi.procs_match
      genuine := fun e' he' => ?_
      alerts_perm := by simpa [pending, hcount] using hi.alerts_perm }
    · by_cases hj : j = k
      · subst hj; exact htk
      · rw [hother j hj, hi.slot_task j, hnone j hj, hd]; simp [DispatchPhase.taskAt, hj]
    · rcases List.mem_append.1 he' with h | h
      · rcases List.mem_append.1 h with h | h
        · exact hi.genuine e' (List.mem_append_left _ (List.mem_append_left _ h))
        · exact hheld e' h ▸ hgen_e
      · rcases hacc with ⟨-, hacc⟩ | ⟨-, hacc⟩ <;> rw [hacc] at h
        · rcases List.mem_append.1 h with h | h
          · exact hi.genuine e' (List.mem_append_right _ h)
          · exact List.mem_singleton.1 h ▸ hgen_e
        · exact hi.genuine e' (List.mem_append_right _ h)
  rcases hcase with ⟨r, hr, rfl⟩ | ⟨hr, rfl⟩ | ⟨hr, hp, rfl⟩
  · exact hframe .selecting _ (by simp [DispatchPhase.held]) (by simp [DispatchPhase.held])
      (by simp [hr, SubmitPhase.task?, DispatchPhase.taskAt]) (fun _ _ => rfl)
      (fun h => by cases SubmitPhase.returned.inj (hr.symm.trans h); simp [List.filter_append])
      (fun h => by cases r <;> simp [List.filter_append]; exact h hr)
  · exact hframe .panicked _ (by simp [DispatchPhase.held]) (by simp [DispatchPhase.held])
      (by simp [hr, SubmitPhase.task?, DispatchPhase.taskAt]) (fun _ _ => rfl)
      (fun h => nomatch hr.symm.trans h) (fun _ => by simp [List.filter_append])
  · refine hframe p.dispatcher p.submitLog (by simp [hd, DispatchPhase.held])
      (by simp [hd, DispatchPhase.held]) ?_ (fun j hj => by simp [hd, DispatchPhase.taskAt, hj])
      (fun h => absurd h (hr .ok)) (fun _ => rfl)
    rcases hk with hk | ⟨r, hr'⟩ | hr'
    · simp [hk, hd, DispatchPhase.taskAt]
    · exact absurd hr' (hr r)
    · exact absurd hr' hp

theorem Inv.watchExit {p p' : Watcher ο ρ} (hi : Inv evaluate original p)
    (hs : p.watchExitStep = some p') : Inv evaluate original p' := by
  obtain ⟨hw, -, rfl⟩ := watchExitStep_eq hs
  exact { hi with
    watched := by simpa [hw, WatchPhase.held] using hi.watched
    genuine := by simpa [hw, WatchPhase.held] using hi.genuine }

theorem Inv.dispatchExit {p p' : Watcher ο ρ} (hi : Inv evaluate original p)
    (hs : p.dispatchExitStep = some p') : Inv evaluate original p' := by
  obtain ⟨hd, -, rfl⟩ := dispatchExitStep_eq hs
  exact { hi with
    channel := by simpa [hd, DispatchPhase.held] using hi.channel
    slot_task := by simpa [hd, DispatchPhase.taskAt] using hi.slot_task
    genuine := by simpa [hd, DispatchPhase.held] using hi.genuine }

/-- The alerts pending in the workers, when worker `w` changes from `f w` to `x`. -/
theorem flatMap_pending_update (f : Nat → ProcessEventPhase ο ρ) (x : ProcessEventPhase ο ρ)
    {w n : Nat} (hw : w < n) :
    ((List.range n).flatMap (fun v => (Function.update f w x v).pending) ++ (f w).pending).Perm
      ((List.range n).flatMap (fun v => (f v).pending) ++ x.pending) := by
  have hfun : (fun v => (Function.update f w x v).pending) =
      Function.update (fun v => (f v).pending) w x.pending :=
    funext fun v => Function.apply_update (fun _ => ProcessEventPhase.pending) f w x v
  rw [hfun]
  exact flatMap_update_perm _ _ (List.nodup_range n) (List.mem_range.2 hw)

/-- `procs_match` survives a step that changes only worker `w`, in its `processEvent` phase,
in the pool, or both, when the two agree on `w` afterwards. -/
theorem procs_match_update {procs procs' : Nat → ProcessEventPhase ο ρ}
    {workers workers' : Nat → WorkerPhase (WatchEvent ο)} {w : Nat}
    (h : ∀ v, (procs v).event? = (workers v).task?) (hw : (procs' w).event? = (workers' w).task?)
    (hprocs : ∀ v, v ≠ w → procs' v = procs v) (hworkers : ∀ v, v ≠ w → workers' v = workers v) :
    ∀ v, (procs' v).event? = (workers' v).task? := fun v => by
  by_cases hv : v = w
  · exact hv ▸ hw
  · rw [hprocs v hv, hworkers v hv]; exact h v

/-- `procs_evaluated` survives a step that moves worker `w` to `x` and only adds evaluations. -/
theorem Inv.procs_evaluated_update {p : Watcher ο ρ} (hi : Inv evaluate original p)
    {evaluated' : List (Evaluation ο ρ)} (hsub : p.evaluated ⊆ evaluated') {w : Nat}
    {x : ProcessEventPhase ο ρ}
    (hx : ∀ e pending, x = .processing e pending →
      ∃ r ∈ evaluated', r.event = e ∧ pending <:+ r.alerts) :
    ∀ v e pending, Function.update p.procs w x v = .processing e pending →
      ∃ r ∈ evaluated', r.event = e ∧ pending <:+ r.alerts := fun v e pending hv => by
  by_cases hvw : v = w
  · subst hvw; rw [Function.update_same] at hv; exact hx e pending hv
  · rw [Function.update_noteq hvw] at hv
    obtain ⟨r, hr, hre, hsuf⟩ := hi.procs_evaluated v e pending hv
    exact ⟨r, hsub hr, hre, hsuf⟩

theorem Inv.take {p p' : Watcher ο ρ} (hi : Inv evaluate original p) {w : Nat} {now : Int}
    (hs : p.takeStep evaluate w now = some p') : Inv evaluate original p' := by
  obtain ⟨pool, hpool, hcase⟩ := takeStep_cases hs
  have hidle := hi.procs_idle (WorkerPool.workerStep_taskQueue hpool).1
  obtain ⟨hw, ⟨e, q, -, rfl⟩ | rfl⟩ := WorkerPool.workerStep_taskQueue hpool
  · obtain ⟨e', he', rfl⟩ | ⟨hne, -⟩ := hcase
    · simp only [WorkerPool.setWorker_workers, Function.update_same,
        WorkerPhase.running.injEq] at he'
      subst he'
      have hlt := hi.lt_workerCount w (by simp [hw])
      set alerts := buildAlerts p.nextId (evaluate e.obj now)
      have hids : alerts.map (·.id) = List.range' p.nextId (evaluate e.obj now).length :=
        map_id_buildAlerts _ _
      refine { hi with
        pool := hi.pool.workerStep hpool
        evaluated_eq := by simp [hi.evaluated_eq]
        procs_match := procs_match_update hi.procs_match
          (by simp [ProcessEventPhase.event?, WorkerPhase.task?])
          (fun _ hv => Function.update_noteq hv _ _) (fun _ hv => by simp [hv])
        evaluated_rules := fun r hr => ?_
        procs_evaluated := hi.procs_evaluated_update (List.subset_append_left _ _)
          fun _ _ hx => by
            cases hx
            exact ⟨_, List.mem_append_right _ (List.mem_singleton_self _), rfl, List.suffix_refl _⟩
        creates_evaluated := fun c hc => ?_
        alerts_perm := ?_
        ids_nodup := ?_
        ids_lt := fun a ha => ?_ }
      · rcases List.mem_append.1 hr with hr | hr
        · exact hi.evaluated_rules r hr
        · rw [List.mem_singleton.1 hr]; exact map_rule_buildAlerts _ _
      · obtain ⟨r, hr, hre, hmem⟩ := hi.creates_evaluated c hc
        exact ⟨r, List.mem_append_left _ hr, hre, hmem⟩
      · have hp := flatMap_pending_update p.procs (.processing e alerts) hlt
        rw [hidle] at hp
        simp only [ProcessEventPhase.pending, List.append_nil] at hp
        simp only [pending, List.flatMap_append, List.flatMap_cons, List.flatMap_nil,
          List.append_nil]
        exact (hp.append_left _).trans (by
          rw [← List.append_assoc]; exact hi.alerts_perm.append_right _)
      · dsimp only
        simp only [List.flatMap_append, List.flatMap_cons, List.flatMap_nil, List.append_nil,
          List.map_append, hids]
        refine List.nodup_append.2 ⟨hi.ids_nodup, List.nodup_range' _ _, fun a ha hb => ?_⟩
        obtain ⟨x, hx, rfl⟩ := List.mem_map.1 ha
        have := hi.ids_lt x hx
        rw [List.mem_range'_1] at hb
        omega
      · dsimp only at ha ⊢
        simp only [List.flatMap_append, List.flatMap_cons, List.flatMap_nil, List.append_nil,
          List.mem_append] at ha
        rcases ha with ha | ha
        · have := hi.ids_lt a ha; omega
        · have hb : a.id ∈ alerts.map (·.id) := List.mem_map_of_mem _ ha
          rw [hids, List.mem_range'_1] at hb
          omega
    · exact absurd (by simp) (hne e)
  · obtain ⟨e', he', -⟩ | ⟨-, rfl⟩ := hcase
    · simp at he'
    · exact { hi with
        pool := hi.pool.workerStep hpool
        procs_match := procs_match_update (w := w) hi.procs_match
          (by simp [hidle, ProcessEventPhase.event?, WorkerPhase.task?]) (fun _ _ => rfl)
          (fun _ hv => by simp [hv]) }

theorem Inv.processAlert {p p' : Watcher ο ρ} (hi : Inv evaluate original p) {w : Nat}
    {ok : Bool} (hs : p.processAlertStep w ok = some p') : Inv evaluate original p' := by
  obtain ⟨e, a, rest, hw, rfl⟩ := processAlertStep_eq hs
  have hrun : p.pool.workers w = .running e := by
    have := hi.procs_match w
    rw [hw] at this
    cases h : p.pool.workers w <;> simp_all [ProcessEventPhase.event?, WorkerPhase.task?]
  have hlt := hi.lt_workerCount w (by simp [hrun])
  obtain ⟨r, hr, hre, hsuf⟩ := hi.procs_evaluated w e _ hw
  refine { hi with
    procs_match := procs_match_update hi.procs_match
      (by simpa [hw, ProcessEventPhase.event?] using hi.procs_match w)
      (fun _ hv => Function.update_noteq hv _ _) (fun _ _ => rfl)
    procs_evaluated := hi.procs_evaluated_update (List.Subset.refl _) fun _ _ hx => by
      cases hx; exact ⟨r, hr, hre, (List.suffix_cons a _).trans hsuf⟩
    creates_evaluated := fun c hc => ?_
    alerts_perm := ?_ }
  · rcases List.mem_append.1 hc with hc | hc
    · exact hi.creates_evaluated c hc
    · rw [List.mem_singleton.1 hc]
      exact ⟨r, hr, by rw [hre], hsuf.subset (List.mem_cons_self a rest)⟩
  · have hp := flatMap_pending_update p.procs (.processing e rest) hlt
    rw [hw] at hp
    simp only [ProcessEventPhase.pending] at hp
    have hp' : ((List.range p.pool.workerCount).flatMap
        (fun v => (Function.update p.procs w (.processing e rest) v).pending) ++ [a]).Perm
        (p.pending) := by
      rw [← List.perm_append_right_iff rest, List.append_assoc]; exact hp
    simp only [pending, List.map_append, List.map_cons, List.map_nil, List.append_assoc]
    exact ((List.perm_append_comm.append_left _).trans (hp'.append_left _)).trans hi.alerts_perm

theorem Inv.taskReturns {p p' : Watcher ο ρ} (hi : Inv evaluate original p) {w : Nat}
    (hs : p.taskReturnsStep w = some p') : Inv evaluate original p' := by
  obtain ⟨e, pool, hw, hpool, rfl⟩ := taskReturnsStep_eq hs
  obtain ⟨t, ht, rfl⟩ := WorkerPool.workerStep_taskReturns hpool
  have hlt := hi.lt_workerCount w (by simp [ht])
  refine { hi with
    pool := hi.pool.workerStep hpool
    procs_match := procs_match_update hi.procs_match
      (by simp [ProcessEventPhase.event?, WorkerPhase.task?])
      (fun _ hv => Function.update_noteq hv _ _) (fun _ hv => by simp [hv])
    procs_evaluated := hi.procs_evaluated_update (List.Subset.refl _) fun _ _ hx => nomatch hx
    alerts_perm := ?_ }
  · have hp := flatMap_pending_update p.procs .idle hlt
    rw [hw] at hp
    simp only [ProcessEventPhase.pending, List.append_nil] at hp
    exact (hp.append_left _).trans hi.alerts_perm

theorem Inv.poolStep {p p' : Watcher ο ρ} (hi : Inv evaluate original p)
    {a : PoolAction (WatchEvent ο)} (hs : p.poolStep a = some p') : Inv evaluate original p' := by
  obtain ⟨pool, ha, hpool, rfl⟩ := poolStep_eq hs
  obtain ⟨hsub, hacc, hdeq, -, hcount, htask⟩ := WorkerPool.step_external_frame ha hpool
  exact { hi with
    pool := hi.pool.step hpool
    accepted_eq := by rw [hacc]; exact hi.accepted_eq
    slots_fresh := by rw [hsub]; exact hi.slots_fresh
    slot_task := by rw [hsub]; exact hi.slot_task
    evaluated_eq := by rw [hdeq]; exact hi.evaluated_eq
    procs_match := fun w => (hi.procs_match w).trans (htask w).symm
    genuine := by rw [hacc]; exact hi.genuine
    alerts_perm := by simpa [pending, hcount] using hi.alerts_perm }

theorem Inv.step {p p' : Watcher ο ρ} (hi : Inv evaluate original p) {a : WatcherAction ο}
    (hs : p.step evaluate a = some p') : Inv evaluate original p' := by
  cases a with
  | watchRecv => exact hi.watchRecv hs
  | watchSend => exact hi.watchSend hs
  | watchExit => exact hi.watchExit hs
  | dispatchRecv => exact hi.dispatchRecv hs
  | dispatchSubmit => exact hi.dispatchSubmit hs
  | dispatchExit => exact hi.dispatchExit hs
  | take => exact hi.take hs
  | processAlert => exact hi.processAlert hs
  | taskReturns => exact hi.taskReturns hs
  | stop => obtain ⟨-, rfl⟩ := stopCall_eq hs; exact { hi with }
  | pool => exact hi.poolStep hs

theorem Reachable.inv {eventChanSize : Nat} {workerCount queueSize : Int} {p : Watcher ο ρ}
    (h : Reachable evaluate eventChanSize original workerCount queueSize p) :
    Inv evaluate original p := by
  induction h with
  | init => exact inv_started eventChanSize workerCount queueSize
  | step _ _ hs ih => exact ih.step hs

end Preservation

/-- The alerts stored: those whose `Create` succeeded. -/
def persisted (p : Watcher ο ρ) : List (BuiltAlert ρ) := (p.creates.filter (·.ok)).map (·.alert)

/-- Nothing is on its way any more: no event is held by `watchPods`, queued in `eventChan`,
inside `SubmitWithContext` or queued in the pool, and no worker has alerts left. -/
def Settled (p : Watcher ο ρ) : Prop :=
  p.watch.held = [] ∧ p.eventChan.buffer = [] ∧ p.dispatcher.held = [] ∧
    p.pool.taskQueue.buffer = [] ∧ p.pending = []

/-- No event was dropped at the full `eventChan` or refused by `SubmitWithContext`, and every
`Create` succeeded. -/
def NoLoss (p : Watcher ο ρ) : Prop :=
  p.dropped = [] ∧ p.rejected = [] ∧ ∀ c ∈ p.creates, c.ok = true

instance [DecidableEq ο] [DecidableEq ρ] (p : Watcher ο ρ) : Decidable p.Settled :=
  inferInstanceAs (Decidable (_ ∧ _ ∧ _ ∧ _ ∧ _))

instance (p : Watcher ο ρ) : Decidable p.NoLoss :=
  inferInstanceAs (Decidable (_ ∧ _ ∧ _))

private theorem flatMap_const {α β : Type} (xs : List β) :
    ∀ l : List α, l.flatMap (fun _ => xs) = (List.replicate l.length xs).flatten
  | [] => rfl
  | _ :: l => by simp [flatMap_const xs l, List.replicate_succ]

section Accounting

variable {evaluate : ο → Int → List ρ} {original : List ο}

/-- Each delivered event sits at exactly one stage of the pipeline. -/
theorem Inv.events_perm {p : Watcher ο ρ} (hi : Inv evaluate original p) :
    (p.dropped ++ p.watch.held.map (·.index) ++ p.eventChan.buffer.map (·.index) ++
      p.dispatcher.held.map (·.index) ++ p.rejected.map (·.1) ++
      p.pool.taskQueue.buffer.map (·.index) ++ p.taken).Perm (List.range p.delivered) := by
  have hq : p.submittedOk = p.taken ++ p.pool.taskQueue.buffer.map (·.index) := by
    rw [← hi.accepted_eq, ← hi.pool.fifo]; simp [taken]
  have hw := List.perm_iff_count.1 ((List.filter_append_perm (·.2) p.watchLog).map (·.1))
  have hs := List.perm_iff_count.1
    ((List.filter_append_perm (fun x => x.2 == some SubmitResult.ok) p.submitLog).map (·.1))
  rw [List.perm_iff_count]
  intro i
  have h1 := congrArg (List.count i) hi.watched
  have h2 := congrArg (List.count i) hi.channel
  have h3 := congrArg (List.count i) hq
  have h4 := hw i
  have h5 := hs i
  simp only [sent, dropped, submittedOk, rejected, List.count_append, List.map_append] at *
  omega

theorem Inv.taken_evaluated {p : Watcher ο ρ} (hi : Inv evaluate original p) :
    p.evaluated.map (·.event.index) = p.taken := by
  rw [taken, ← hi.evaluated_eq, List.map_map]; rfl

theorem Inv.evaluated_genuine {p : Watcher ο ρ} (hi : Inv evaluate original p)
    {r : Evaluation ο ρ} (hr : r ∈ p.evaluated) :
    Genuine original r.event ∧ r.alerts.map (·.rule) = evaluate r.event.obj r.now := by
  refine ⟨hi.genuine _ ?_, hi.evaluated_rules r hr⟩
  have : r.event ∈ p.pool.accepted := by
    rw [← hi.pool.fifo, ← hi.evaluated_eq]
    exact List.mem_append_left _ (List.mem_map_of_mem _ hr)
  simp [this]

/-- Every alert passed to `Create` is a rule instance the evaluator yields for the object the
stream delivered at its event's position, at the time a worker evaluated it. -/
theorem Inv.create_rule {p : Watcher ο ρ} (hi : Inv evaluate original p) {c : CreateCall ρ}
    (hc : c ∈ p.creates) :
    ∃ obj now, original[c.event]? = some obj ∧ c.alert.rule ∈ evaluate obj now := by
  obtain ⟨r, hr, hidx, hmem⟩ := hi.creates_evaluated c hc
  obtain ⟨hg, hrules⟩ := hi.evaluated_genuine hr
  exact ⟨r.event.obj, r.now, hidx ▸ hg, hrules ▸ List.mem_map_of_mem _ hmem⟩

/-- With no worker holding alerts and every `Create` successful, the stored alerts are the
alerts the evaluations built, each once. -/
theorem Inv.persisted_perm {p : Watcher ο ρ} (hi : Inv evaluate original p)
    (hpend : p.pending = []) (hok : ∀ c ∈ p.creates, c.ok = true) :
    p.persisted.Perm (p.evaluated.flatMap (·.alerts)) := by
  have hcreated : p.persisted = p.creates.map (·.alert) := by
    rw [persisted, List.filter_eq_self.2 fun c hc => hok c hc]
  simpa [hcreated, hpend] using hi.alerts_perm

/-- Then the stored rule instances are those the evaluator yields at each evaluation. -/
theorem Inv.persisted_rules_perm {p : Watcher ο ρ} (hi : Inv evaluate original p)
    (hpend : p.pending = []) (hok : ∀ c ∈ p.creates, c.ok = true) :
    (p.persisted.map (·.rule)).Perm (p.evaluated.flatMap fun r => evaluate r.event.obj r.now) := by
  rw [← List.flatMap_congr hi.evaluated_rules, ← List.map_flatMap]
  exact (hi.persisted_perm hpend hok).map _

/-- With nothing lost and nothing on its way, the stream's `k` copies of one object, which
matches the same rule instances at each time it was evaluated, give `k` stored alerts per
rule instance, all with distinct ids. -/
theorem Inv.exactly_k {p : Watcher ο ρ} (hi : Inv evaluate original p) {obj : ο}
    {rules : List ρ} (horig : original = List.replicate original.length obj)
    (heval : ∀ r ∈ p.evaluated, evaluate obj r.now = rules)
    (hdel : p.delivered = original.length)
    (hset : p.Settled) (hnl : p.NoLoss) :
    (p.persisted.map (·.rule)).Perm (List.replicate original.length rules).flatten ∧
      (p.persisted.map (·.id)).Nodup := by
  obtain ⟨hheld, hchan, hsub, hqueue, hpend⟩ := hset
  obtain ⟨hdrop, hrej, hok⟩ := hnl
  have htaken : p.taken.Perm (List.range original.length) := by
    simpa [hheld, hchan, hsub, hqueue, hdrop, hrej, hdel] using hi.events_perm
  have hlen : p.evaluated.length = original.length := by
    rw [← List.length_map p.evaluated (·.event.index), hi.taken_evaluated, htaken.length_eq,
      List.length_range]
  have hrules : ∀ r ∈ p.evaluated, evaluate r.event.obj r.now = rules := fun r hr => by
    have hg := (hi.evaluated_genuine hr).1
    rw [Genuine, horig, List.getElem?_replicate] at hg
    split at hg
    · cases hg; exact heval r hr
    · cases hg
  refine ⟨(hi.persisted_rules_perm hpend hok).trans ?_,
    ((hi.persisted_perm hpend hok).map _).nodup_iff.2 hi.ids_nodup⟩
  rw [List.flatMap_congr hrules, flatMap_const, hlen]

end Accounting

/-- What the watcher pipeline guarantees at every state it can reach, for a stream that
delivers `original`. -/
structure Accounting (evaluate : ο → Int → List ρ) (original : List ο) (p : Watcher ο ρ) :
    Prop where
  /-- Each delivered event is at exactly one stage: dropped at the full `eventChan`, held by
  `watchPods`, queued in `eventChan`, inside `SubmitWithContext`, refused by it (queue full,
  pool stopped, context done, or a panic on the closed queue), queued in the pool, or taken
  by a worker. -/
  events_at_one_stage : (p.dropped ++ p.watch.held.map (·.index) ++
    p.eventChan.buffer.map (·.index) ++ p.dispatcher.held.map (·.index) ++
    p.rejected.map (·.1) ++ p.pool.taskQueue.buffer.map (·.index) ++ p.taken).Perm
      (List.range p.delivered)
  /-- Each event a worker took was evaluated once, on the object the stream delivered at its
  position, and its alerts are the rule instances the evaluator yields. -/
  taken_evaluated : p.evaluated.map (·.event.index) = p.taken
  evaluated_genuine : ∀ r ∈ p.evaluated,
    Genuine original r.event ∧ r.alerts.map (·.rule) = evaluate r.event.obj r.now
  /-- Each alert built was passed to `Create` exactly once, or waits in the worker that built
  it. -/
  created_once : (p.creates.map (·.alert) ++ p.pending).Perm (p.evaluated.flatMap (·.alerts))
  create_from_its_event : ∀ c ∈ p.creates,
    ∃ r ∈ p.evaluated, r.event.index = c.event ∧ c.alert ∈ r.alerts
  ids_distinct : ((p.evaluated.flatMap (·.alerts)).map (·.id)).Nodup
  /-- With no loss, `k` copies of one object give `k` stored alerts per rule instance it
  matches at the times it was evaluated, with distinct ids. -/
  exactly_k : ∀ (obj : ο) (rules : List ρ), original = List.replicate original.length obj →
    (∀ r ∈ p.evaluated, evaluate obj r.now = rules) → p.delivered = original.length →
    p.Settled → p.NoLoss →
      (p.persisted.map (·.rule)).Perm (List.replicate original.length rules).flatten ∧
      (p.persisted.map (·.id)).Nodup

/-- The pod and node watchers neither lose nor duplicate alerts beyond the listed losses:
every event the stream delivered is at exactly one stage, every alert passed to `Create` was
built by the one evaluation of its event, and each built alert is passed to `Create` once. -/
theorem watcher_accounts_for_every_alert {evaluate : ο → Int → List ρ} {eventChanSize : Nat}
    {original : List ο} {workerCount queueSize : Int} {p : Watcher ο ρ}
    (h : Reachable evaluate eventChanSize original workerCount queueSize p) :
    Accounting evaluate original p :=
  have hi := h.inv
  { events_at_one_stage := hi.events_perm
    taken_evaluated := hi.taken_evaluated
    evaluated_genuine := fun _ hr => hi.evaluated_genuine hr
    created_once := hi.alerts_perm
    create_from_its_event := hi.creates_evaluated
    ids_distinct := hi.ids_nodup
    exactly_k := fun _ _ horig heval hdel hset hnl => hi.exactly_k horig heval hdel hset hnl }

/-- An evaluator for which every object matches two rule instances. -/
def twoRules (obj : Nat) (_ : Int) : List Nat := [obj, obj + 1]

/-- One event through the whole pipeline: received, queued, submitted (context check,
`stopped` check, send), taken by worker `0`, both alerts created, and the task returns. -/
def oneEventThrough : List (WatcherAction Nat) :=
  [.watchRecv, .watchSend, .dispatchRecv, .dispatchSubmit, .dispatchSubmit, .dispatchSubmit,
    .take 0 0, .processAlert 0 true, .processAlert 0 true, .taskReturns 0]

/-- The pod watcher on the evaluator's pool `NewWorkerPool(5, 300)`, fed the same pod twice,
after both events went through. -/
def fedTwice : Watcher Nat Nat :=
  ((newPodWatcher [7, 7] (newWorkerPool 5 300).start).run twoRules
    (oneEventThrough ++ oneEventThrough)).getD (newPodWatcher [] (newWorkerPool 5 300).start)

theorem watcher_accounts_for_every_alert_fedTwice :
    Reachable twoRules 500 [7, 7] 5 300 fedTwice ∧ fedTwice.Settled ∧ fedTwice.NoLoss ∧
      fedTwice.delivered = 2 ∧ Accounting twoRules [7, 7] fedTwice :=
  have hr : Reachable twoRules 500 [7, 7] 5 300 fedTwice :=
    Reachable.init.run (show (newPodWatcher [7, 7] (newWorkerPool 5 300).start).run twoRules
      (oneEventThrough ++ oneEventThrough) = some fedTwice from rfl)
  ⟨hr, by decide, by decide, rfl, watcher_accounts_for_every_alert hr⟩

/-! ### After the pool's `Stop` -/

section Shutdown

variable {evaluate : ο → Int → List ρ} {original : List ο}

/-- Once the `Stop` call of the pool that set `stopped` has returned, every worker has left:
no step calls `Create` or evaluates, and that call stays returned. -/
theorem Inv.step_after_pool_stop {p p' : Watcher ο ρ} (hi : Inv evaluate original p) {i : Nat}
    (hstop : p.pool.stoppers i = .returned) {a : WatcherAction ο}
    (hs : p.step evaluate a = some p') :
    p'.creates = p.creates ∧ p'.evaluated = p.evaluated ∧ p'.pool.stoppers i = .returned := by
  have hleft := hi.pool.drained i (.inr hstop)
  have hidle : ∀ w e pending, p.procs w ≠ .processing e pending := fun w e pending hw => by
    have hm := hi.procs_match w
    have hl := hleft w
    rw [hw] at hm
    cases hwk : p.pool.workers w <;>
      simp_all [ProcessEventPhase.event?, WorkerPhase.task?, WorkerPhase.holdsWaitGroup]
  cases a with
  | watchRecv => obtain ⟨_, _, -, -, rfl⟩ := watchRecvStep_eq hs; exact ⟨rfl, rfl, hstop⟩
  | watchSend =>
    obtain ⟨_, -, ⟨-, rfl⟩ | rfl⟩ := watchSendStep_cases hs <;> exact ⟨rfl, rfl, hstop⟩
  | watchExit => obtain ⟨-, -, rfl⟩ := watchExitStep_eq hs; exact ⟨rfl, rfl, hstop⟩
  | dispatchRecv =>
    obtain ⟨_, _, _, -, -, hpool, rfl⟩ := dispatchRecvStep_eq hs
    exact ⟨rfl, rfl, WorkerPool.step_keeps_returned (a := .submit _ _ _) hpool hstop⟩
  | dispatchSubmit =>
    obtain ⟨_, _, _, -, hpool, hcases⟩ := dispatchSubmitStep_cases hs
    have hkeep := WorkerPool.step_keeps_returned (a := .submitStep _ _) hpool hstop
    rcases hcases with ⟨_, -, rfl⟩ | ⟨-, rfl⟩ | ⟨-, -, rfl⟩ <;> exact ⟨rfl, rfl, hkeep⟩
  | dispatchExit => obtain ⟨-, -, rfl⟩ := dispatchExitStep_eq hs; exact ⟨rfl, rfl, hstop⟩
  | take w =>
    obtain ⟨_, hpool, -⟩ := takeStep_cases hs
    exact absurd (hleft w) (by simp [(WorkerPool.workerStep_taskQueue hpool).1, WorkerPhase.holdsWaitGroup])
  | processAlert w =>
    obtain ⟨_, _, _, hw, -⟩ := processAlertStep_eq hs
    exact absurd hw (hidle w _ _)
  | taskReturns w =>
    obtain ⟨_, _, hw, -⟩ := taskReturnsStep_eq hs
    exact absurd hw (hidle w _ _)
  | stop => obtain ⟨-, rfl⟩ := stopCall_eq hs; exact ⟨rfl, rfl, hstop⟩
  | pool =>
    obtain ⟨_, -, hpool, rfl⟩ := poolStep_eq hs
    exact ⟨rfl, rfl, WorkerPool.step_keeps_returned hpool hstop⟩

end Shutdown

/-- `shutdown` stops the pool (`alertEngine.Stop()`) before `closeDatabase`.  Once the pool's
`Stop` call that set `stopped` has returned, whatever the goroutines of the pipeline and of
the pool do next, no `AlertRepo.Create` is called and no event is evaluated any more. -/
theorem no_create_after_pool_stop {evaluate : ο → Int → List ρ} {eventChanSize : Nat}
    {original : List ο} {workerCount queueSize : Int} {p q : Watcher ο ρ}
    (h : Reachable evaluate eventChanSize original workerCount queueSize p) {i : Nat}
    (hstop : p.pool.stoppers i = .returned) {schedule : List (WatcherAction ο)}
    (hq : p.run evaluate schedule = some q) :
    q.creates = p.creates ∧ q.evaluated = p.evaluated := by
  induction schedule generalizing p with
  | nil => cases hq; exact ⟨rfl, rfl⟩
  | cons a rest ih =>
    simp only [Watcher.run, Option.bind_eq_some] at hq
    obtain ⟨mid, hstep, hrest⟩ := hq
    obtain ⟨hc, he, hkeep⟩ := h.inv.step_after_pool_stop hstop hstep
    obtain ⟨hc', he'⟩ := ih (h.step a hstep) hkeep hrest
    exact ⟨hc'.trans hc, he'.trans he⟩

/-- One event through a one-worker pool, then the pool's `Stop` run to its end: it sets
`stopped`, closes `stopChan`, the worker leaves, and it closes `taskQueue`. -/
def stopAfterOneEvent : List (WatcherAction Nat) :=
  oneEventThrough ++ [.pool (.stop 0), .pool (.stopStep 0), .pool (.stopStep 0),
    .pool (.worker 0 .stopChan), .pool (.stopStep 0), .pool (.stopStep 0)]

/-- After the pool's `Stop`, the watcher's own `Stop` and the exits of `watchPods` and the
dispatcher change nothing that reaches the database. -/
theorem no_create_after_pool_stop_oneEvent :
    ∃ p q : Watcher Nat Nat,
      (newPodWatcher [7] (newWorkerPool 1 300).start).run twoRules stopAfterOneEvent = some p ∧
      Reachable twoRules 500 [7] 1 300 p ∧ p.pool.stoppers 0 = .returned ∧ p.creates.length = 2 ∧
      p.run twoRules [.stop, .watchExit, .dispatchExit] = some q ∧
      (q.creates = p.creates ∧ q.evaluated = p.evaluated) := by
  obtain ⟨p, hp⟩ : ∃ p, (newPodWatcher [7] (newWorkerPool 1 300).start).run twoRules
      stopAfterOneEvent = some p := ⟨_, rfl⟩
  have hr : Reachable twoRules 500 [7] 1 300 p := Reachable.init.run hp
  have hstop : p.pool.stoppers 0 = .returned := by cases hp; rfl
  obtain ⟨q, hq⟩ : ∃ q, p.run twoRules [.stop, .watchExit, .dispatchExit] = some q := by
    cases hp; exact ⟨_, rfl⟩
  exact ⟨p, q, hp, hr, hstop, by cases hp; rfl, hq, no_create_after_pool_stop hr hstop hq⟩

end Watcher

end AlertPipeline
