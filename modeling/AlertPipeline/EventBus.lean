import AlertPipeline.Channel

/-
The alert event bus of `internal/processor` (`EventBus`) together with its only publisher,
`AlertStateManager.ProcessAlert`.  Any number of workers call `ProcessAlert`; each call
runs `alertRepo.Create` (which may fail) and, on success, `Publish`, a non-blocking send
on `eventChan` (capacity 200).  The single dispatcher goroutine receives events and runs
`notifyObservers`, which starts one goroutine per observer and waits for none of them.
`Stop` closes `stopCh` and waits on `wg`, which counts the dispatcher only.

`creates`, `publishes` and `dispatched` are ghost logs: every `Create` call with its
caller and outcome, every `Publish` call with its caller and whether the event entered
the channel, and the events the dispatcher received, in order.  An event's `id` is the
identity of the `*AlertEvent` that `ProcessAlert` allocates.
-/

namespace AlertPipeline

/-- `AlertEvent`. -/
structure AlertEvent (α : Type) where
  id : Nat
  alert : α
  timestamp : Int
deriving Repr, DecidableEq

/-- One call of `ProcessAlert(ctx, alert)`. -/
inductive ProcessPhase (α : Type) where
  | idle
  /-- `asm.alertRepo.Create(ctx, alert)`. -/
  | create (alert : α)
  /-- `asm.eventBus.Publish(&AlertEvent{Alert: alert, Timestamp: time.Now()})`. -/
  | publish (alert : α)
  /-- `return true, nil` when `created`, `return false, err` otherwise. -/
  | returned (alert : α) (created : Bool)
deriving Repr, DecidableEq

/-- A goroutine started by `notifyObservers` for one observer. -/
inductive NotifyPhase where
  /-- Before `obs.OnAlert(ctx, event)`. -/
  | started
  /-- Inside `OnAlert`, which may never return. -/
  | inOnAlert
  /-- `OnAlert` returned, with an error (logged) or without. -/
  | returned (failed : Bool)
deriving Repr, DecidableEq

inductive DispatcherPhase where
  /-- At the `select` of the dispatcher's `for` loop. -/
  | selecting
  | exited
deriving Repr, DecidableEq

/-- The ready case of the dispatcher's `select` that the scheduler picks. -/
inductive DispatcherCase where
  | eventChan
  | stopCh
  | ctxDone
deriving Repr, DecidableEq

/-- One call of `EventBus.Stop`. -/
inductive BusStopPhase where
  | idle
  /-- `close(eb.stopCh)`. -/
  | closeStopCh
  /-- `eb.wg.Wait()`. -/
  | waitDispatcher
  | returned
  | panicked
deriving Repr, DecidableEq

structure EventBus (α σ : Type) where
  observers : List σ
  eventChan : Chan (AlertEvent α)
  stopChClosed : Bool
  /-- The context given to `Start` is done. -/
  ctxDone : Bool
  dispatcher : DispatcherPhase
  /-- The goroutines `notifyObservers` started, in the order it started them. -/
  notifications : List (AlertEvent α × σ)
  notifyPhases : Nat → NotifyPhase
  stoppers : Nat → BusStopPhase
  callers : Nat → ProcessPhase α
  creates : List (Nat × α × Bool)
  publishes : List (Nat × AlertEvent α × Bool)
  dispatched : List (AlertEvent α)

/-- `NewEventBus()`, the `Subscribe` calls of `observers`, and `Start`.  In `main.go` every
subscription comes before the first alert is published. -/
def EventBus.started (observers : List σ) : EventBus α σ where
  observers := observers
  eventChan := Chan.make 200
  stopChClosed := false
  ctxDone := false
  dispatcher := .selecting
  notifications := []
  notifyPhases := fun _ => .started
  stoppers := fun _ => .idle
  callers := fun _ => .idle
  creates := []
  publishes := []
  dispatched := []

/-- One atomic action of one goroutine around the bus, or of its environment. -/
inductive BusAction (α σ : Type) where
  /-- A worker calls `ProcessAlert(ctx, alert)` in slot `c`. -/
  | processAlert (c : Nat) (alert : α)
  /-- The `Create` call of slot `c` returns, `nil` when `ok`. -/
  | create (c : Nat) (ok : Bool)
  /-- The `Publish` call of slot `c`, at `time.Now() = now`. -/
  | publish (c : Nat) (now : Int)
  | dispatcher (c : DispatcherCase)
  /-- Notification goroutine `n` calls `OnAlert`. -/
  | onAlert (n : Nat)
  | onAlertReturns (n : Nat) (failed : Bool)
  | stop (i : Nat)
  | stopStep (i : Nat)
  | cancel

namespace EventBus

variable {α σ : Type}

@[simps] def setCaller (eb : EventBus α σ) (c : Nat) (p : ProcessPhase α) : EventBus α σ :=
  { eb with callers := Function.update eb.callers c p }

@[simps] def setNotify (eb : EventBus α σ) (n : Nat) (p : NotifyPhase) : EventBus α σ :=
  { eb with notifyPhases := Function.update eb.notifyPhases n p }

@[simps] def setStopper (eb : EventBus α σ) (i : Nat) (p : BusStopPhase) : EventBus α σ :=
  { eb with stoppers := Function.update eb.stoppers i p }

/-- The `Create` calls of slot `c`, with their alerts and outcomes. -/
def createsOf (eb : EventBus α σ) (c : Nat) : List (α × Bool) :=
  (eb.creates.filter fun x => x.1 = c).map (·.2)

/-- The `Publish` calls of slot `c`, with their events and whether they were queued. -/
def publishesOf (eb : EventBus α σ) (c : Nat) : List (AlertEvent α × Bool) :=
  (eb.publishes.filter fun x => x.1 = c).map (·.2)

/-- `notifyObservers`: one goroutine per observer, none of them waited for. -/
def notifyObservers (eb : EventBus α σ) (event : AlertEvent α) : EventBus α σ :=
  { eb with notifications := eb.notifications ++ eb.observers.map (event, ·) }

def processAlertCall (eb : EventBus α σ) (c : Nat) (alert : α) : Option (EventBus α σ) :=
  match eb.callers c with
  | .idle => some (eb.setCaller c (.create alert))
  | _ => none

def createStep (eb : EventBus α σ) (c : Nat) (ok : Bool) : Option (EventBus α σ) :=
  match eb.callers c with
  | .create alert =>
      some { eb.setCaller c (if ok then .publish alert else .returned alert false) with
        creates := eb.creates ++ [(c, alert, ok)] }
  | _ => none

/-- `Publish(&AlertEvent{...})` from `ProcessAlert`, then `return true, nil`.  A full
channel drops the event; `eventChan` is never closed. -/
def publishStep (eb : EventBus α σ) (c : Nat) (now : Int) : Option (EventBus α σ) :=
  match eb.callers c with
  | .publish alert =>
      let event : AlertEvent α := ⟨eb.publishes.length, alert, now⟩
      match eb.eventChan.trySend event with
      | .sent q =>
          some { eb.setCaller c (.returned alert true) with
            eventChan := q, publishes := eb.publishes ++ [(c, event, true)] }
      | .full =>
          some { eb.setCaller c (.returned alert true) with
            publishes := eb.publishes ++ [(c, event, false)] }
      | .panics => none
  | _ => none

/-- `dispatcher`: the case of its `select` that the scheduler picks. -/
def dispatcherStep (eb : EventBus α σ) : DispatcherCase → Option (EventBus α σ)
  | .eventChan =>
      match eb.dispatcher, eb.eventChan.recv? with
      | .selecting, some (some event, q) =>
          some ({ eb with eventChan := q, dispatched := eb.dispatched ++ [event] }.notifyObservers
            event)
      | _, _ => none
  | .stopCh =>
      if eb.dispatcher = .selecting ∧ eb.stopChClosed then some { eb with dispatcher := .exited }
      else none
  | .ctxDone =>
      if eb.dispatcher = .selecting ∧ eb.ctxDone then some { eb with dispatcher := .exited }
      else none

def onAlertCall (eb : EventBus α σ) (n : Nat) : Option (EventBus α σ) :=
  if n < eb.notifications.length ∧ eb.notifyPhases n = .started then
    some (eb.setNotify n .inOnAlert)
  else none

def onAlertReturn (eb : EventBus α σ) (n : Nat) (failed : Bool) : Option (EventBus α σ) :=
  if eb.notifyPhases n = .inOnAlert then some (eb.setNotify n (.returned failed)) else none

def stopCall (eb : EventBus α σ) (i : Nat) : Option (EventBus α σ) :=
  match eb.stoppers i with
  | .idle => some (eb.setStopper i .closeStopCh)
  | _ => none

/-- `Stop`: `close(eb.stopCh)` with no guard, then `eb.wg.Wait()`. -/
def stopStep (eb : EventBus α σ) (i : Nat) : Option (EventBus α σ) :=
  match eb.stoppers i with
  | .closeStopCh =>
      if eb.stopChClosed then some (eb.setStopper i .panicked)
      else some { eb.setStopper i .waitDispatcher with stopChClosed := true }
  | .waitDispatcher =>
      if eb.dispatcher = .exited then some (eb.setStopper i .returned) else none
  | _ => none

def step (eb : EventBus α σ) : BusAction α σ → Option (EventBus α σ)
  | .processAlert c alert => eb.processAlertCall c alert
  | .create c ok => eb.createStep c ok
  | .publish c now => eb.publishStep c now
  | .dispatcher c => eb.dispatcherStep c
  | .onAlert n => eb.onAlertCall n
  | .onAlertReturns n failed => eb.onAlertReturn n failed
  | .stop i => eb.stopCall i
  | .stopStep i => eb.stopStep i
  | .cancel => some { eb with ctxDone := true }

/-! ### What each action can do -/

theorem processAlertCall_eq {eb eb' : EventBus α σ} {c : Nat} {alert : α}
    (h : eb.processAlertCall c alert = some eb') :
    eb.callers c = .idle ∧ eb' = eb.setCaller c (.create alert) := by
  unfold processAlertCall at h
  split at h
  · cases h; exact ⟨‹_›, rfl⟩
  · cases h

theorem createStep_eq {eb eb' : EventBus α σ} {c : Nat} {ok : Bool}
    (h : eb.createStep c ok = some eb') :
    ∃ alert, eb.callers c = .create alert ∧
      eb' = { eb.setCaller c (if ok then .publish alert else .returned alert false) with
        creates := eb.creates ++ [(c, alert, ok)] } := by
  unfold createStep at h
  split at h
  · cases h; exact ⟨_, ‹_›, rfl⟩
  · cases h

theorem publishStep_cases {eb eb' : EventBus α σ} {c : Nat} {now : Int}
    (h : eb.publishStep c now = some eb') :
    ∃ alert, eb.callers c = .publish alert ∧
      ((eb.eventChan.buffer.length < eb.eventChan.capacity ∧
        eb' = { eb.setCaller c (.returned alert true) with
          eventChan := { eb.eventChan with
            buffer := eb.eventChan.buffer ++ [⟨eb.publishes.length, alert, now⟩] },
          publishes := eb.publishes ++ [(c, ⟨eb.publishes.length, alert, now⟩, true)] }) ∨
      (eb' = { eb.setCaller c (.returned alert true) with
          publishes := eb.publishes ++ [(c, ⟨eb.publishes.length, alert, now⟩, false)] })) := by
  unfold publishStep at h
  split at h
  · rename_i alert hc
    dsimp only at h
    split at h
    · rename_i q hq
      obtain ⟨-, hlt, rfl⟩ := Chan.trySend_eq_sent hq
      cases h
      exact ⟨alert, hc, .inl ⟨hlt, rfl⟩⟩
    · cases h; exact ⟨alert, hc, .inr rfl⟩
    · cases h
  · cases h

theorem dispatcherStep_cases {eb eb' : EventBus α σ} {d : DispatcherCase}
    (h : eb.dispatcherStep d = some eb') :
    (∃ event q, d = .eventChan ∧ eb.dispatcher = .selecting ∧
      eb.eventChan.buffer = event :: q.buffer ∧ q.capacity = eb.eventChan.capacity ∧
      q.closed = eb.eventChan.closed ∧
      eb' = { eb with eventChan := q, dispatched := eb.dispatched ++ [event] }.notifyObservers
        event) ∨
    (eb.dispatcher = .selecting ∧ eb' = { eb with dispatcher := .exited }) := by
  cases d <;> simp only [dispatcherStep] at h
  · split at h
    · rename_i event q hd hq
      obtain ⟨hb, hcap, hcl⟩ := Chan.recv?_eq_some_some hq
      cases h
      exact .inl ⟨event, q, rfl, hd, hb, hcap, hcl, rfl⟩
    · cases h
  all_goals
    split at h
    · cases h; exact .inr ⟨(‹_ ∧ _›).1, rfl⟩
    · cases h

theorem onAlertCall_eq {eb eb' : EventBus α σ} {n : Nat} (h : eb.onAlertCall n = some eb') :
    n < eb.notifications.length ∧ eb.notifyPhases n = .started ∧
      eb' = eb.setNotify n .inOnAlert := by
  unfold onAlertCall at h
  split at h
  · cases h; exact ⟨(‹_ ∧ _›).1, (‹_ ∧ _›).2, rfl⟩
  · cases h

theorem onAlertReturn_eq {eb eb' : EventBus α σ} {n : Nat} {failed : Bool}
    (h : eb.onAlertReturn n failed = some eb') :
    eb.notifyPhases n = .inOnAlert ∧ eb' = eb.setNotify n (.returned failed) := by
  unfold onAlertReturn at h
  split at h
  · cases h; exact ⟨‹_›, rfl⟩
  · cases h

theorem stopCall_eq {eb eb' : EventBus α σ} {i : Nat} (h : eb.stopCall i = some eb') :
    eb.stoppers i = .idle ∧ eb' = eb.setStopper i .closeStopCh := by
  unfold stopCall at h
  split at h
  · cases h; exact ⟨‹_›, rfl⟩
  · cases h

theorem stopStep_cases {eb eb' : EventBus α σ} {i : Nat} (h : eb.stopStep i = some eb') :
    (eb.stoppers i = .closeStopCh ∧ eb.stopChClosed = true ∧
      eb' = eb.setStopper i .panicked) ∨
    (eb.stoppers i = .closeStopCh ∧ eb.stopChClosed = false ∧
      eb' = { eb.setStopper i .waitDispatcher with stopChClosed := true }) ∨
    (eb.stoppers i = .waitDispatcher ∧ eb.dispatcher = .exited ∧
      eb' = eb.setStopper i .returned) := by
  unfold stopStep at h
  split at h <;> rename_i hs
  · split at h <;> cases h
    · exact .inl ⟨hs, ‹_›, rfl⟩
    · exact .inr (.inl ⟨hs, by simpa using ‹¬_ = true›, rfl⟩)
  · split at h <;> cases h
    exact .inr (.inr ⟨hs, ‹_›, rfl⟩)
  · cases h

/-- The buses that a started bus with `observers` subscribed can reach. -/
inductive Reachable (observers : List σ) : EventBus α σ → Prop where
  | init : Reachable observers (started observers)
  | step {eb eb' : EventBus α σ} (a : BusAction α σ) :
      Reachable observers eb → eb.step a = some eb' → Reachable observers eb'

/-- Replay a schedule; `none` as soon as an action is not enabled. -/
def run (eb : EventBus α σ) : List (BusAction α σ) → Option (EventBus α σ)
  | [] => some eb
  | a :: rest => (eb.step a).bind (run · rest)

theorem Reachable.run {observers : List σ} {eb eb' : EventBus α σ} :
    ∀ {schedule : List (BusAction α σ)}, Reachable observers eb →
      eb.run schedule = some eb' → Reachable observers eb'
  | [], h, hrun => by cases hrun; exact h
  | a :: rest, h, hrun => by
    simp only [EventBus.run, Option.bind_eq_some] at hrun
    obtain ⟨mid, hstep, hrest⟩ := hrun
    exact Reachable.run (h.step a hstep) hrest

/-- A schedule replayed from the started bus ends in a reachable state where `p` holds. -/
theorem Reachable.of_run (observers : List σ) (schedule : List (BusAction α σ))
    (p : EventBus α σ → Prop) [DecidablePred p]
    (h : ((started observers).run schedule).map (fun eb => decide (p eb)) = some true) :
    ∃ eb, Reachable observers eb ∧ p eb := by
  cases hr : (started observers : EventBus α σ).run schedule with
  | none => simp [hr] at h
  | some eb =>
    simp only [hr, Option.map_some', Option.some.injEq, decide_eq_true_eq] at h
    exact ⟨eb, Reachable.init.run hr, h⟩

end EventBus

end AlertPipeline
