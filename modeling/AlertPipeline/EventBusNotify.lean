import AlertPipeline.EventBusSafety

/-
What the bus does not promise.  `notifyObservers` starts a goroutine per observer and
returns at once, so one sink's `OnAlert` calls are started in dequeue order but may overlap
and run out of order.  `Stop` closes `stopCh` with no guard and waits only for the
dispatcher, so a second `Stop` panics and a running `OnAlert` outlives `Stop`.
-/

namespace AlertPipeline

namespace EventBus

variable {α σ : Type}

/-- The goroutines started for one subscribed sink carry the dequeued events in dequeue
order, and the dispatcher dequeues events in the order `Publish` queued them. -/
theorem sink_notifications_in_dispatch_order [DecidableEq σ] {observers : List σ}
    (hobs : observers.Nodup) {eb : EventBus α σ} (h : Reachable observers eb) {s : σ}
    (hs : s ∈ observers) :
    (eb.notifications.filter fun p => p.2 = s).map (·.1) = eb.dispatched ∧
      eb.dispatched ++ eb.eventChan.buffer = eb.accepted := by
  have hi := h.inv
  have hone : observers.filter (· = s) = [s] := by
    rw [List.filter_eq, List.count_eq_one_of_mem hobs hs]; rfl
  refine ⟨?_, hi.fifo⟩
  rw [hi.notifications, h.observers_eq, List.filter_flatMap, List.map_flatMap]
  conv_rhs => rw [← List.flatMap_singleton' eb.dispatched]
  congr 1
  funext e
  simp only [List.filter_map, List.map_map]
  have hcomp : ((fun p : AlertEvent α × σ => decide (p.2 = s)) ∘ (e, ·)) =
      fun t => decide (t = s) := rfl
  rw [hcomp, hone]
  rfl

/-- Two alerts created and published by two workers; the dispatcher takes both events
before the goroutine for the first one has run, and the goroutine for the second calls the
sink first. -/
def laterEventFirst : List (BusAction Nat Nat) :=
  [.processAlert 0 10, .create 0 true, .publish 0 1, .processAlert 1 11, .create 1 true,
    .publish 1 2, .dispatcher .eventChan, .dispatcher .eventChan, .onAlert 1]

/-- Two events are dequeued, in the order they were queued, and sink `0` is inside the
`OnAlert` call for the second one. -/
theorem sink_notifications_in_dispatch_order_two_events :
    [0].Nodup ∧ 0 ∈ [0] ∧ ∃ eb : EventBus Nat Nat, Reachable [0] eb ∧
      eb.dispatched.map (·.id) = [0, 1] ∧ eb.notifyPhases 1 = .inOnAlert ∧
      ((eb.notifications.filter fun p => p.2 = 0).map (·.1) = eb.dispatched ∧
        eb.dispatched ++ eb.eventChan.buffer = eb.accepted) := by
  obtain ⟨eb, hr, hd, hp⟩ := Reachable.of_run [0] laterEventFirst
    (fun eb : EventBus Nat Nat => eb.dispatched.map (·.id) = [0, 1] ∧
      eb.notifyPhases 1 = .inOnAlert) (by decide)
  exact ⟨by decide, by decide, eb, hr, hd, hp,
    sink_notifications_in_dispatch_order (by decide) hr (by decide)⟩

/-- Sink `0` is inside `OnAlert` for the second dequeued event while its `OnAlert` for the
first one has not even been called. -/
theorem sink_sees_later_event_first :
    ∃ eb : EventBus Nat Nat, Reachable [0] eb ∧
      eb.dispatched.map (·.id) = [0, 1] ∧
      eb.notifications.map (fun p => (p.1.id, p.2)) = [(0, 0), (1, 0)] ∧
      eb.notifyPhases 0 = .started ∧ eb.notifyPhases 1 = .inOnAlert :=
  Reachable.of_run [0] laterEventFirst _ (by decide)

/-- Every `Stop` call that returns has seen the dispatcher leave: `stopCh` is closed and no
notification goroutine will be started any more. -/
theorem stop_returns_after_dispatcher {observers : List σ} {eb : EventBus α σ}
    (h : Reachable observers eb) {i : Nat} (hi : eb.stoppers i = .returned) :
    eb.dispatcher = .exited ∧ eb.stopChClosed = true ∧
      ∀ a eb', eb.step a = some eb' → eb'.notifications = eb.notifications := by
  have hd := h.inv.stop_waited i hi
  refine ⟨hd, h.inv.stop_closed i (.inr hi), fun a eb' hs => ?_⟩
  cases a with
  | processAlert => obtain ⟨-, rfl⟩ := processAlertCall_eq hs; rfl
  | create => obtain ⟨_, -, rfl⟩ := createStep_eq hs; rfl
  | publish => obtain ⟨_, -, ⟨-, rfl⟩ | rfl⟩ := publishStep_cases hs <;> rfl
  | dispatcher =>
    rcases dispatcherStep_cases hs with ⟨_, _, -, hsel, -⟩ | ⟨hsel, -⟩ <;> simp [hd] at hsel
  | onAlert => obtain ⟨-, -, rfl⟩ := onAlertCall_eq hs; rfl
  | onAlertReturns => obtain ⟨-, rfl⟩ := onAlertReturn_eq hs; rfl
  | stop => obtain ⟨-, rfl⟩ := stopCall_eq hs; rfl
  | stopStep => rcases stopStep_cases hs with ⟨-, -, rfl⟩ | ⟨-, -, rfl⟩ | ⟨-, -, rfl⟩ <;> rfl
  | cancel => cases hs; rfl

/-- A slow sink: the dispatcher starts its goroutine, which enters `OnAlert`; `Stop` then
closes `stopCh`, the dispatcher leaves and `Stop` returns. -/
def stopDuringOnAlert : List (BusAction Nat Nat) :=
  [.processAlert 0 10, .create 0 true, .publish 0 1, .dispatcher .eventChan, .onAlert 0,
    .stop 0, .stopStep 0, .dispatcher .stopCh, .stopStep 0]

/-- `Stop` has returned while the sink's `OnAlert` call is still running: the dispatcher has
left and no goroutine will be started any more. -/
theorem stop_returns_after_dispatcher_onAlert_running :
    ∃ eb : EventBus Nat Nat, Reachable [0] eb ∧ eb.stoppers 0 = .returned ∧
      eb.notifyPhases 0 = .inOnAlert ∧ (eb.dispatcher = .exited ∧ eb.stopChClosed = true ∧
        ∀ a eb', eb.step a = some eb' → eb'.notifications = eb.notifications) := by
  obtain ⟨eb, hr, hs, hn⟩ := Reachable.of_run [0] stopDuringOnAlert
    (fun eb : EventBus Nat Nat => eb.stoppers 0 = .returned ∧ eb.notifyPhases 0 = .inOnAlert)
    (by decide)
  exact ⟨eb, hr, hs, hn, stop_returns_after_dispatcher hr hs⟩

/-- One `Stop` call, run to its end on an idle bus with one sink. -/
def stopOnce : List (BusAction Nat Nat) :=
  [.stop 0, .stopStep 0, .dispatcher .stopCh, .stopStep 0]

/-- A second `Stop` call after the first returned panics on `close(eb.stopCh)`; and a `Stop`
call returns while an `OnAlert` call the dispatcher started is still running. -/
theorem bus_stop_twice_panics_and_leaves_onAlert_running :
    (∃ eb : EventBus Nat Nat, Reachable [0] eb ∧ eb.stoppers 0 = .returned ∧
      eb.stoppers 1 = .panicked) ∧
    (∃ eb : EventBus Nat Nat, Reachable [0] eb ∧ eb.stoppers 0 = .returned ∧
      eb.notifyPhases 0 = .inOnAlert) :=
  ⟨Reachable.of_run [0] (stopOnce ++ [.stop 1, .stopStep 1]) _ (by decide),
    Reachable.of_run [0] stopDuringOnAlert _ (by decide)⟩

end EventBus

end AlertPipeline
