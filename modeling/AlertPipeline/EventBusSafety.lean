import AlertPipeline.EventBus
import Mathlib.Data.List.Nodup

/-
The invariant of the event bus over every interleaving of `ProcessAlert` calls, the
dispatcher, the notification goroutines and `Stop` calls.  Each `ProcessAlert` call makes one
`Create` and, only when it succeeded, one `Publish`; the events the dispatcher receives are
the events `Publish` queued, in order; and `notifyObservers` has started exactly one goroutine
per observer for each of them, in that order.
-/

namespace AlertPipeline

namespace EventBus

variable {α σ : Type}

/-- The `Create` and `Publish` calls of one `ProcessAlert` call, at each of its phases. -/
def CallerLogs : ProcessPhase α → List (α × Bool) → List (AlertEvent α × Bool) → Prop
  | .idle, cs, ps => cs = [] ∧ ps = []
  | .create _, cs, ps => cs = [] ∧ ps = []
  | .publish a, cs, ps => cs = [(a, true)] ∧ ps = []
  | .returned a created, cs, ps =>
      cs = [(a, created)] ∧ if created then ∃ e b, ps = [(e, b)] ∧ e.alert = a else ps = []

/-- The events that `Publish` put into `eventChan`, in order. -/
def accepted (eb : EventBus α σ) : List (AlertEvent α) :=
  (eb.publishes.filter (·.2.2)).map (·.2.1)

/-- What holds in every bus a started bus reaches. -/
structure Inv (eb : EventBus α σ) : Prop where
  chan_open : eb.eventChan.closed = false
  fifo : eb.dispatched ++ eb.eventChan.buffer = eb.accepted
  ids : eb.publishes.map (·.2.1.id) = List.range eb.publishes.length
  notifications : eb.notifications = eb.dispatched.flatMap fun e => eb.observers.map (e, ·)
  fresh : ∀ n, eb.notifications.length ≤ n → eb.notifyPhases n = .started
  published_created : ∀ c e b, (c, e, b) ∈ eb.publishes → (c, e.alert, true) ∈ eb.creates
  callers : ∀ c, CallerLogs (eb.callers c) (eb.createsOf c) (eb.publishesOf c)
  stop_closed : ∀ i, eb.stoppers i = .waitDispatcher ∨ eb.stoppers i = .returned →
    eb.stopChClosed = true
  stop_waited : ∀ i, eb.stoppers i = .returned → eb.dispatcher = .exited

theorem inv_started (observers : List σ) : Inv (started observers : EventBus α σ) where
  chan_open := rfl
  fifo := rfl
  ids := rfl
  notifications := rfl
  fresh _ _ := rfl
  published_created _ _ _ h := by simp [started] at h
  callers _ := ⟨rfl, rfl⟩
  stop_closed i h := by simp [started] at h
  stop_waited i h := by simp [started] at h

/-- Appending one call of slot `c` to a log extends the calls of slot `c` only. -/
theorem filter_map_append_single {β : Type} (l : List (Nat × β)) (c c' : Nat) (x : β) :
    ((l ++ [(c, x)]).filter fun y => y.1 = c').map (·.2) =
      (l.filter fun y => y.1 = c').map (·.2) ++ if c = c' then [x] else [] := by
  by_cases h : c = c' <;> simp [List.filter_append, h]

theorem mem_creates_of_createsOf {eb : EventBus α σ} {c : Nat} {a : α} {ok : Bool}
    (h : (a, ok) ∈ eb.createsOf c) : (c, a, ok) ∈ eb.creates := by
  simp only [createsOf, List.mem_map, List.mem_filter, decide_eq_true_eq] at h
  obtain ⟨⟨c', a', ok'⟩, ⟨hmem, rfl⟩, heq⟩ := h
  cases heq
  exact hmem

/-- Moving one `ProcessAlert` call to `p` while its logs become `cs` and `ps`. -/
theorem callerLogs_update {eb : EventBus α σ} (h : Inv eb) {c : Nat} {p : ProcessPhase α}
    {creates : List (Nat × α × Bool)} {publishes : List (Nat × AlertEvent α × Bool)}
    (hcs : ∀ c', c' ≠ c → (creates.filter fun y => y.1 = c').map (·.2) = eb.createsOf c')
    (hps : ∀ c', c' ≠ c → (publishes.filter fun y => y.1 = c').map (·.2) = eb.publishesOf c')
    (hc : CallerLogs p ((creates.filter fun y => y.1 = c).map (·.2))
      ((publishes.filter fun y => y.1 = c).map (·.2))) (c' : Nat) :
    CallerLogs (Function.update eb.callers c p c')
      ((creates.filter fun y => y.1 = c').map (·.2))
      ((publishes.filter fun y => y.1 = c').map (·.2)) := by
  by_cases hc' : c' = c
  · subst hc'; simpa using hc
  · rw [Function.update_noteq hc', hcs c' hc', hps c' hc']; exact h.callers c'

theorem Inv.processAlertCall {eb eb' : EventBus α σ} (h : Inv eb) {c : Nat} {alert : α}
    (hs : eb.processAlertCall c alert = some eb') : Inv eb' := by
  obtain ⟨hidle, rfl⟩ := processAlertCall_eq hs
  refine { h with callers := ?_ }
  have := h.callers c
  rw [hidle] at this
  exact callerLogs_update h (fun _ _ => rfl) (fun _ _ => rfl) this

theorem Inv.createStep {eb eb' : EventBus α σ} (h : Inv eb) {c : Nat} {ok : Bool}
    (hs : eb.createStep c ok = some eb') : Inv eb' := by
  obtain ⟨alert, hcr, rfl⟩ := createStep_eq hs
  have hc := h.callers c
  rw [hcr] at hc
  refine { h with
    published_created := fun c' e b he => List.mem_append_left _ (h.published_created c' e b he)
    callers := ?_ }
  refine callerLogs_update h (fun c' hc' => ?_) (fun _ _ => rfl) ?_
  · rw [filter_map_append_single, if_neg (Ne.symm hc'), List.append_nil]; rfl
  · rw [filter_map_append_single]
    change CallerLogs _ (eb.createsOf c ++ _) (eb.publishesOf c)
    rw [hc.1, hc.2]
    cases ok <;> simp [CallerLogs]

/-- The logs after slot `c` publishes `event`, its `Publish` call queued it or not. -/
theorem Inv.published {eb : EventBus α σ} (h : Inv eb) {c : Nat} {alert : α}
    (hc : eb.callers c = .publish alert) (event : AlertEvent α) (halert : event.alert = alert)
    (b : Bool) :
    (∀ c' e b', (c', e, b') ∈ eb.publishes ++ [(c, event, b)] → (c', e.alert, true) ∈ eb.creates) ∧
    ∀ c', CallerLogs (Function.update eb.callers c (.returned alert true) c') (eb.createsOf c')
      (((eb.publishes ++ [(c, event, b)]).filter fun y => y.1 = c').map (·.2)) := by
  have hl := h.callers c
  rw [hc] at hl
  refine ⟨fun c' e b' he => ?_, callerLogs_update h (fun _ _ => rfl) (fun c' hc' => ?_) ?_⟩
  · rcases List.mem_append.mp he with he | he
    · exact h.published_created c' e b' he
    · simp only [List.mem_singleton, Prod.mk.injEq] at he
      obtain ⟨rfl, rfl, -⟩ := he
      exact halert ▸ mem_creates_of_createsOf (hl.1 ▸ List.mem_singleton_self _)
  · rw [filter_map_append_single, if_neg (Ne.symm hc'), List.append_nil]; rfl
  · rw [filter_map_append_single]
    change CallerLogs _ (eb.createsOf c) (eb.publishesOf c ++ _)
    rw [hl.1, hl.2]
    exact ⟨rfl, event, b, by simp, halert⟩

theorem Inv.publishStep {eb eb' : EventBus α σ} (h : Inv eb) {c : Nat} {now : Int}
    (hs : eb.publishStep c now = some eb') : Inv eb' := by
  obtain ⟨alert, hc, ⟨-, rfl⟩ | rfl⟩ := publishStep_cases hs <;>
  · refine { h with
      fifo := ?_
      ids := ?_
      published_created := (h.published hc _ rfl _).1
      callers := (h.published hc _ rfl _).2 }
    · have hf := h.fifo
      simp only [accepted] at hf ⊢
      simp [List.filter_append, ← hf]
    · simp [List.range_succ, h.ids]

theorem Inv.dispatcherStep {eb eb' : EventBus α σ} (h : Inv eb) {d : DispatcherCase}
    (hs : eb.dispatcherStep d = some eb') : Inv eb' := by
  rcases dispatcherStep_cases hs with ⟨event, ⟨qb, qc, qcl⟩, -, -, hb, hcap, hcl, rfl⟩ | ⟨-, rfl⟩
  · simp only at hcap hcl
    subst hcap hcl
    refine { h with fifo := ?_, notifications := ?_, fresh := fun n hn => h.fresh n ?_ }
    · simpa [notifyObservers, ← hb] using h.fifo
    · simp [notifyObservers, h.notifications]
    · simp only [notifyObservers, List.length_append] at hn; omega
  · exact { h with stop_waited := fun _ _ => rfl }

theorem Inv.setNotify {eb : EventBus α σ} (h : Inv eb) {n : Nat}
    (hn : n < eb.notifications.length) (p : NotifyPhase) : Inv (eb.setNotify n p) := by
  refine { h with fresh := fun m hm => ?_ }
  simp only [setNotify_notifications] at hm
  rw [setNotify_notifyPhases, Function.update_noteq (by omega)]
  exact h.fresh m hm

/-- Moving stopper `i` to `p` keeps the invariant when the bus already has what `p` needs:
`stopCh` closed once `p` is past the close, and the dispatcher gone once `p` returned. -/
theorem Inv.setStopper {eb : EventBus α σ} (h : Inv eb) (i : Nat) {p : BusStopPhase}
    (hclosed : p = .waitDispatcher ∨ p = .returned → eb.stopChClosed = true)
    (hwaited : p = .returned → eb.dispatcher = .exited) : Inv (eb.setStopper i p) := by
  refine { h with stop_closed := fun j hj => ?_, stop_waited := fun j hj => ?_ } <;>
    rw [setStopper_stoppers, Function.update_apply] at hj <;> split_ifs at hj
  · exact hclosed hj
  · exact h.stop_closed j hj
  · exact hwaited hj
  · exact h.stop_waited j hj

theorem Inv.step {eb eb' : EventBus α σ} (h : Inv eb) {a : BusAction α σ}
    (hs : eb.step a = some eb') : Inv eb' := by
  cases a with
  | processAlert c alert => exact h.processAlertCall hs
  | create c ok => exact h.createStep hs
  | publish c now => exact h.publishStep hs
  | dispatcher d => exact h.dispatcherStep hs
  | onAlert n =>
    obtain ⟨hn, -, rfl⟩ := onAlertCall_eq hs
    exact h.setNotify hn _
  | onAlertReturns n failed =>
    obtain ⟨hn, rfl⟩ := onAlertReturn_eq hs
    refine h.setNotify (Nat.lt_of_not_le fun hle => ?_) _
    simp [h.fresh n hle] at hn
  | stop i =>
    obtain ⟨-, rfl⟩ := stopCall_eq hs
    exact h.setStopper i (by simp) (by simp)
  | stopStep i =>
    rcases stopStep_cases hs with ⟨-, -, rfl⟩ | ⟨-, -, rfl⟩ | ⟨hw, hd, rfl⟩
    · exact h.setStopper i (by simp) (by simp)
    · exact (show Inv { eb with stopChClosed := true } from
        { h with stop_closed := fun _ _ => rfl }).setStopper i (fun _ => rfl) (by simp)
    · exact h.setStopper i (fun _ => h.stop_closed i (.inl hw)) (fun _ => hd)
  | cancel => cases hs; exact { h with }

theorem Reachable.inv {observers : List σ} {eb : EventBus α σ} (h : Reachable observers eb) :
    Inv eb := by
  induction h with
  | init => exact inv_started observers
  | step a _ hs ih => exact ih.step hs

/-! ### Consequences -/

theorem step_observers {eb eb' : EventBus α σ} {a : BusAction α σ}
    (hs : eb.step a = some eb') : eb'.observers = eb.observers := by
  cases a with
  | processAlert => obtain ⟨-, rfl⟩ := processAlertCall_eq hs; rfl
  | create => obtain ⟨_, -, rfl⟩ := createStep_eq hs; rfl
  | publish => obtain ⟨_, -, ⟨-, rfl⟩ | rfl⟩ := publishStep_cases hs <;> rfl
  | dispatcher =>
    rcases dispatcherStep_cases hs with ⟨_, _, -, -, -, -, -, rfl⟩ | ⟨-, rfl⟩ <;> rfl
  | onAlert => obtain ⟨-, -, rfl⟩ := onAlertCall_eq hs; rfl
  | onAlertReturns => obtain ⟨-, rfl⟩ := onAlertReturn_eq hs; rfl
  | stop => obtain ⟨-, rfl⟩ := stopCall_eq hs; rfl
  | stopStep => rcases stopStep_cases hs with ⟨-, -, rfl⟩ | ⟨-, -, rfl⟩ | ⟨-, -, rfl⟩ <;> rfl
  | cancel => cases hs; rfl

theorem Reachable.observers_eq {observers : List σ} {eb : EventBus α σ}
    (h : Reachable observers eb) : eb.observers = observers := by
  induction h with
  | init => rfl
  | step a _ hs ih => exact (step_observers hs).trans ih

/-- A notification goroutine that called `OnAlert` never calls it again. -/
theorem step_keeps_called {eb eb' : EventBus α σ} {a : BusAction α σ}
    (hs : eb.step a = some eb') {n : Nat} (hn : eb.notifyPhases n ≠ .started) :
    eb'.notifyPhases n ≠ .started := by
  cases a with
  | processAlert => obtain ⟨-, rfl⟩ := processAlertCall_eq hs; exact hn
  | create => obtain ⟨_, -, rfl⟩ := createStep_eq hs; exact hn
  | publish => obtain ⟨_, -, ⟨-, rfl⟩ | rfl⟩ := publishStep_cases hs <;> exact hn
  | dispatcher =>
    rcases dispatcherStep_cases hs with ⟨_, _, -, -, -, -, -, rfl⟩ | ⟨-, rfl⟩ <;> exact hn
  | onAlert m =>
    obtain ⟨-, -, rfl⟩ := onAlertCall_eq hs
    by_cases hnm : n = m
    · subst hnm; simp
    · simpa [Function.update_noteq hnm] using hn
  | onAlertReturns m =>
    obtain ⟨-, rfl⟩ := onAlertReturn_eq hs
    by_cases hnm : n = m
    · subst hnm; simp
    · simpa [Function.update_noteq hnm] using hn
  | stop => obtain ⟨-, rfl⟩ := stopCall_eq hs; exact hn
  | stopStep => rcases stopStep_cases hs with ⟨-, -, rfl⟩ | ⟨-, -, rfl⟩ | ⟨-, -, rfl⟩ <;> exact hn
  | cancel => cases hs; exact hn

theorem Inv.accepted_nodup {eb : EventBus α σ} (h : Inv eb) : eb.accepted.Nodup := by
  have hids : ((eb.publishes.map (·.2.1)).map AlertEvent.id).Nodup := by
    rw [List.map_map]; exact h.ids ▸ List.nodup_range _
  exact (hids.of_map _).sublist ((List.filter_sublist _).map _)

theorem Inv.dispatched_nodup {eb : EventBus α σ} (h : Inv eb) : eb.dispatched.Nodup :=
  (h.fifo ▸ h.accepted_nodup).sublist (List.sublist_append_left _ _)

theorem Inv.notifications_nodup {eb : EventBus α σ} (h : Inv eb) (hobs : eb.observers.Nodup) :
    eb.notifications.Nodup := by
  rw [h.notifications, List.nodup_flatMap]
  refine ⟨fun e _ => hobs.map fun s t hst => by simpa using hst, ?_⟩
  refine h.dispatched_nodup.imp fun hne x hx hx' => ?_
  simp only [List.mem_map] at hx hx'
  obtain ⟨s, -, rfl⟩ := hx
  obtain ⟨t, -, ht⟩ := hx'
  exact hne (congrArg Prod.fst ht).symm

/-- A dispatched event came from a `Publish` whose `ProcessAlert` call had created its
alert. -/
theorem Inv.dispatched_created {eb : EventBus α σ} (h : Inv eb) {e : AlertEvent α}
    (he : e ∈ eb.dispatched) :
    ∃ c b, (c, e, b) ∈ eb.publishes ∧ (c, e.alert, true) ∈ eb.creates := by
  have hacc : e ∈ eb.accepted := h.fifo ▸ List.mem_append_left _ he
  simp only [accepted, List.mem_map, List.mem_filter] at hacc
  obtain ⟨⟨c, e', b⟩, ⟨hmem, -⟩, rfl⟩ := hacc
  exact ⟨c, b, hmem, h.published_created c e' b hmem⟩

/-- The delivery guarantees of `ProcessAlert` and the bus at one reachable state. -/
structure Delivery (eb : EventBus α σ) : Prop where
  /-- A `ProcessAlert(a)` call that returned made exactly one `Create(a)`; it returned
  `(true, nil)` and made exactly one `Publish` iff that `Create` succeeded. -/
  process_alert : ∀ c a created, eb.callers c = .returned a created →
    eb.createsOf c = [(a, created)] ∧ (eb.publishesOf c).length = if created then 1 else 0
  /-- Every `Publish` follows a successful `Create` of its alert in the same call. -/
  publish_after_create : ∀ c e b, (c, e, b) ∈ eb.publishes → (c, e.alert, true) ∈ eb.creates
  /-- Every `OnAlert` call carries an event whose alert was created. -/
  onAlert_created : ∀ n (hn : n < eb.notifications.length), eb.notifyPhases n ≠ .started →
    ∃ c b, (c, eb.notifications[n].1, b) ∈ eb.publishes ∧
      (c, eb.notifications[n].1.alert, true) ∈ eb.creates
  /-- One goroutine per dequeued event and subscribed sink, in dequeue order. -/
  notifications_eq : eb.notifications = eb.dispatched.flatMap fun e => eb.observers.map (e, ·)
  every_sink : ∀ e ∈ eb.dispatched, ∀ s ∈ eb.observers, (e, s) ∈ eb.notifications
  /-- No two goroutines carry the same event to the same sink. -/
  no_duplicate : eb.notifications.Nodup
  /-- A goroutine calls `OnAlert` at most once. -/
  called_once : ∀ a eb' n, eb.step a = some eb' → eb.notifyPhases n ≠ .started →
    eb'.notifyPhases n ≠ .started
  /-- The dispatcher takes the next queued event whatever the sinks are doing. -/
  dispatcher_moves_on : eb.dispatcher = .selecting → eb.eventChan.buffer ≠ [] →
    (eb.step (.dispatcher .eventChan)).isSome
  /-- Each goroutine can call its sink whatever the other sinks are doing. -/
  sink_independent : ∀ n, n < eb.notifications.length → eb.notifyPhases n = .started →
    (eb.step (.onAlert n)).isSome

theorem delivery_guarantees {observers : List σ} (hobs : observers.Nodup) {eb : EventBus α σ}
    (h : Reachable observers eb) : Delivery eb := by
  have hi := h.inv
  refine ⟨fun c a created hc => ?_, hi.published_created, fun n hn _ => ?_, hi.notifications,
    fun e he s hs => ?_, hi.notifications_nodup (h.observers_eq ▸ hobs),
    fun a eb' n hs => step_keeps_called hs, fun hd hb => ?_, fun n hn hp => ?_⟩
  · have hl := hi.callers c
    rw [hc] at hl
    obtain ⟨h1, h2⟩ := hl
    refine ⟨h1, ?_⟩
    cases created
    · simp only [Bool.false_eq_true, ↓reduceIte] at h2; simp [h2]
    · obtain ⟨e, b, hps, -⟩ := h2; simp [hps]
  · obtain ⟨p, hp⟩ : ∃ p, eb.notifications[n] = p := ⟨_, rfl⟩
    have hmem : p ∈ eb.notifications := hp ▸ List.getElem_mem hn
    rw [hi.notifications, List.mem_flatMap] at hmem
    obtain ⟨e, he, hmem⟩ := hmem
    obtain ⟨s, -, rfl⟩ := List.mem_map.mp hmem
    rw [hp]
    exact hi.dispatched_created he
  · rw [hi.notifications, List.mem_flatMap]
    exact ⟨e, he, List.mem_map_of_mem _ hs⟩
  · obtain ⟨e, rest, hbr⟩ := List.exists_cons_of_ne_nil hb
    simp [step, dispatcherStep, Chan.recv?, hd, hbr]
  · simp [step, onAlertCall, hn, hp]

/-- Two sinks: slot `0`'s `Create` fails, slot `1`'s succeeds and its event is queued; the
dispatcher takes it and starts one goroutine per sink; sink `0`'s `OnAlert` returns an
error while sink `1`'s is still running. -/
def twoSinks : List (BusAction Nat Nat) :=
  [.processAlert 0 10, .create 0 false, .processAlert 1 11, .create 1 true, .publish 1 7,
    .dispatcher .eventChan, .onAlert 0, .onAlertReturns 0 true, .onAlert 1]

theorem delivery_guarantees_two_sinks :
    [0, 1].Nodup ∧ ∃ eb : EventBus Nat Nat, Reachable [0, 1] eb ∧
      eb.callers 0 = .returned 10 false ∧ eb.callers 1 = .returned 11 true ∧
      eb.dispatched.map (·.alert) = [11] ∧ eb.notifyPhases 0 = .returned true ∧
      eb.notifyPhases 1 = .inOnAlert ∧ Delivery eb := by
  obtain ⟨eb, hr, h0, h1, hd, hn0, hn1⟩ := Reachable.of_run [0, 1] twoSinks
    (fun eb : EventBus Nat Nat => eb.callers 0 = .returned 10 false ∧
      eb.callers 1 = .returned 11 true ∧ eb.dispatched.map (·.alert) = [11] ∧
      eb.notifyPhases 0 = .returned true ∧ eb.notifyPhases 1 = .inOnAlert) (by decide)
  exact ⟨by decide, eb, hr, h0, h1, hd, hn0, hn1, delivery_guarantees (by decide) hr⟩

end EventBus

end AlertPipeline
