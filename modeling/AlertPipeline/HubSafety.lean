import Mathlib.Data.List.Nodup
import AlertPipeline.Hub

/-
The client set of the hub.  `Run` is the only goroutine that writes `h.clients`, in its
`register` and `unregister` cases, so the set is the clients whose register it has processed
and whose unregister it has not, and a connection is closed exactly when its client leaves
the set.  Nothing else receives on `register` or `unregister`: once `Run` has returned, or
while it sends on its own `unregister` after a failed write, no register, unregister or
broadcast is ever processed again.
-/

namespace AlertPipeline

/-- `Run` can never again reach its `select`: it returned, or it is sending on the
unbuffered `unregister` channel that only its own `select` receives from. -/
def RunPhase.blocked {μ : Type} : RunPhase μ → Bool
  | .returned | .unregistering .. => true
  | _ => false

namespace Hub

variable {μ : Type}

/-- The part of the hub only `Run` changes: where it is, the client map, and the logs of the
registers, unregisters, closes and writes it did. -/
def runView (h : Hub μ) :
    RunPhase μ × List Nat × List Nat × List Nat × List Nat × List (Nat × μ) :=
  (h.runPhase, h.clients, h.registered, h.unregistered, h.closed, h.writes)

/-- The lifecycle of client `k`: `ServeWS` registers it before starting its reader, and the
reader's deferred `Unregister` is the only unregister of it. -/
structure Inv (h : Hub μ) : Prop where
  clients_iff : ∀ c, c ∈ h.clients ↔ c ∈ h.registered ∧ c ∉ h.unregistered
  clients_nodup : h.clients.Nodup
  unregistered_nodup : h.unregistered.Nodup
  closed_eq : h.closed = h.unregistered
  registered_iff : ∀ k, k ∈ h.registered ↔ h.serves k = .spawn ∨ h.readers k ≠ .idle
  unregistered_iff : ∀ k, k ∈ h.unregistered ↔ h.readers k = .exited
  reader_started : ∀ k, h.readers k ≠ .idle → h.serves k = .returned

/-- A reader exists only once its `ServeWS` call has returned. -/
theorem Inv.readers_idle {h : Hub μ} (hi : Inv h) (k : Nat) (hk : h.serves k ≠ .returned) :
    h.readers k = .idle :=
  by_contra fun hr => hk (hi.reader_started k hr)

theorem inv_running : Inv (running : Hub μ) where
  clients_iff := by simp [running]
  clients_nodup := .nil
  unregistered_nodup := .nil
  closed_eq := rfl
  registered_iff := by simp [running]
  unregistered_iff := by simp [running]
  reader_started := by simp [running]

/-- A step of `ServeWS` before its register, or of `Upgrade`, touches only its own slot. -/
theorem Inv.setServe_unregistered {h : Hub μ} (hi : Inv h) {k : Nat} {p : ServePhase}
    (hk : h.serves k ≠ .spawn ∧ h.serves k ≠ .returned) (hp : p ≠ .spawn) :
    Inv (h.setServe k p) := by
  have hr := hi.readers_idle k hk.2
  refine { hi with
    registered_iff := fun j => ?_
    reader_started := fun j => ?_ } <;> by_cases he : j = k
  · subst he; simpa [hr, hp, hk.1] using hi.registered_iff j
  · simpa [Function.update_noteq he] using hi.registered_iff j
  · subst he; simp [hr]
  · simpa [Function.update_noteq he] using hi.reader_started j

theorem Inv.spawnStep {h h' : Hub μ} (hi : Inv h) {k : Nat} (hs : h.spawnStep k = some h') :
    Inv h' := by
  obtain ⟨hk, rfl⟩ := spawnStep_eq hs
  have hr := hi.readers_idle k (by simp [hk])
  refine { hi with
    registered_iff := fun j => ?_
    unregistered_iff := fun j => ?_
    reader_started := fun j => ?_ } <;> by_cases he : j = k
  · subst he; simpa [hk] using hi.registered_iff j
  · simpa [Function.update_noteq he] using hi.registered_iff j
  · subst he; simpa [hr] using hi.unregistered_iff j
  · simpa [Function.update_noteq he] using hi.unregistered_iff j
  · subst he; simp
  · simpa [Function.update_noteq he] using hi.reader_started j

theorem Inv.readStep {h h' : Hub μ} (hi : Inv h) {k : Nat} {keepsReading : Bool}
    (hs : h.readStep k keepsReading = some h') : Inv h' := by
  obtain ⟨hk, rfl⟩ := readStep_eq hs
  refine { hi with
    registered_iff := fun j => ?_
    unregistered_iff := fun j => ?_
    reader_started := fun j => ?_ } <;> by_cases he : j = k
  · subst he; split <;> simpa [hk] using hi.registered_iff j
  · simpa [Function.update_noteq he] using hi.registered_iff j
  · subst he; split <;> simpa [hk] using hi.unregistered_iff j
  · simpa [Function.update_noteq he] using hi.unregistered_iff j
  · subst he; simp [hi.reader_started j (by simp [hk])]
  · simpa [Function.update_noteq he] using hi.reader_started j

theorem Inv.recvRegisterStep {h h' : Hub μ} (hi : Inv h) {k : Nat}
    (hs : h.recvRegisterStep k = some h') : Inv h' := by
  obtain ⟨-, hk, rfl⟩ := recvRegisterStep_eq hs
  have hr := hi.readers_idle k (by simp [hk])
  have hreg : k ∉ h.registered := by simp [hi.registered_iff, hk, hr]
  have hunreg : k ∉ h.unregistered := by simp [hi.unregistered_iff, hr]
  have hcl : k ∉ h.clients := by simp [hi.clients_iff, hreg]
  refine { hi with
    clients_iff := fun c => ?_
    clients_nodup := ?_
    registered_iff := fun j => ?_
    reader_started := fun j => ?_ }
  · by_cases he : c = k
    · subst he; simp [hcl, hunreg]
    · simpa [hcl, he] using hi.clients_iff c
  · simp [hcl, List.nodup_append, hi.clients_nodup]
  · by_cases he : j = k
    · subst he; simp
    · simpa [Function.update_noteq he, he] using hi.registered_iff j
  · by_cases he : j = k
    · subst he; simp [hr]
    · simpa [Function.update_noteq he] using hi.reader_started j

theorem Inv.recvUnregisterStep {h h' : Hub μ} (hi : Inv h) {k : Nat}
    (hs : h.recvUnregisterStep k = some h') : Inv h' := by
  obtain ⟨-, hk, rfl⟩ := recvUnregisterStep_eq hs
  have hunreg : k ∉ h.unregistered := by simp [hi.unregistered_iff, hk]
  have hcl : k ∈ h.clients := by simp [hi.clients_iff, hi.registered_iff, hk, hunreg]
  refine { hi with
    clients_iff := fun c => ?_
    clients_nodup := hi.clients_nodup.erase k
    unregistered_nodup := ?_
    closed_eq := by simp [hcl, hi.closed_eq]
    registered_iff := fun j => ?_
    unregistered_iff := fun j => ?_
    reader_started := fun j => ?_ } <;> try by_cases he : j = k
  · rw [hi.clients_nodup.mem_erase_iff, hi.clients_iff]
    simp only [List.mem_append, List.mem_singleton, not_or]
    exact and_rotate
  · simp [hunreg, List.nodup_append, hi.unregistered_nodup]
  · subst he; simpa [hk] using hi.registered_iff j
  · simpa [Function.update_noteq he] using hi.registered_iff j
  · subst he; simp
  · simpa [Function.update_noteq he, he] using hi.unregistered_iff j
  · subst he; simp [hi.reader_started j (by simp [hk])]
  · simpa [Function.update_noteq he] using hi.reader_started j

theorem Inv.step {h h' : Hub μ} (hi : Inv h) {a : HubAction μ} (hs : h.step a = some h') :
    Inv h' := by
  cases a with
  | serveWS =>
    obtain ⟨hk, rfl⟩ := serveWSCall_eq hs
    exact hi.setServe_unregistered (by simp [hk]) (by simp)
  | upgrade =>
    obtain ⟨hk, rfl⟩ := upgradeStep_eq hs
    exact hi.setServe_unregistered (by simp [hk]) (by split <;> simp)
  | spawn => exact hi.spawnStep hs
  | read => exact hi.readStep hs
  | tick => obtain ⟨p, rfl⟩ := tickStep_eq hs; exact { hi with }
  | broadcast => rcases broadcastStep_cases hs with ⟨_, -, rfl⟩ | rfl <;> exact { hi with }
  | recvRegister => exact hi.recvRegisterStep hs
  | recvUnregister => exact hi.recvUnregisterStep hs
  | recvBroadcast => obtain ⟨_, _, -, rfl⟩ := recvBroadcastStep_eq hs; exact { hi with }
  | write => obtain ⟨_, _, _, -, rfl | rfl⟩ := writeStep_cases hs <;> exact { hi with }
  | recvDone => obtain ⟨-, rfl⟩ := recvDoneStep_eq hs; exact { hi with }
  | cancel => cases hs; exact { hi with }

theorem Reachable.inv {h : Hub μ} (hr : Reachable h) : Inv h := by
  induction hr with
  | init => exact inv_running
  | step _ _ hs ih => exact ih.step hs

/-- A connection is closed only by `Run`'s `unregister` case, for a client it removes. -/
theorem step_closed {h h' : Hub μ} (hi : Inv h) {a : HubAction μ} (hs : h.step a = some h') :
    h'.closed = h.closed ∨ ∃ c, c ∈ h.clients ∧ c ∉ h'.clients ∧ h'.closed = h.closed ++ [c] := by
  cases a with
  | recvUnregister k =>
    obtain ⟨-, -, rfl⟩ := recvUnregisterStep_eq hs
    by_cases hk : k ∈ h.clients
    · exact .inr ⟨k, hk, hi.clients_nodup.not_mem_erase, by simp [hk]⟩
    · exact .inl (by simp [hk])
  | serveWS => obtain ⟨-, rfl⟩ := serveWSCall_eq hs; exact .inl rfl
  | upgrade => obtain ⟨-, rfl⟩ := upgradeStep_eq hs; exact .inl rfl
  | spawn => obtain ⟨-, rfl⟩ := spawnStep_eq hs; exact .inl rfl
  | read => obtain ⟨-, rfl⟩ := readStep_eq hs; exact .inl rfl
  | tick => obtain ⟨p, rfl⟩ := tickStep_eq hs; exact .inl rfl
  | broadcast => rcases broadcastStep_cases hs with ⟨_, -, rfl⟩ | rfl <;> exact .inl rfl
  | recvRegister => obtain ⟨-, -, rfl⟩ := recvRegisterStep_eq hs; exact .inl rfl
  | recvBroadcast => obtain ⟨_, _, -, rfl⟩ := recvBroadcastStep_eq hs; exact .inl rfl
  | write => obtain ⟨_, _, _, -, rfl | rfl⟩ := writeStep_cases hs <;> exact .inl rfl
  | recvDone => obtain ⟨-, rfl⟩ := recvDoneStep_eq hs; exact .inl rfl
  | cancel => cases hs; exact .inl rfl

/-- While `Run` is blocked, no step changes its part of the hub, and a `ServeWS` at its
register or a reader at its unregister stays there. -/
theorem step_of_blocked {h h' : Hub μ} (hi : Inv h) (hb : h.runPhase.blocked)
    {a : HubAction μ} (hs : h.step a = some h') :
    h'.runView = h.runView ∧ ∀ k, (h.serves k = .register → h'.serves k = .register) ∧
      (h.readers k = .unregister → h'.readers k = .unregister) := by
  have hsel : h.runPhase ≠ .selecting := fun he => by simp [he, RunPhase.blocked] at hb
  cases a with
  | serveWS k =>
    obtain ⟨hk, rfl⟩ := serveWSCall_eq hs
    refine ⟨rfl, fun j => ⟨fun hj => ?_, id⟩⟩
    rwa [setServe_serves, Function.update_noteq (by rintro rfl; simp [hk] at hj)]
  | upgrade k =>
    obtain ⟨hk, rfl⟩ := upgradeStep_eq hs
    refine ⟨rfl, fun j => ⟨fun hj => ?_, id⟩⟩
    rwa [setServe_serves, Function.update_noteq (by rintro rfl; simp [hk] at hj)]
  | spawn k =>
    obtain ⟨hk, rfl⟩ := spawnStep_eq hs
    have hr := hi.readers_idle k (by simp [hk])
    refine ⟨rfl, fun j => ⟨fun hj => ?_, fun hj => ?_⟩⟩
    · simpa [Function.update_noteq (show j ≠ k by rintro rfl; simp [hk] at hj)] using hj
    · simpa [Function.update_noteq (show j ≠ k by rintro rfl; simp [hr] at hj)] using hj
  | read k =>
    obtain ⟨hk, rfl⟩ := readStep_eq hs
    refine ⟨rfl, fun j => ⟨id, fun hj => ?_⟩⟩
    rwa [setReader_readers, Function.update_noteq (by rintro rfl; simp [hk] at hj)]
  | tick => obtain ⟨p, rfl⟩ := tickStep_eq hs; exact ⟨rfl, fun _ => ⟨id, id⟩⟩
  | broadcast =>
    rcases broadcastStep_cases hs with ⟨_, -, rfl⟩ | rfl <;> exact ⟨rfl, fun _ => ⟨id, id⟩⟩
  | recvRegister => exact absurd (recvRegisterStep_eq hs).1 hsel
  | recvUnregister => exact absurd (recvUnregisterStep_eq hs).1 hsel
  | recvBroadcast => obtain ⟨_, _, hp, -⟩ := recvBroadcastStep_eq hs; exact absurd hp hsel
  | write =>
    obtain ⟨_, _, _, hp, -⟩ := writeStep_cases hs
    simp [hp, RunPhase.blocked] at hb
  | recvDone => exact absurd (recvDoneStep_eq hs).1 hsel
  | cancel => cases hs; exact ⟨rfl, fun _ => ⟨id, id⟩⟩

theorem Steps.inv {h h' : Hub μ} (hi : Inv h) (hs : Steps h h') : Inv h' := by
  induction hs with
  | refl => exact hi
  | tail _ _ hstep ih => exact ih.step hstep

/-- Once blocked, `Run` stays blocked along every run of the other goroutines. -/
theorem Steps.of_blocked {h h' : Hub μ} (hi : Inv h) (hb : h.runPhase.blocked)
    (hs : Steps h h') :
    h'.runView = h.runView ∧ ∀ k, (h.serves k = .register → h'.serves k = .register) ∧
      (h.readers k = .unregister → h'.readers k = .unregister) := by
  induction hs with
  | refl => exact ⟨rfl, fun _ => ⟨id, id⟩⟩
  | tail a hsteps hstep ih =>
    have hp : _ = _ := congrArg Prod.fst ih.1
    simp only [runView] at hp
    obtain ⟨hv, hk⟩ := step_of_blocked (hsteps.inv hi) (hp ▸ hb) hstep
    exact ⟨hv.trans ih.1, fun k => ⟨fun hr => (hk k).1 ((ih.2 k).1 hr),
      fun hr => (hk k).2 ((ih.2 k).2 hr)⟩⟩

/-- Client `0` connects; the hub context is cancelled and `Run` returns; the read of client
`0` then fails and its reader reaches its deferred `Unregister`. -/
def cancelWithClient : List (HubAction Nat) :=
  [.serveWS 0, .upgrade 0 true, .recvRegister 0, .spawn 0, .cancel, .recvDone, .read 0 false]

/-- Clients `0` and `1` connect; a broadcast of message `5` reaches `Run`, whose write to
client `0` fails. -/
def failedWrite : List (HubAction Nat) :=
  [.serveWS 0, .upgrade 0 true, .recvRegister 0, .spawn 0, .serveWS 1, .upgrade 1 true,
    .recvRegister 1, .spawn 1, .broadcast 5, .recvBroadcast, .write false]

/-- After the failed write `Run` sends on its own unbuffered `unregister`, and no goroutine
ever receives it: along every run from there, client `0` stays in the set with its
connection open, client `1` never gets message `5`, and no register, unregister or
broadcast is processed again. -/
theorem run_blocks_on_own_unregister :
    ∃ hub : Hub Nat, Reachable hub ∧ hub.runPhase = .unregistering 0 5 [1] ∧
      hub.clients = [0, 1] ∧ hub.closed = [] ∧ hub.writes = [] ∧
      ∀ hub', Steps hub hub' → hub'.runView = hub.runView := by
  obtain ⟨hub, hr, hp, hc, hcl, hw⟩ := Reachable.of_run failedWrite
    (fun hub => hub.runPhase = .unregistering 0 5 [1] ∧ hub.clients = [0, 1] ∧
      hub.closed = [] ∧ hub.writes = []) (by decide)
  exact ⟨hub, hr, hp, hc, hcl, hw, fun _ hs => (Steps.of_blocked hr.inv (by simp [hp,
    RunPhase.blocked]) hs).1⟩

end Hub

end AlertPipeline
