import AlertPipeline.Channel

/-
The WebSocket hub of `internal/websocket` (`Hub`): `Run` loops on a `select` over the
unbuffered `register` and `unregister` channels, the buffered `broadcast` channel (capacity
500) and the context.  `ServeWS` upgrades a connection, registers a new `Client` and starts
its reader goroutine (whose deferred `Unregister` sends on `unregister`) and its heartbeat
ticker.  `Broadcast` (and `OnAlert`, which calls it) is a non-blocking send.

A send on an unbuffered channel completes only together with a receive; every receive on
`register` and `unregister` is in `Run`.  The client of the `ServeWS` call in slot `k` is
client `k`.  `registered`, `unregistered`, `closed` and `writes` are ghost logs: the
registers and unregisters `Run` processed, the `conn.Close()` calls, and the successful
broadcast writes.
-/

namespace AlertPipeline

/-- Where the goroutine running `Hub.Run` is. -/
inductive RunPhase (μ : Type) where
  /-- At the `select` of the `for` loop. -/
  | selecting
  /-- In `for _, client := range clients`, with the snapshot clients still to write to. -/
  | writing (msg : μ) (pending : List Nat)
  /-- At `h.unregister <- client` after a failed write. -/
  | unregistering (client : Nat) (msg : μ) (pending : List Nat)
  | returned
deriving Repr, DecidableEq

/-- One call of `ServeWS`. -/
inductive ServePhase where
  | idle
  /-- `upgrader.Upgrade(w, r, nil)`. -/
  | upgrade
  /-- `h.Register(client)`: `h.register <- client`. -/
  | register
  /-- Starts the reader goroutine and the heartbeat ticker, then returns. -/
  | spawn
  | returned
deriving Repr, DecidableEq

/-- The reader goroutine of one client. -/
inductive ReaderPhase where
  | idle
  /-- The `conn.ReadJSON` loop, answering `ping` with a `pong`. -/
  | reading
  /-- The deferred `h.Unregister(client)`: `h.unregister <- client`. -/
  | unregister
  | exited
deriving Repr, DecidableEq

/-- The heartbeat goroutine of one client. -/
inductive HeartbeatPhase where
  | idle
  | ticking
  | exited
deriving Repr, DecidableEq

structure Hub (μ : Type) where
  /-- The keys of `h.clients`. -/
  clients : List Nat
  broadcast : Chan μ
  /-- The context given to `Run` is done. -/
  ctxDone : Bool
  runPhase : RunPhase μ
  serves : Nat → ServePhase
  readers : Nat → ReaderPhase
  heartbeats : Nat → HeartbeatPhase
  registered : List Nat
  unregistered : List Nat
  closed : List Nat
  writes : List (Nat × μ)

/-- `NewHub()` with `go wsHub.Run(ctx)` started. -/
def Hub.running : Hub μ where
  clients := []
  broadcast := Chan.make 500
  ctxDone := false
  runPhase := .selecting
  serves := fun _ => .idle
  readers := fun _ => .idle
  heartbeats := fun _ => .idle
  registered := []
  unregistered := []
  closed := []
  writes := []

/-- One atomic action of one goroutine around the hub, or of its environment. -/
inductive HubAction (μ : Type) where
  /-- A request reaches `ServeWS` in slot `k`. -/
  | serveWS (k : Nat)
  | upgrade (k : Nat) (ok : Bool)
  | spawn (k : Nat)
  /-- One turn of the reader loop of client `k`; it stops on a read error or a failed `pong`
  write. -/
  | read (k : Nat) (keepsReading : Bool)
  /-- One tick of the heartbeat of client `k`, whose ping write succeeds or not. -/
  | tick (k : Nat) (writeOk : Bool)
  /-- `Broadcast(msg)`, from `OnAlert` or any other caller. -/
  | broadcast (msg : μ)
  | recvRegister (k : Nat)
  | recvUnregister (k : Nat)
  | recvBroadcast
  /-- `client.WriteJSON(message)` for the next client of the snapshot. -/
  | write (ok : Bool)
  /-- `Run`'s `select` takes `<-ctx.Done()`. -/
  | recvDone
  | cancel

namespace Hub

variable {μ : Type}

@[simps] def setServe (h : Hub μ) (k : Nat) (p : ServePhase) : Hub μ :=
  { h with serves := Function.update h.serves k p }

@[simps] def setReader (h : Hub μ) (k : Nat) (p : ReaderPhase) : Hub μ :=
  { h with readers := Function.update h.readers k p }

@[simps] def setHeartbeat (h : Hub μ) (k : Nat) (p : HeartbeatPhase) : Hub μ :=
  { h with heartbeats := Function.update h.heartbeats k p }

/-- The rest of the `range clients` loop: back at the `select` once the snapshot is done. -/
def continueBroadcast (msg : μ) : List Nat → RunPhase μ
  | [] => .selecting
  | pending => .writing msg pending

def serveWSCall (h : Hub μ) (k : Nat) : Option (Hub μ) :=
  match h.serves k with
  | .idle => some (h.setServe k .upgrade)
  | _ => none

def upgradeStep (h : Hub μ) (k : Nat) (ok : Bool) : Option (Hub μ) :=
  match h.serves k with
  | .upgrade => some (h.setServe k (if ok then .register else .returned))
  | _ => none

def spawnStep (h : Hub μ) (k : Nat) : Option (Hub μ) :=
  match h.serves k with
  | .spawn => some (((h.setServe k .returned).setReader k .reading).setHeartbeat k .ticking)
  | _ => none

def readStep (h : Hub μ) (k : Nat) (keepsReading : Bool) : Option (Hub μ) :=
  match h.readers k with
  | .reading => some (h.setReader k (if keepsReading then .reading else .unregister))
  | _ => none

/-- The ticker reads `h.clients[client]` under the read lock and returns if the client is
gone; a failed ping write also ends it, without unregistering the client. -/
def tickStep (h : Hub μ) (k : Nat) (writeOk : Bool) : Option (Hub μ) :=
  match h.heartbeats k with
  | .ticking =>
      some (h.setHeartbeat k (if k ∈ h.clients ∧ writeOk = true then .ticking else .exited))
  | _ => none

/-- `Broadcast`: a full channel drops the message; `broadcast` is never closed. -/
def broadcastStep (h : Hub μ) (msg : μ) : Option (Hub μ) :=
  match h.broadcast.trySend msg with
  | .sent q => some { h with broadcast := q }
  | .full => some h
  | .panics => none

def recvRegisterStep (h : Hub μ) (k : Nat) : Option (Hub μ) :=
  match h.runPhase, h.serves k with
  | .selecting, .register =>
      some { h.setServe k .spawn with
        clients := if k ∈ h.clients then h.clients else h.clients ++ [k]
        registered := h.registered ++ [k] }
  | _, _ => none

/-- `case client := <-h.unregister`: a client still in the map is deleted and its
connection closed. -/
def recvUnregisterStep (h : Hub μ) (k : Nat) : Option (Hub μ) :=
  match h.runPhase, h.readers k with
  | .selecting, .unregister =>
      some { h.setReader k .exited with
        clients := h.clients.erase k
        closed := if k ∈ h.clients then h.closed ++ [k] else h.closed
        unregistered := h.unregistered ++ [k] }
  | _, _ => none

/-- `case message := <-h.broadcast`: snapshot the clients, then write to each. -/
def recvBroadcastStep (h : Hub μ) : Option (Hub μ) :=
  match h.runPhase, h.broadcast.recv? with
  | .selecting, some (some msg, q) =>
      some { h with broadcast := q, runPhase := continueBroadcast msg h.clients }
  | _, _ => none

def writeStep (h : Hub μ) (ok : Bool) : Option (Hub μ) :=
  match h.runPhase with
  | .writing msg (client :: rest) =>
      if ok then
        some { h with
          runPhase := continueBroadcast msg rest, writes := h.writes ++ [(client, msg)] }
      else some { h with runPhase := .unregistering client msg rest }
  | _ => none

def recvDoneStep (h : Hub μ) : Option (Hub μ) :=
  match h.runPhase with
  | .selecting => if h.ctxDone then some { h with runPhase := .returned } else none
  | _ => none

def step (h : Hub μ) : HubAction μ → Option (Hub μ)
  | .serveWS k => h.serveWSCall k
  | .upgrade k ok => h.upgradeStep k ok
  | .spawn k => h.spawnStep k
  | .read k keepsReading => h.readStep k keepsReading
  | .tick k writeOk => h.tickStep k writeOk
  | .broadcast msg => h.broadcastStep msg
  | .recvRegister k => h.recvRegisterStep k
  | .recvUnregister k => h.recvUnregisterStep k
  | .recvBroadcast => h.recvBroadcastStep
  | .write ok => h.writeStep ok
  | .recvDone => h.recvDoneStep
  | .cancel => some { h with ctxDone := true }

/-! ### What each action can do -/

theorem serveWSCall_eq {h h' : Hub μ} {k : Nat} (hs : h.serveWSCall k = some h') :
    h.serves k = .idle ∧ h' = h.setServe k .upgrade := by
  unfold serveWSCall at hs; split at hs <;> cases hs; exact ⟨‹_›, rfl⟩

theorem upgradeStep_eq {h h' : Hub μ} {k : Nat} {ok : Bool} (hs : h.upgradeStep k ok = some h') :
    h.serves k = .upgrade ∧ h' = h.setServe k (if ok then .register else .returned) := by
  unfold upgradeStep at hs; split at hs <;> cases hs; exact ⟨‹_›, rfl⟩

theorem spawnStep_eq {h h' : Hub μ} {k : Nat} (hs : h.spawnStep k = some h') :
    h.serves k = .spawn ∧
      h' = ((h.setServe k .returned).setReader k .reading).setHeartbeat k .ticking := by
  unfold spawnStep at hs; split at hs <;> cases hs; exact ⟨‹_›, rfl⟩

theorem readStep_eq {h h' : Hub μ} {k : Nat} {keepsReading : Bool}
    (hs : h.readStep k keepsReading = some h') :
    h.readers k = .reading ∧
      h' = h.setReader k (if keepsReading then .reading else .unregister) := by
  unfold readStep at hs; split at hs <;> cases hs; exact ⟨‹_›, rfl⟩

theorem tickStep_eq {h h' : Hub μ} {k : Nat} {writeOk : Bool}
    (hs : h.tickStep k writeOk = some h') :
    ∃ p, h' = h.setHeartbeat k p := by
  unfold tickStep at hs; split at hs <;> cases hs; exact ⟨_, rfl⟩

theorem broadcastStep_cases {h h' : Hub μ} {msg : μ} (hs : h.broadcastStep msg = some h') :
    (∃ q, h.broadcast.trySend msg = .sent q ∧ h' = { h with broadcast := q }) ∨ h' = h := by
  unfold broadcastStep at hs
  split at hs <;> cases hs
  · exact .inl ⟨_, ‹_›, rfl⟩
  · exact .inr rfl

theorem recvRegisterStep_eq {h h' : Hub μ} {k : Nat} (hs : h.recvRegisterStep k = some h') :
    h.runPhase = .selecting ∧ h.serves k = .register ∧
      h' = { h.setServe k .spawn with
        clients := if k ∈ h.clients then h.clients else h.clients ++ [k]
        registered := h.registered ++ [k] } := by
  unfold recvRegisterStep at hs; split at hs <;> cases hs; exact ⟨‹_›, ‹_›, rfl⟩

theorem recvUnregisterStep_eq {h h' : Hub μ} {k : Nat} (hs : h.recvUnregisterStep k = some h') :
    h.runPhase = .selecting ∧ h.readers k = .unregister ∧
      h' = { h.setReader k .exited with
        clients := h.clients.erase k
        closed := if k ∈ h.clients then h.closed ++ [k] else h.closed
        unregistered := h.unregistered ++ [k] } := by
  unfold recvUnregisterStep at hs; split at hs <;> cases hs; exact ⟨‹_›, ‹_›, rfl⟩

theorem recvBroadcastStep_eq {h h' : Hub μ} (hs : h.recvBroadcastStep = some h') :
    ∃ msg q, h.runPhase = .selecting ∧
      h' = { h with broadcast := q, runPhase := continueBroadcast msg h.clients } := by
  unfold recvBroadcastStep at hs; split at hs <;> cases hs; exact ⟨_, _, ‹_›, rfl⟩

theorem writeStep_cases {h h' : Hub μ} {ok : Bool} (hs : h.writeStep ok = some h') :
    ∃ msg client rest, h.runPhase = .writing msg (client :: rest) ∧
      (h' = { h with
          runPhase := continueBroadcast msg rest, writes := h.writes ++ [(client, msg)] } ∨
        h' = { h with runPhase := .unregistering client msg rest }) := by
  unfold writeStep at hs
  split at hs
  · split at hs <;> cases hs
    · exact ⟨_, _, _, ‹_›, .inl rfl⟩
    · exact ⟨_, _, _, ‹_›, .inr rfl⟩
  · cases hs

theorem recvDoneStep_eq {h h' : Hub μ} (hs : h.recvDoneStep = some h') :
    h.runPhase = .selecting ∧ h' = { h with runPhase := .returned } := by
  unfold recvDoneStep at hs
  split at hs
  · split at hs <;> cases hs; exact ⟨‹_›, rfl⟩
  · cases hs

/-- The hubs that `NewHub()` with `Run` started can reach. -/
inductive Reachable : Hub μ → Prop where
  | init : Reachable running
  | step {h h' : Hub μ} (a : HubAction μ) : Reachable h → h.step a = some h' → Reachable h'

/-- `h'` follows `h` after some number of steps. -/
inductive Steps : Hub μ → Hub μ → Prop where
  | refl (h : Hub μ) : Steps h h
  | tail {h h' h'' : Hub μ} (a : HubAction μ) : Steps h h' → h'.step a = some h'' → Steps h h''

/-- Replay a schedule; `none` as soon as an action is not enabled. -/
def run (h : Hub μ) : List (HubAction μ) → Option (Hub μ)
  | [] => some h
  | a :: rest => (h.step a).bind (run · rest)

theorem Reachable.run {h h' : Hub μ} :
    ∀ {schedule : List (HubAction μ)}, Reachable h → h.run schedule = some h' → Reachable h'
  | [], hr, hrun => by cases hrun; exact hr
  | a :: rest, hr, hrun => by
    simp only [Hub.run, Option.bind_eq_some] at hrun
    obtain ⟨mid, hstep, hrest⟩ := hrun
    exact Reachable.run (hr.step a hstep) hrest

/-- A schedule replayed from the running hub ends in a reachable state where `p` holds. -/
theorem Reachable.of_run (schedule : List (HubAction μ)) (p : Hub μ → Prop) [DecidablePred p]
    (hp : (running.run schedule).map (fun h => decide (p h)) = some true) :
    ∃ h, Reachable h ∧ p h := by
  cases hr : (running : Hub μ).run schedule with
  | none => simp [hr] at hp
  | some h =>
    simp only [hr, Option.map_some', Option.some.injEq, decide_eq_true_eq] at hp
    exact ⟨h, Reachable.init.run hr, hp⟩

end Hub

end AlertPipeline
