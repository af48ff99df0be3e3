import Mathlib.Data.List.Basic

/-
The dashboard's end of the WebSocket (`web/static/js/websocket.js`): the `WebSocketManager`
that `dashboardApp().connectWebSocket()` builds and connects, together with the browser
objects it drives.  JavaScript runs one task at a time, so the page is a state machine whose
steps are the tasks the browser may run next: an event of one of the manager's sockets, a
timer firing, a `visibilitychange` or `online` event, or a call of `disconnect()`.

Every socket the manager created keeps its handlers; `connect()` clears only `onclose`, of the
socket it replaces, so `Socket.onclose` records whether that handler is still there.  A socket's
`open` event comes only while it is connecting, a message only while it is open, and its
`close` event once, while it is not yet closed.  Timers fire in any order here, which allows
more runs than the browser's clock does; every property below holds of all of them.

`wsConnected` is the dashboard's field that the `onStatusChange` callback writes, `received`
the messages passed to `onMessage` (`handleWebSocketMessage`), and `pings` the sockets a
heartbeat `ping` was sent on.  `onError` only logs (`handleWebSocketError`), as do the
`offline` listener and the error events, so they change nothing.  The random jitter of
`reconnect` is left out of a timer's recorded delay.
-/

namespace AlertPipeline

namespace Dashboard

variable {μ : Type}

/-- `WebSocket.readyState`. -/
inductive ReadyState where
  | connecting
  | «open»
  | closing
  | closed
deriving Repr, DecidableEq

/-- A socket whose `close()` has not been called and that has not closed. -/
def ReadyState.active : ReadyState → Bool
  | .connecting | .open => true
  | .closing | .closed => false

/-- One `WebSocket` object the manager created. -/
structure Socket where
  readyState : ReadyState
  /-- `ws.onclose` is still the handler `connect` installed. -/
  onclose : Bool
deriving Repr, DecidableEq

/-- `ws.close()`: a connecting or open socket starts closing; otherwise it does nothing. -/
def Socket.close (so : Socket) : Socket :=
  match so.readyState with
  | .connecting | .open => { so with readyState := .closing }
  | .closing | .closed => so

/-- What `JSON.parse(event.data)` returned for a message. -/
structure Parsed (μ : Type) where
  /-- `data.type`. -/
  type : Option String
  data : μ
deriving Repr, DecidableEq

/-- `baseReconnectDelay`, in milliseconds. -/
def baseReconnectDelay : Nat := 1000

/-- `maxReconnectDelay`, in milliseconds. -/
def maxReconnectDelay : Nat := 30000

def maxMissedHeartbeats : Nat := 3

/-- `exponentialDelay` of the `n`-th attempt: `Math.min(baseReconnectDelay *
Math.pow(2, n - 1), maxReconnectDelay)`.  The doubles are exact up to the cap, and a power of
two too large for a double is `Infinity`, which the minimum caps alike. -/
def exponentialDelay (n : Nat) : Nat :=
  Nat.min (baseReconnectDelay * Nat.pow 2 (n - 1)) maxReconnectDelay

/-- `clearTimeout(id)` on the pending timeouts; `clearTimeout(null)` does nothing. -/
def clearTimeout (timeouts : List (Nat × Nat)) : Option Nat → List (Nat × Nat)
  | some t => timeouts.filter (·.1 != t)
  | none => timeouts

/-- `clearInterval(id)` on the running intervals; `clearInterval(null)` does nothing. -/
def clearInterval (intervals : List Nat) : Option Nat → List Nat
  | some t => intervals.filter (· != t)
  | none => intervals

/-- The dashboard page: the fields of its `WebSocketManager`, the browser objects the manager
uses, and what the manager's callbacks wrote into the dashboard. -/
structure Page (μ : Type) where
  /-- `this.ws`, as the index of the socket in `sockets`. -/
  ws : Option Nat
  reconnectAttempts : Nat
  reconnectTimer : Option Nat
  heartbeatInterval : Option Nat
  intentionallyClosed : Bool
  missedHeartbeats : Nat
  /-- Every socket `connect` created, in order. -/
  sockets : List Socket
  /-- The pending `setTimeout` callbacks, with their delays before jitter. -/
  timeouts : List (Nat × Nat)
  /-- The running `setInterval` callbacks. -/
  intervals : List Nat
  /-- The id the next `setTimeout` or `setInterval` returns; ids are positive. -/
  nextTimerId : Nat
  /-- `new WebSocket(this.url)` does not throw. -/
  urlValid : Bool
  /-- The dashboard's `wsConnected`. -/
  wsConnected : Bool
  pings : List Nat
  received : List μ

namespace Page

/-- `this.ws.readyState`, `none` where `this.ws` is `null`. -/
def readyState? (p : Page μ) : Option ReadyState :=
  p.ws.bind fun i => p.sockets[i]?.map Socket.readyState

/-- `isConnected()`: `this.ws && this.ws.readyState === WebSocket.OPEN`. -/
def isConnected (p : Page μ) : Bool := p.readyState? = some .open


/-- `ws.close()` on socket `i`. -/
def closeSocket (p : Page μ) (i : Nat) : Page μ :=
  { p with sockets := p.sockets.modify Socket.close i }

/-- `reconnect()`: unless the manager was closed on purpose, replace the reconnect timer by one
for the next attempt, with exponential backoff. -/
def reconnect (p : Page μ) : Page μ :=
  if p.intentionallyClosed then p
  else
    let attempts := p.reconnectAttempts + 1
    { p with
      reconnectAttempts := attempts
      reconnectTimer := some p.nextTimerId
      timeouts := clearTimeout p.timeouts p.reconnectTimer ++ [(p.nextTimerId, exponentialDelay attempts)]
      nextTimerId := p.nextTimerId + 1 }

/-- `connect()`: drop the reconnect timer, detach and close the current socket, and open a new
one; where `new WebSocket` throws, `onError` logs and `reconnect()` runs. -/
def connect (p : Page μ) : Page μ :=
  let p := { p with timeouts := clearTimeout p.timeouts p.reconnectTimer, reconnectTimer := none }
  let p := match p.ws with
    | some i =>
      { p with sockets := p.sockets.modify (fun so => Socket.close { so with onclose := false }) i
               ws := none }
    | none => p
  let p := { p with intentionallyClosed := false }
  if p.urlValid then
    { p with
      ws := some p.sockets.length
      sockets := p.sockets ++ [{ readyState := .connecting, onclose := true }] }
  else p.reconnect

/-- `stopHeartbeat()`. -/
def stopHeartbeat (p : Page μ) : Page μ :=
  { p with
    intervals := clearInterval p.intervals p.heartbeatInterval
    heartbeatInterval := none
    missedHeartbeats := 0 }

/-- `startHeartbeat()`: one ping interval, replacing any other. -/
def startHeartbeat (p : Page μ) : Page μ :=
  let p := p.stopHeartbeat
  { p with
    heartbeatInterval := some p.nextTimerId
    intervals := p.intervals ++ [p.nextTimerId]
    nextTimerId := p.nextTimerId + 1 }

/-- `send({ type: 'ping' })`: sent only on an open socket. -/
def sendPing (p : Page μ) : Page μ :=
  match p.ws with
  | some i => if p.isConnected then { p with pings := p.pings ++ [i] } else p
  | none => p

/-- The callback of the heartbeat interval. -/
def heartbeatTick (p : Page μ) : Page μ :=
  match p.ws with
  | some i =>
    if p.isConnected then
      let p := { p with missedHeartbeats := p.missedHeartbeats + 1 }
      if maxMissedHeartbeats ≤ p.missedHeartbeats then p.closeSocket i else p.sendPing
    else p
  | none => p

/-- `ws.onopen`. -/
def onopen (p : Page μ) : Page μ :=
  { p with reconnectAttempts := 0, missedHeartbeats := 0, wsConnected := true }.startHeartbeat

/-- `ws.onmessage`: a message that does not parse is logged; any other resets the heartbeat
count, and one that is not a `pong` goes to `onMessage`. -/
def onmessage (p : Page μ) : Option (Parsed μ) → Page μ
  | none => p
  | some data =>
    let p := { p with missedHeartbeats := 0 }
    if data.type = some "pong" then p else { p with received := p.received ++ [data.data] }

/-- `ws.onclose`. -/
def onclose (p : Page μ) : Page μ :=
  let p := { p.stopHeartbeat with wsConnected := false }
  if !p.intentionallyClosed then p.reconnect else p

/-- `disconnect()`. -/
def disconnect (p : Page μ) : Page μ :=
  let p := { p with intentionallyClosed := true }.stopHeartbeat
  let p := { p with timeouts := clearTimeout p.timeouts p.reconnectTimer, reconnectTimer := none }
  match p.ws with
  | some i => { p.closeSocket i with ws := none }
  | none => p

/-- Socket `i` takes the ready state `r`, as the browser sets it before the event. -/
def setReadyState (p : Page μ) (i : Nat) (r : ReadyState) : Page μ :=
  { p with sockets := p.sockets.modify (fun so => { so with readyState := r }) i }

end Page

/-- The next task the page runs. -/
inductive Event (μ : Type) where
  /-- Socket `i` is established: it opens and `onopen` runs. -/
  | opened (i : Nat)
  /-- A message on socket `i`, with what `JSON.parse` made of it. -/
  | message (i : Nat) (parsed : Option (Parsed μ))
  /-- Socket `i` is closed, by either end or by the network, and its `close` event fires. -/
  | closed (i : Nat)
  | timeoutFires (t : Nat)
  | intervalFires (t : Nat)
  /-- `visibilitychange`, with `document.hidden` after it. -/
  | visibilityChange (hidden : Bool)
  | online
  /-- A call of `disconnect()`. -/
  | disconnect
deriving Repr

namespace Page

def step (p : Page μ) : Event μ → Option (Page μ)
  | .opened i =>
    if (p.sockets[i]?.map Socket.readyState) = some .connecting then
      some (p.setReadyState i .open).onopen
    else none
  | .message i parsed =>
    if (p.sockets[i]?.map Socket.readyState) = some .open then some (p.onmessage parsed) else none
  | .closed i =>
    match p.sockets[i]? with
    | some so =>
      if so.readyState = .closed then none
      else
        let p := p.setReadyState i .closed
        some (if so.onclose then p.onclose else p)
    | none => none
  | .timeoutFires t =>
    if t ∈ p.timeouts.map Prod.fst then
      some { p with timeouts := clearTimeout p.timeouts (some t) }.connect
    else none
  | .intervalFires t => if t ∈ p.intervals then some p.heartbeatTick else none
  | .visibilityChange hidden => some (if !hidden && !p.isConnected then p.connect else p)
  | .online => some p.connect
  | .disconnect => some p.disconnect

def run (p : Page μ) : List (Event μ) → Option (Page μ)
  | [] => some p
  | e :: es => (p.step e).bind (·.run es)

end Page

/-- `new WebSocketManager(wsUrl, ...)`, before `connect()`. -/
def newWebSocketManager (urlValid : Bool) : Page μ where
  ws := none
  reconnectAttempts := 0
  reconnectTimer := none
  heartbeatInterval := none
  intentionallyClosed := false
  missedHeartbeats := 0
  sockets := []
  timeouts := []
  intervals := []
  nextTimerId := 1
  urlValid := urlValid
  wsConnected := false
  pings := []
  received := []

/-- `connectWebSocket()` of the dashboard: the manager built and `connect()` called. -/
def connectWebSocket (urlValid : Bool) : Page μ := (newWebSocketManager urlValid).connect

/-- The states of the page after `connectWebSocket`; a call of `disconnect()` is a step only
where `disconnects` allows it (the dashboard itself never calls it). -/
inductive Reachable (urlValid disconnects : Bool) : Page μ → Prop where
  | init : Reachable urlValid disconnects (connectWebSocket urlValid)
  | step {p p' : Page μ} (e : Event μ) : Reachable urlValid disconnects p →
      (e matches .disconnect → disconnects = true) → p.step e = some p' →
      Reachable urlValid disconnects p'

namespace Page

variable {p : Page μ}

/-! ### The socket table -/

theorem Socket.close_onclose (so : Socket) : so.close.onclose = so.onclose := by
  unfold Socket.close; split <;> rfl

theorem Socket.close_readyState (so : Socket) :
    so.close.readyState = .closing ∨ so.close.readyState = .closed := by
  unfold Socket.close; split <;> simp_all

theorem getElem?_append_singleton {α : Type} (l : List α) (a : α) (j : Nat) :
    (l ++ [a])[j]? = if j = l.length then some a else l[j]? := by
  split
  · subst_vars; simp
  · rcases Nat.lt_or_ge j l.length with hj | hj
    · rw [List.getElem?_append_left hj]
    · rw [List.getElem?_eq_none (by simp; omega), List.getElem?_eq_none hj]

theorem getElem?_modify {α : Type} (f : α → α) (l : List α) (i j : Nat) :
    (l.modify f i)[j]? = if i = j then l[j]?.map f else l[j]? := by
  split
  · subst_vars; simp
  · simp [*]

/-- The sockets once `connect` has detached and closed `this.ws`. -/
def retired (p : Page μ) : List Socket :=
  match p.ws with
  | some i => p.sockets.modify (fun so => Socket.close { so with onclose := false }) i
  | none => p.sockets

theorem length_retired : p.retired.length = p.sockets.length := by
  unfold retired; split <;> simp

/-! ### The timer tables -/

theorem clearTimeout_of_keys {timeouts : List (Nat × Nat)} {t : Option Nat}
    (h : timeouts.map Prod.fst = t.toList) : clearTimeout timeouts t = [] := by
  cases t with
  | none => simpa [clearTimeout] using h
  | some t =>
    refine List.filter_eq_nil_iff.2 fun e he => ?_
    have : e.1 ∈ timeouts.map Prod.fst := List.mem_map_of_mem Prod.fst he
    simp_all

theorem clearInterval_of_eq {intervals : List Nat} {t : Option Nat} (h : intervals = t.toList) :
    clearInterval intervals t = [] := by
  cases t <;> simp [clearInterval, h]

/-! ### What the manager's methods do, with one timer of each kind -/

theorem reconnect_eq (h : p.timeouts.map Prod.fst = p.reconnectTimer.toList)
    (hc : p.intentionallyClosed = false) :
    p.reconnect = { p with
      reconnectAttempts := p.reconnectAttempts + 1
      reconnectTimer := some p.nextTimerId
      timeouts := [(p.nextTimerId, exponentialDelay (p.reconnectAttempts + 1))]
      nextTimerId := p.nextTimerId + 1 } := by
  simp [reconnect, hc, clearTimeout_of_keys h]

theorem stopHeartbeat_eq (h : p.intervals = p.heartbeatInterval.toList) :
    p.stopHeartbeat =
      { p with intervals := [], heartbeatInterval := none, missedHeartbeats := 0 } := by
  simp only [stopHeartbeat, clearInterval_of_eq h]

theorem onopen_eq (h : p.intervals = p.heartbeatInterval.toList) :
    p.onopen = { p with
      reconnectAttempts := 0
      missedHeartbeats := 0
      wsConnected := true
      intervals := [p.nextTimerId]
      heartbeatInterval := some p.nextTimerId
      nextTimerId := p.nextTimerId + 1 } := by
  simp only [onopen, startHeartbeat, List.nil_append,
    stopHeartbeat_eq (p := { p with reconnectAttempts := 0, missedHeartbeats := 0, wsConnected := true }) h]

theorem onclose_eq (ht : p.timeouts.map Prod.fst = p.reconnectTimer.toList)
    (hi : p.intervals = p.heartbeatInterval.toList) :
    p.onclose = if p.intentionallyClosed then
      { p with intervals := [], heartbeatInterval := none, missedHeartbeats := 0,
               wsConnected := false }
    else
      { p with
        intervals := []
        heartbeatInterval := none
        missedHeartbeats := 0
        wsConnected := false
        reconnectAttempts := p.reconnectAttempts + 1
        reconnectTimer := some p.nextTimerId
        timeouts := [(p.nextTimerId, exponentialDelay (p.reconnectAttempts + 1))]
        nextTimerId := p.nextTimerId + 1 } := by
  cases hc : p.intentionallyClosed
  · simp only [onclose, stopHeartbeat_eq hi, hc, Bool.not_false, if_true, Bool.false_eq_true, if_false]
    exact reconnect_eq ht rfl
  · simp [onclose, stopHeartbeat_eq hi, hc]

theorem connect_eq (h : clearTimeout p.timeouts p.reconnectTimer = []) :
    p.connect = if p.urlValid then
      { p with
        ws := some p.sockets.length
        reconnectTimer := none
        intentionallyClosed := false
        sockets := p.retired ++ [{ readyState := .connecting, onclose := true }]
        timeouts := [] }
    else
      { p with
        ws := none
        reconnectAttempts := p.reconnectAttempts + 1
        reconnectTimer := some p.nextTimerId
        intentionallyClosed := false
        sockets := p.retired
        timeouts := [(p.nextTimerId, exponentialDelay (p.reconnectAttempts + 1))]
        nextTimerId := p.nextTimerId + 1 } := by
  unfold connect retired
  rw [h]
  cases hw : p.ws <;> cases hu : p.urlValid <;> simp [reconnect, clearTimeout, hw, hu]

theorem Socket.close_active (so : Socket) : so.close.readyState.active = false := by
  rcases Socket.close_readyState so with h | h <;> rw [h] <;> rfl

theorem getElem?_retired (j : Nat) :
    p.retired[j]? = if p.ws = some j then
      p.sockets[j]?.map fun so => Socket.close { so with onclose := false }
    else p.sockets[j]? := by
  unfold retired; cases p.ws <;> simp [getElem?_modify]

@[simp] theorem setReadyState_ws (i : Nat) (r : ReadyState) : (p.setReadyState i r).ws = p.ws :=
  rfl

@[simp] theorem getElem?_setReadyState (i j : Nat) (r : ReadyState) :
    (p.setReadyState i r).sockets[j]? =
      if i = j then p.sockets[j]?.map fun so => { so with readyState := r } else p.sockets[j]? :=
  getElem?_modify _ _ _ _

theorem readyState?_setReadyState (i : Nat) (r : ReadyState) :
    (p.setReadyState i r).readyState? =
      if p.ws = some i then p.sockets[i]?.map fun _ => r else p.readyState? := by
  unfold readyState?
  cases hw : p.ws with
  | none => simp [setReadyState, hw]
  | some j =>
    simp only [setReadyState, hw, Option.bind_some, getElem?_modify, Option.some.injEq]
    by_cases hij : j = i
    · subst hij; simp [Function.comp_def]
    · simp [hij, Ne.symm hij]

/-! ### The invariant of every run -/

theorem not_maxMissedHeartbeats_le_zero : ¬ maxMissedHeartbeats ≤ 0 := by decide


/-- What holds after every task, whatever the browser runs and whoever calls `disconnect()`. -/
structure Inv (p : Page μ) : Prop where
  /-- The only pending timeout is `this.reconnectTimer`. -/
  timeouts_eq : p.timeouts.map Prod.fst = p.reconnectTimer.toList
  /-- The only running interval is `this.heartbeatInterval`. -/
  intervals_eq : p.intervals = p.heartbeatInterval.toList
  ws_attached : ∀ i, p.ws = some i → ∃ so, p.sockets[i]? = some so ∧ so.onclose = true
  /-- No socket but `this.ws` is connecting or open. -/
  active_ws : ∀ i so, p.sockets[i]? = some so → so.readyState.active → p.ws = some i
  missed_le : p.missedHeartbeats ≤ maxMissedHeartbeats
  missed_max : maxMissedHeartbeats ≤ p.missedHeartbeats → p.isConnected = false
  /-- Unless `disconnect()` was called, a reconnect is pending or `this.ws` has not closed. -/
  live : p.intentionallyClosed = false →
    p.reconnectTimer.isSome ∨ (p.readyState? ≠ none ∧ p.readyState? ≠ some .closed)

theorem retired_inactive
    (hact : ∀ i so, p.sockets[i]? = some so → so.readyState.active → p.ws = some i) {j : Nat}
    {so : Socket} (h : p.retired[j]? = some so) : so.readyState.active = false := by
  rw [getElem?_retired] at h
  split at h
  · obtain ⟨so', -, rfl⟩ := Option.map_eq_some'.1 h
    exact Socket.close_active _
  · cases ha : so.readyState.active
    · rfl
    · exact absurd (hact j so h ‹_›) ‹_›

theorem inv_connect (ht : p.timeouts.map Prod.fst = p.reconnectTimer.toList)
    (hI : p.intervals = p.heartbeatInterval.toList)
    (hact : ∀ i so, p.sockets[i]? = some so → so.readyState.active → p.ws = some i)
    (hm : p.missedHeartbeats ≤ maxMissedHeartbeats) : Inv p.connect := by
  rw [connect_eq (clearTimeout_of_keys ht)]
  split
  · have hnew : ∀ j, (p.retired ++ [⟨.connecting, true⟩])[j]? =
        if j = p.sockets.length then some ⟨.connecting, true⟩ else p.retired[j]? := by
      intro j; rw [getElem?_append_singleton, length_retired]
    exact {
      timeouts_eq := rfl
      intervals_eq := hI
      ws_attached := by rintro i ⟨⟩; simp [hnew]
      active_ws := fun j so h ha => by
        rw [hnew] at h
        split at h
        · simp_all
        · exact absurd (retired_inactive hact h) (by simp [ha])
      missed_le := hm
      missed_max := fun _ => by simp [isConnected, readyState?, hnew]
      live := fun _ => .inr (by simp [readyState?, hnew]) }
  · exact {
      timeouts_eq := rfl
      intervals_eq := hI
      ws_attached := by simp
      active_ws := fun j so h ha => absurd (retired_inactive hact h) (by simp [ha])
      missed_le := hm
      missed_max := fun _ => by simp [isConnected, readyState?]
      live := fun _ => .inl rfl }

theorem Inv.connect (hi : Inv p) : Inv p.connect :=
  inv_connect hi.timeouts_eq hi.intervals_eq hi.active_ws hi.missed_le

theorem setReadyState_attached (i : Nat) (r : ReadyState) {j : Nat}
    (h : ∃ so, p.sockets[j]? = some so ∧ so.onclose = true) :
    ∃ so, (p.setReadyState i r).sockets[j]? = some so ∧ so.onclose = true := by
  obtain ⟨so, hso, hc⟩ := h
  rw [getElem?_setReadyState]
  split <;> simp [hso, hc]

theorem Inv.setReadyState_active (hi : Inv p) {i : Nat} {r : ReadyState}
    (hr : r.active → p.ws = some i) :
    ∀ j so, (p.setReadyState i r).sockets[j]? = some so → so.readyState.active → p.ws = some j := by
  intro j so h ha
  rw [getElem?_setReadyState] at h
  split at h
  · subst_vars
    obtain ⟨so', -, rfl⟩ := Option.map_eq_some'.1 h
    exact hr ha
  · exact hi.active_ws j so h ha

theorem modify_close_of_open {l : List Socket} {i : Nat}
    (h : l[i]?.map Socket.readyState = some .open) :
    l.modify Socket.close i = l.modify (fun so => { so with readyState := .closing }) i := by
  obtain ⟨so, hso, hst⟩ := Option.map_eq_some'.1 h
  refine List.ext_getElem? fun j => ?_
  rw [getElem?_modify, getElem?_modify]
  split
  · subst_vars; simp [hso, Socket.close, hst]
  · rfl

theorem heartbeatTick_of_open {i : Nat} (hw : p.ws = some i)
    (hopen : p.sockets[i]?.map Socket.readyState = some .open) :
    p.heartbeatTick = if maxMissedHeartbeats ≤ p.missedHeartbeats + 1 then
      { p.setReadyState i .closing with missedHeartbeats := p.missedHeartbeats + 1 }
    else { p with missedHeartbeats := p.missedHeartbeats + 1, pings := p.pings ++ [i] } := by
  have hconn : p.isConnected = true := by simp [isConnected, readyState?, hw, hopen]
  simp only [heartbeatTick, sendPing, closeSocket, setReadyState, hw, hconn, if_true,
    modify_close_of_open hopen]
  split
  · rfl
  · simp [isConnected, readyState?, hopen]

theorem heartbeatTick_of_not_connected (h : p.isConnected = false) : p.heartbeatTick = p := by
  unfold heartbeatTick; split <;> simp [h]

theorem connect_clearTimeout {t : Nat} (h : p.reconnectTimer = some t) :
    { p with timeouts := clearTimeout p.timeouts (some t) }.connect = p.connect := by
  simp [connect, clearTimeout, h, List.filter_filter]

theorem Inv.opened (hi : Inv p) {i : Nat}
    (h : p.sockets[i]?.map Socket.readyState = some .connecting) :
    Inv (p.setReadyState i .open).onopen := by
  obtain ⟨so, hso, hst⟩ := Option.map_eq_some'.1 h
  have hws : p.ws = some i := hi.active_ws i so hso (by simp [hst, ReadyState.active])
  rw [onopen_eq (p := p.setReadyState i .open) hi.intervals_eq]
  exact {
    timeouts_eq := hi.timeouts_eq
    intervals_eq := rfl
    ws_attached := fun j hj => setReadyState_attached i _ (hi.ws_attached j hj)
    active_ws := hi.setReadyState_active fun _ => hws
    missed_le := Nat.zero_le _
    missed_max := fun h => absurd h not_maxMissedHeartbeats_le_zero
    live := fun _ => .inr (by simp [readyState?, hws, hso]) }

theorem onmessage_some (data : Parsed μ) :
    p.onmessage (some data) = { p with
      missedHeartbeats := 0
      received := if data.type = some "pong" then p.received else p.received ++ [data.data] } := by
  simp only [onmessage]; split <;> rfl

theorem Inv.message (hi : Inv p) (parsed : Option (Parsed μ)) : Inv (p.onmessage parsed) := by
  cases parsed with
  | none => exact hi
  | some data =>
    rw [onmessage_some]
    exact { hi with
      missed_le := Nat.zero_le _
      missed_max := fun h => absurd h not_maxMissedHeartbeats_le_zero }

theorem Inv.closed (hi : Inv p) {i : Nat} {so : Socket} (hso : p.sockets[i]? = some so) :
    Inv (if so.onclose then (p.setReadyState i .closed).onclose else p.setReadyState i .closed) := by
  have hactive := hi.setReadyState_active (i := i) (r := .closed) fun h => absurd h (by decide)
  have hattached := fun j hj => setReadyState_attached i .closed (hi.ws_attached j hj)
  split
  · rw [onclose_eq (p := p.setReadyState i .closed) hi.timeouts_eq hi.intervals_eq]
    split
    · exact { hi with
        intervals_eq := rfl
        ws_attached := hattached
        active_ws := hactive
        missed_le := Nat.zero_le _
        missed_max := fun h => absurd h not_maxMissedHeartbeats_le_zero
        live := fun h => by simp_all }
    · exact {
        timeouts_eq := rfl
        intervals_eq := rfl
        ws_attached := hattached
        active_ws := hactive
        missed_le := Nat.zero_le _
        missed_max := fun h => absurd h not_maxMissedHeartbeats_le_zero
        live := fun _ => .inl rfl }
  · have hws : p.ws ≠ some i := fun hw => by
      obtain ⟨so', h', hc⟩ := hi.ws_attached i hw
      simp_all
    have hstate : (p.setReadyState i .closed).readyState? = p.readyState? := by
      rw [readyState?_setReadyState, if_neg hws]
    exact { hi with
      ws_attached := hattached
      active_ws := hactive
      missed_max := fun h => by rw [isConnected, hstate]; exact hi.missed_max h
      live := fun h => by rw [hstate]; exact hi.live h }

theorem Inv.tick (hi : Inv p) : Inv p.heartbeatTick := by
  cases hconn : p.isConnected
  · rw [heartbeatTick_of_not_connected hconn]; exact hi
  obtain ⟨i, hw⟩ : ∃ i, p.ws = some i := by
    cases hw : p.ws <;> simp_all [isConnected, readyState?]
  have hopen : p.sockets[i]?.map Socket.readyState = some .open := by
    simpa [isConnected, readyState?, hw] using hconn
  obtain ⟨so, hso, hst⟩ := Option.map_eq_some'.1 hopen
  have hlt : p.missedHeartbeats < maxMissedHeartbeats :=
    Nat.lt_of_not_le fun h => by simp [hi.missed_max h] at hconn
  rw [heartbeatTick_of_open hw hopen]
  split
  · exact { hi with
      ws_attached := fun j hj => setReadyState_attached i _ (hi.ws_attached j hj)
      active_ws := hi.setReadyState_active fun h => absurd h (by decide)
      missed_le := hlt
      missed_max := fun _ => by simp [isConnected, readyState?, hw, hso]
      live := fun _ => .inr (by simp [readyState?, hw, hso]) }
  · rename_i hnot
    exact { hi with
      missed_le := Nat.le_of_lt (Nat.lt_of_not_le hnot)
      missed_max := fun h => absurd h hnot }

theorem Inv.disconnected (hi : Inv p) : Inv p.disconnect := by
  simp only [disconnect, stopHeartbeat, clearInterval_of_eq hi.intervals_eq,
    clearTimeout_of_keys hi.timeouts_eq]
  split
  · rename_i i hw
    exact {
      timeouts_eq := rfl
      intervals_eq := rfl
      ws_attached := by simp
      active_ws := fun j so h ha => by
        simp only [closeSocket, getElem?_modify] at h
        split at h
        · obtain ⟨so', -, rfl⟩ := Option.map_eq_some'.1 h
          simp [Socket.close_active] at ha
        · have := hi.active_ws j so h ha
          simp_all
      missed_le := Nat.zero_le _
      missed_max := fun h => absurd h not_maxMissedHeartbeats_le_zero
      live := by simp [closeSocket] }
  · rename_i hw
    exact {
      timeouts_eq := rfl
      intervals_eq := rfl
      ws_attached := by simp [hw]
      active_ws := fun j so h ha => by simpa [hw] using hi.active_ws j so h ha
      missed_le := Nat.zero_le _
      missed_max := fun h => absurd h not_maxMissedHeartbeats_le_zero
      live := by simp }

theorem Inv.step (hi : Inv p) {e : Event μ} {q : Page μ} (hs : p.step e = some q) : Inv q := by
  cases e with
  | opened i =>
    simp only [Page.step] at hs
    split at hs <;> cases hs
    exact hi.opened ‹_›
  | message i parsed =>
    simp only [Page.step] at hs
    split at hs <;> cases hs
    exact hi.message parsed
  | closed i =>
    simp only [Page.step] at hs
    split at hs <;> try cases hs
    split at hs <;> cases hs
    exact hi.closed ‹_›
  | timeoutFires t =>
    simp only [Page.step] at hs
    split at hs <;> cases hs
    have ht : p.reconnectTimer = some t := by
      have := hi.timeouts_eq; cases hr : p.reconnectTimer <;> simp_all
    rw [connect_clearTimeout ht]
    exact hi.connect
  | intervalFires t =>
    simp only [Page.step] at hs
    split at hs <;> cases hs
    exact hi.tick
  | visibilityChange hidden =>
    cases hs
    split
    · exact hi.connect
    · exact hi
  | online => cases hs; exact hi.connect
  | disconnect => cases hs; exact hi.disconnected

end Page

open Page

theorem inv_connectWebSocket (urlValid : Bool) : Inv (connectWebSocket urlValid : Page μ) :=
  inv_connect rfl rfl (by simp [newWebSocketManager]) (Nat.zero_le _)

theorem Reachable.inv {urlValid disconnects : Bool} {p : Page μ}
    (h : Reachable urlValid disconnects p) : Inv p := by
  induction h with
  | init => exact inv_connectWebSocket urlValid
  | step _ _ _ hs ih => exact ih.step hs

namespace Page

variable {p : Page μ}

/-! ### The dashboard's runs: no `disconnect()` -/

/-- What holds in addition where `disconnect()` is never called, as in the dashboard. -/
structure NoStale (p : Page μ) : Prop where
  /-- A socket whose `onclose` handler can still run is `this.ws`. -/
  attached_ws : ∀ i so, p.sockets[i]? = some so → so.onclose = true → so.readyState ≠ .closed →
    p.ws = some i
  /-- A reconnect is pending only while there is no socket or it has closed. -/
  timer_idle : p.reconnectTimer.isSome → p.readyState? = none ∨ p.readyState? = some .closed
  /-- The dashboard shows the connection down only when it is not open. -/
  status : p.wsConnected = false → p.isConnected = false
  /-- The pending reconnect waits the backoff of the attempt it makes. -/
  backoff : ∀ e ∈ p.timeouts, 1 ≤ p.reconnectAttempts ∧ e.2 = exponentialDelay p.reconnectAttempts
  not_intentional : p.intentionallyClosed = false

theorem NoStale.setReadyState_attached (hn : NoStale p) {i : Nat} {r : ReadyState}
    (hr : r ≠ .closed → p.ws = some i) :
    ∀ j so, (p.setReadyState i r).sockets[j]? = some so → so.onclose = true →
      so.readyState ≠ .closed → p.ws = some j := by
  intro j so h hc hnc
  rw [getElem?_setReadyState] at h
  split at h
  · subst_vars
    obtain ⟨so', -, rfl⟩ := Option.map_eq_some'.1 h
    exact hr hnc
  · exact hn.attached_ws j so h hc hnc

theorem Inv.reconnectTimer_none (hi : Inv p) (h : p.timeouts = []) : p.reconnectTimer = none := by
  have := hi.timeouts_eq
  rw [h] at this
  cases hr : p.reconnectTimer <;> simp_all

theorem NoStale.timeouts_nil (hi : Inv p) (hn : NoStale p)
    (h : p.readyState? ≠ none ∧ p.readyState? ≠ some .closed) : p.timeouts = [] := by
  have ht := hi.timeouts_eq
  cases hr : p.reconnectTimer with
  | none => simpa [hr] using ht
  | some t => rcases hn.timer_idle (by simp [hr]) with h' | h' <;> simp_all

theorem NoStale.connect (ht : p.timeouts.map Prod.fst = p.reconnectTimer.toList)
    (hn : NoStale p) : NoStale p.connect := by
  have hretired : ∀ (j : Nat) (so : Socket), p.retired[j]? = some so → so.onclose = true →
      so.readyState ≠ .closed → False := by
    intro j so h hc hnc
    rw [getElem?_retired] at h
    split at h
    · obtain ⟨so', -, rfl⟩ := Option.map_eq_some'.1 h
      simp [Socket.close_onclose] at hc
    · exact ‹¬_› (hn.attached_ws j so h hc hnc)
  rw [connect_eq (clearTimeout_of_keys ht)]
  split
  · exact {
      attached_ws := fun j so h hc hnc => by
        rw [getElem?_append_singleton, length_retired] at h
        split at h
        · simp_all
        · exact (hretired j so h hc hnc).elim
      timer_idle := by simp
      status := fun _ => by simp [isConnected, readyState?, getElem?_append_singleton, length_retired]
      backoff := by simp
      not_intentional := rfl }
  · exact {
      attached_ws := fun j so h hc hnc => (hretired j so h hc hnc).elim
      timer_idle := fun _ => .inl rfl
      status := fun _ => by simp [isConnected, readyState?]
      backoff := by simp
      not_intentional := rfl }

theorem NoStale.opened (hi : Inv p) (hn : NoStale p) {i : Nat}
    (h : p.sockets[i]?.map Socket.readyState = some .connecting) :
    NoStale (p.setReadyState i .open).onopen := by
  obtain ⟨so, hso, hst⟩ := Option.map_eq_some'.1 h
  have hws : p.ws = some i := hi.active_ws i so hso (by simp [hst, ReadyState.active])
  have hnil : p.timeouts = [] := hn.timeouts_nil hi (by simp [readyState?, hws, hso, hst])
  have hidle := hi.reconnectTimer_none hnil
  rw [onopen_eq (p := p.setReadyState i .open) hi.intervals_eq]
  exact {
    attached_ws := hn.setReadyState_attached fun _ => hws
    timer_idle := fun h' => by simp [setReadyState, hidle] at h'
    status := fun h' => by simp at h'
    backoff := by simp [setReadyState, hnil]
    not_intentional := hn.not_intentional }

theorem NoStale.closed (hi : Inv p) (hn : NoStale p) {i : Nat} {so : Socket}
    (hso : p.sockets[i]? = some so) (hnc : so.readyState ≠ .closed) :
    NoStale (if so.onclose then (p.setReadyState i .closed).onclose
      else p.setReadyState i .closed) := by
  have hattached := hn.setReadyState_attached (i := i) (r := .closed) fun h => absurd rfl h
  split
  · rename_i hc
    have hws : p.ws = some i := hn.attached_ws i so hso hc hnc
    have hstate : (p.setReadyState i .closed).readyState? = some .closed := by
      simp [readyState?, hws, hso]
    rw [onclose_eq (p := p.setReadyState i .closed) hi.timeouts_eq hi.intervals_eq]
    simp only [setReadyState] at hstate
    simp only [setReadyState, hn.not_intentional, Bool.false_eq_true, if_false]
    exact {
      attached_ws := hattached
      timer_idle := fun _ => .inr (by simpa [readyState?] using hstate)
      status := fun _ => by simpa [isConnected, readyState?] using congrArg (· = some .open) hstate
      backoff := by simp
      not_intentional := rfl }
  · rename_i hc
    have hws : p.ws ≠ some i := fun hw => by
      obtain ⟨so', h', hc'⟩ := hi.ws_attached i hw
      simp_all
    have hstate : (p.setReadyState i .closed).readyState? = p.readyState? := by
      rw [readyState?_setReadyState, if_neg hws]
    exact {
      attached_ws := hattached
      timer_idle := fun h => by rw [hstate]; exact hn.timer_idle h
      status := fun h => by rw [isConnected, hstate]; exact hn.status h
      backoff := hn.backoff
      not_intentional := hn.not_intentional }

theorem NoStale.tick (hi : Inv p) (hn : NoStale p) : NoStale p.heartbeatTick := by
  cases hconn : p.isConnected
  · rw [heartbeatTick_of_not_connected hconn]; exact hn
  obtain ⟨i, hw⟩ : ∃ i, p.ws = some i := by
    cases hw : p.ws <;> simp_all [isConnected, readyState?]
  have hopen : p.sockets[i]?.map Socket.readyState = some .open := by
    simpa [isConnected, readyState?, hw] using hconn
  obtain ⟨so, hso, hst⟩ := Option.map_eq_some'.1 hopen
  have hnil : p.timeouts = [] := hn.timeouts_nil hi (by simp [readyState?, hw, hso, hst])
  have hidle := hi.reconnectTimer_none hnil
  rw [heartbeatTick_of_open hw hopen]
  split
  · exact {
      attached_ws := hn.setReadyState_attached fun _ => hw
      timer_idle := by simp [setReadyState, hidle]
      status := fun _ => by simp [isConnected, readyState?, hw, hso]
      backoff := by simp [setReadyState, hnil]
      not_intentional := hn.not_intentional }
  · exact { hn with }

theorem NoStale.step (hi : Inv p) (hn : NoStale p) {e : Event μ} (he : ¬ e matches .disconnect)
    {q : Page μ} (hs : p.step e = some q) : NoStale q := by
  cases e with
  | opened i =>
    simp only [Page.step] at hs
    split at hs <;> cases hs
    exact hn.opened hi ‹_›
  | message i parsed =>
    simp only [Page.step] at hs
    split at hs <;> cases hs
    cases parsed with
    | none => exact hn
    | some data => rw [onmessage_some]; exact { hn with }
  | closed i =>
    simp only [Page.step] at hs
    split at hs <;> try cases hs
    split at hs <;> cases hs
    exact hn.closed hi ‹_› ‹_›
  | timeoutFires t =>
    simp only [Page.step] at hs
    split at hs <;> cases hs
    have ht : p.reconnectTimer = some t := by
      have := hi.timeouts_eq; cases hr : p.reconnectTimer <;> simp_all
    rw [connect_clearTimeout ht]
    exact hn.connect hi.timeouts_eq
  | intervalFires t =>
    simp only [Page.step] at hs
    split at hs <;> cases hs
    exact hn.tick hi
  | visibilityChange hidden =>
    cases hs
    split
    · exact hn.connect hi.timeouts_eq
    · exact hn
  | online => cases hs; exact hn.connect hi.timeouts_eq
  | disconnect => exact absurd rfl he

end Page

theorem Reachable.noStale {urlValid : Bool} {p : Page μ} (h : Reachable urlValid false p) :
    NoStale p := by
  induction h with
  | init =>
    exact NoStale.connect rfl {
      attached_ws := by simp [newWebSocketManager]
      timer_idle := by simp [newWebSocketManager]
      status := fun _ => rfl
      backoff := by simp [newWebSocketManager]
      not_intentional := rfl }
  | step e hr hd hs ih => exact ih.step hr.inv (fun h => absurd (hd h) (by decide)) hs

theorem Reachable.run {urlValid disconnects : Bool} {p q : Page μ} :
    ∀ {es : List (Event μ)}, Reachable urlValid disconnects p →
      (∀ e ∈ es, e matches .disconnect → disconnects = true) → p.run es = some q →
      Reachable urlValid disconnects q
  | [], hp, _, hr => by cases hr; exact hp
  | e :: es, hp, hd, hr => by
    simp only [Page.run, Option.bind_eq_some] at hr
    obtain ⟨p', hs, hrest⟩ := hr
    exact Reachable.run (hp.step e (hd e (List.mem_cons_self _ _)) hs)
      (fun e' he' => hd e' (List.mem_cons_of_mem _ he')) hrest

/-! ### The guarantees -/

/-- At every state the page reaches, whatever the order of socket events, timers, visibility and
network events and calls of `disconnect()`: the only pending timeout is `this.reconnectTimer`
and the only running interval `this.heartbeatInterval`, no socket but `this.ws` is connecting
or open, and the heartbeat counts at most `maxMissedHeartbeats` unanswered pings, the last of
which has closed the socket. -/
theorem manager_keeps_one_timer_one_interval_one_socket {urlValid disconnects : Bool} {p : Page μ}
    (h : Reachable urlValid disconnects p) :
    p.timeouts.map Prod.fst = p.reconnectTimer.toList ∧
    p.intervals = p.heartbeatInterval.toList ∧
    (∀ i so, p.sockets[i]? = some so → so.readyState.active → p.ws = some i) ∧
    p.missedHeartbeats ≤ maxMissedHeartbeats ∧
    (maxMissedHeartbeats ≤ p.missedHeartbeats → p.isConnected = false) :=
  have hi := h.inv
  ⟨hi.timeouts_eq, hi.intervals_eq, hi.active_ws, hi.missed_le, hi.missed_max⟩

/-- The dashboard connected, its socket open, and three heartbeat ticks with no message. -/
def silentTicks : List (Event Nat) := [.opened 0, .intervalFires 1, .intervalFires 1, .intervalFires 1]

/-- The third unanswered tick closes the socket, after pings on the first two. -/
theorem manager_keeps_one_timer_one_interval_one_socket_silent :
    ∃ p : Page Nat, (connectWebSocket true).run silentTicks = some p ∧ Reachable true false p ∧
      p.pings = [0, 0] ∧ p.sockets = [⟨.closing, true⟩] ∧
      (p.timeouts.map Prod.fst = p.reconnectTimer.toList ∧
        p.intervals = p.heartbeatInterval.toList ∧
        (∀ i so, p.sockets[i]? = some so → so.readyState.active → p.ws = some i) ∧
        p.missedHeartbeats ≤ maxMissedHeartbeats ∧
        (maxMissedHeartbeats ≤ p.missedHeartbeats → p.isConnected = false)) := by
  obtain ⟨p, hp⟩ : ∃ p, (connectWebSocket true).run silentTicks = some p := ⟨_, rfl⟩
  have hr : Reachable true false p := Reachable.init.run (by decide) hp
  refine ⟨p, hp, hr, ?_, ?_, manager_keeps_one_timer_one_interval_one_socket hr⟩ <;>
    · cases hp; rfl

/-- Unless `disconnect()` was called after the last `connect()`, the manager always has a way
back: a reconnect timer is pending, or `this.ws` is a socket that has not closed yet and whose
`close` event will run `reconnect()`. -/
theorem manager_never_gives_up {urlValid disconnects : Bool} {p : Page μ}
    (h : Reachable urlValid disconnects p) (hc : p.intentionallyClosed = false) :
    p.reconnectTimer.isSome ∨ (p.readyState? ≠ none ∧ p.readyState? ≠ some .closed) :=
  h.inv.live hc

/-- Where `new WebSocket` throws, every attempt re-arms the timer, with a doubled delay. -/
theorem manager_never_gives_up_invalidUrl :
    ∃ p : Page Nat, (connectWebSocket false : Page Nat).run [.timeoutFires 1] = some p ∧
      Reachable false false p ∧ p.intentionallyClosed = false ∧ p.timeouts = [(2, 2000)] ∧
      (p.reconnectTimer.isSome ∨ (p.readyState? ≠ none ∧ p.readyState? ≠ some .closed)) := by
  obtain ⟨p, hp⟩ : ∃ p, (connectWebSocket false : Page Nat).run [.timeoutFires 1] = some p := ⟨_, rfl⟩
  have hr : Reachable false false p := Reachable.init.run (by decide) hp
  have hc : p.intentionallyClosed = false := by cases hp; rfl
  exact ⟨p, hp, hr, hc, by cases hp; rfl, manager_never_gives_up hr hc⟩

/-- On the dashboard's own runs, where `disconnect()` is never called: an `onclose` handler
that can still run is that of `this.ws`; a reconnect is pending only while there is no open or
opening socket, and it waits `min(1000 * 2^(n-1), 30000)` ms plus jitter for the `n`-th attempt
since the socket last opened; `wsConnected` is `false` only when the socket is not open; and
a pending reconnect or a socket that has not closed always exists. -/
theorem dashboard_socket_follows_current_connection {urlValid : Bool} {p : Page μ}
    (h : Reachable urlValid false p) :
    (∀ i so, p.sockets[i]? = some so → so.onclose = true → so.readyState ≠ .closed →
      p.ws = some i) ∧
    (p.reconnectTimer.isSome → p.readyState? = none ∨ p.readyState? = some .closed) ∧
    (∀ e ∈ p.timeouts, 1 ≤ p.reconnectAttempts ∧ e.2 = exponentialDelay p.reconnectAttempts) ∧
    (p.wsConnected = false → p.isConnected = false) ∧
    (p.reconnectTimer.isSome ∨ (p.readyState? ≠ none ∧ p.readyState? ≠ some .closed)) :=
  have hn := h.noStale
  ⟨hn.attached_ws, hn.timer_idle, hn.backoff, hn.status, h.inv.live hn.not_intentional⟩

/-- The socket opens, is closed, the reconnect opens a second one that fails to connect. -/
def twoFailures : List (Event Nat) := [.opened 0, .closed 0, .timeoutFires 2, .closed 1]

theorem dashboard_socket_follows_current_connection_twoFailures :
    ∃ p : Page Nat, (connectWebSocket true).run twoFailures = some p ∧ Reachable true false p ∧
      p.timeouts = [(3, 2000)] ∧ p.wsConnected = false ∧
      ((∀ i so, p.sockets[i]? = some so → so.onclose = true → so.readyState ≠ .closed →
        p.ws = some i) ∧
      (p.reconnectTimer.isSome → p.readyState? = none ∨ p.readyState? = some .closed) ∧
      (∀ e ∈ p.timeouts, 1 ≤ p.reconnectAttempts ∧ e.2 = exponentialDelay p.reconnectAttempts) ∧
      (p.wsConnected = false → p.isConnected = false) ∧
      (p.reconnectTimer.isSome ∨ (p.readyState? ≠ none ∧ p.readyState? ≠ some .closed))) := by
  obtain ⟨p, hp⟩ : ∃ p, (connectWebSocket true).run twoFailures = some p := ⟨_, rfl⟩
  have hr : Reachable true false p := Reachable.init.run (by decide) hp
  refine ⟨p, hp, hr, ?_, ?_, dashboard_socket_follows_current_connection hr⟩ <;>
    · cases hp; rfl

/-- A `close` event of a socket that `disconnect()` closed, arriving after a later `connect()`
(from `visibilitychange` or `online`), still runs that socket's `onclose`: it stops the
heartbeat of the current socket, which it leaves as it was, shows the dashboard disconnected,
and arms a reconnect whose `connect()` detaches and closes the current socket, whatever state
it is in. -/
theorem stale_close_drops_current_socket {urlValid : Bool} {p : Page μ}
    (h : Reachable urlValid true p) {i j : Nat} {so : Socket} (hso : p.sockets[i]? = some so)
    (hc : so.onclose = true) (hnc : so.readyState ≠ .closed) (hws : p.ws = some j) (hij : i ≠ j)
    (hic : p.intentionallyClosed = false) :
    ∃ q, p.step (.closed i) = some q ∧ q.ws = some j ∧ q.sockets[j]? = p.sockets[j]? ∧
      q.heartbeatInterval = none ∧ q.intervals = [] ∧ q.wsConnected = false ∧
      q.reconnectTimer = some p.nextTimerId ∧
      ∃ r, q.step (.timeoutFires p.nextTimerId) = some r ∧ r.ws ≠ some j ∧
        ∃ so', r.sockets[j]? = some so' ∧ so'.onclose = false ∧ so'.readyState.active = false := by
  have hi := h.inv
  obtain ⟨soj, hsoj, -⟩ := hi.ws_attached j hws
  have hlen : j < p.sockets.length := (List.getElem?_eq_some_iff.1 hsoj).1
  have hq : p.step (.closed i) = some (p.setReadyState i .closed).onclose := by
    simp [Page.step, hso, hnc, hc]
  rw [onclose_eq (p := p.setReadyState i .closed) hi.timeouts_eq hi.intervals_eq] at hq
  simp only [setReadyState, hic, Bool.false_eq_true, if_false] at hq
  refine ⟨_, hq, hws, by simp [getElem?_modify, hij], rfl, rfl, rfl, rfl, ?_⟩
  refine ⟨_, by simp [Page.step]; rfl, ?_⟩
  rw [connect_eq (by simp [clearTimeout])]
  have hj : ∀ l : List Socket, (l.modify (fun so => { so with readyState := .closed }) i)[j]? = l[j]? :=
    fun l => by simp [getElem?_modify, hij]
  have hclosed : (Socket.close { soj with onclose := false }).onclose = false := by
    simp [Socket.close_onclose]
  split
  · refine ⟨by simpa using Nat.ne_of_gt hlen, Socket.close { soj with onclose := false }, ?_,
      hclosed, Socket.close_active _⟩
    simp only [getElem?_append_singleton, length_retired, getElem?_retired]
    simp [Nat.ne_of_lt hlen, hws, hj, hsoj]
  · refine ⟨by simp, Socket.close { soj with onclose := false }, ?_, hclosed, Socket.close_active _⟩
    simp only [getElem?_retired]
    simp [hws, hj, hsoj]

/-- The dashboard's socket opens; `disconnect()` is called; the network comes back online and a
second socket opens before the first one's close event arrives. -/
def disconnectThenOnline : List (Event Nat) := [.opened 0, .disconnect, .online, .opened 1]

/-- The first socket's close event then stops the heartbeat of the open second socket, shows it
disconnected, and the reconnect it arms closes the second socket. -/
theorem stale_close_drops_current_socket_online :
    ∃ p : Page Nat, (connectWebSocket true).run disconnectThenOnline = some p ∧
      Reachable true true p ∧ p.sockets[0]? = some ⟨.closing, true⟩ ∧ p.ws = some 1 ∧
      p.isConnected = true ∧ p.intentionallyClosed = false ∧
      ∃ q, p.step (.closed 0) = some q ∧ q.ws = some 1 ∧ q.sockets[1]? = p.sockets[1]? ∧
        q.heartbeatInterval = none ∧ q.intervals = [] ∧ q.wsConnected = false ∧
        q.reconnectTimer = some p.nextTimerId ∧
        ∃ r, q.step (.timeoutFires p.nextTimerId) = some r ∧ r.ws ≠ some 1 ∧
          ∃ so', r.sockets[1]? = some so' ∧ so'.onclose = false ∧ so'.readyState.active = false := by
  obtain ⟨p, hp⟩ : ∃ p, (connectWebSocket true).run disconnectThenOnline = some p := ⟨_, rfl⟩
  have hr : Reachable true true p := Reachable.init.run (by decide) hp
  have h0 : p.sockets[0]? = some ⟨.closing, true⟩ := by cases hp; rfl
  have h1 : p.ws = some 1 := by cases hp; rfl
  have hic : p.intentionallyClosed = false := by cases hp; rfl
  exact ⟨p, hp, hr, h0, h1, by cases hp; rfl, hic,
    stale_close_drops_current_socket hr h0 rfl (by decide) h1 (by decide) hic⟩

end Dashboard

end AlertPipeline
