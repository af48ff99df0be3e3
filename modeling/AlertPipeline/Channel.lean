import Mathlib.Logic.Function.Basic
import Mathlib.Data.List.Basic

/-
Go channels and goroutine families, as the alert pipeline uses them.  Every buffered
channel of the pipeline (the pool's task queue, the bus's event channel, the watchers'
event channels, the hub's broadcast channel) is written with the non-blocking
`select { case ch <- v: ... default: ... }` and read by one `select` case.  Unbuffered
channels (the hub's register and unregister) are rendezvous and live with the hub.

Goroutines that may be started any number of times (callers of `Submit`, `Stop`,
`ServeWS`, ...) are modelled as a family `Nat → Phase` of slots, an unused slot sitting in
the phase `idle`; one step of the model is one atomic action of one goroutine.
-/

namespace AlertPipeline

/-- A buffered Go channel `make(chan α, capacity)`: the values in flight in FIFO order and
whether it has been closed. -/
structure Chan (α : Type) where
  buffer : List α
  capacity : Nat
  closed : Bool
deriving Repr

/-- `make(chan α, capacity)`. -/
def Chan.make (capacity : Nat) : Chan α := ⟨[], capacity, false⟩

/-- The three ways `select { case ch <- v: ... default: ... }` can end. -/
inductive TrySend (α : Type) where
  /-- The value entered the buffer. -/
  | sent (next : Chan α)
  /-- The buffer was full: the `default` branch ran. -/
  | full
  /-- `panic: send on closed channel`. -/
  | panics
deriving Repr

/-- A non-blocking send.  A send on a closed channel panics even inside a `select` with a
`default` branch. -/
def Chan.trySend (ch : Chan α) (v : α) : TrySend α :=
  if ch.closed then .panics
  else if ch.buffer.length < ch.capacity then .sent { ch with buffer := ch.buffer ++ [v] }
  else .full

/-- The `case v, ok := <-ch` branch of a `select`: `some (some v, ch')` receives the oldest
buffered value, `some (none, ch)` is the zero value with `ok = false` of a closed and
drained channel, and `none` means the case is not ready. -/
def Chan.recv? (ch : Chan α) : Option (Option α × Chan α) :=
  match ch.buffer with
  | v :: rest => some (some v, { ch with buffer := rest })
  | [] => if ch.closed then some (none, ch) else none

@[simp] theorem Chan.make_buffer (capacity : Nat) : (Chan.make capacity : Chan α).buffer = [] :=
  rfl

@[simp] theorem Chan.make_capacity (capacity : Nat) :
    (Chan.make capacity : Chan α).capacity = capacity := rfl

@[simp] theorem Chan.make_closed (capacity : Nat) : (Chan.make capacity : Chan α).closed = false :=
  rfl

theorem Chan.trySend_eq_sent {ch next : Chan α} {v : α} (h : ch.trySend v = .sent next) :
    ch.closed = false ∧ ch.buffer.length < ch.capacity ∧
      next = { ch with buffer := ch.buffer ++ [v] } := by
  unfold Chan.trySend at h
  split at h
  · cases h
  · split at h
    · cases h
      exact ⟨by simpa using ‹¬ch.closed = true›, ‹_›, rfl⟩
    · cases h

theorem Chan.trySend_eq_full {ch : Chan α} {v : α} (h : ch.trySend v = .full) :
    ch.closed = false ∧ ch.capacity ≤ ch.buffer.length := by
  unfold Chan.trySend at h
  split at h
  · cases h
  · split at h
    · cases h
    · exact ⟨by simpa using ‹¬ch.closed = true›, by omega⟩

theorem Chan.trySend_eq_panics {ch : Chan α} {v : α} :
    ch.trySend v = .panics ↔ ch.closed = true := by
  unfold Chan.trySend
  split
  · simpa
  · split <;> simp_all

theorem Chan.recv?_eq_some_some {ch ch' : Chan α} {v : α}
    (h : ch.recv? = some (some v, ch')) :
    ch.buffer = v :: ch'.buffer ∧ ch'.capacity = ch.capacity ∧ ch'.closed = ch.closed := by
  unfold Chan.recv? at h
  split at h
  · cases h
    exact ⟨‹ch.buffer = _›, rfl, rfl⟩
  · split at h <;> cases h

theorem Chan.recv?_eq_some_none {ch ch' : Chan α}
    (h : ch.recv? = some (none, ch')) : ch.buffer = [] ∧ ch.closed = true ∧ ch' = ch := by
  unfold Chan.recv? at h
  split at h
  · cases h
  · split at h
    · cases h
      exact ⟨‹_›, ‹_›, rfl⟩
    · cases h

end AlertPipeline
