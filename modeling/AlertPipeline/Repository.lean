import Mathlib.Data.List.Perm.Subperm
import Mathlib.Data.List.Count
import Mathlib.Data.List.Nodup

/-
The alert store of `internal/repository`.  `AlertRepo` is the persistence port.
`PostgresAlertRepo` answers it with SQL over the `alerts` table of the migration, whose rows
are the created alerts in no particular order.  `InMemoryAlertRepo` keeps a slice in `Create`
order, and every method holds the mutex for its whole body, so a call is one atomic step and
the store after any interleaving of calls is the list of the alerts created so far.

`PostgresAlertRepo.Create` is gorm's `INSERT`, which can fail; its queries and every method
of `InMemoryAlertRepo` return a `nil` error here, and those error results are left out.  The
counts are `int64`; a store holds fewer than `2^63` alerts, so they are naturals here.
-/

namespace AlertPipeline

/-- `models.AlertStatusFiring`. -/
def alertStatusFiring : String := "firing"

/-- The fields of `models.Alert` that the repositories read.  An id is a `uuid.UUID`, and
`0` is `uuid.Nil`. -/
structure Alert where
  id : Nat
  status : String
  severity : String
  source : String
  /-- `TriggeredAt`, in nanoseconds. -/
  triggeredAt : Int
deriving Repr, DecidableEq

theorem fresh_of_nodup {stored rest : List Alert} {a : Alert}
    (hids : ((stored ++ a :: rest).map Alert.id).Nodup) :
    a.id ∉ stored.map Alert.id ∧ ((stored ++ [a] ++ rest).map Alert.id).Nodup := by
  refine ⟨fun hmem => ?_, by simpa using hids⟩
  simp only [List.map_append, List.map_cons, List.nodup_append, List.nodup_cons] at hids
  exact hids.2.2 hmem (List.mem_cons_self _ _)

/- The SQL semantics of `PostgresAlertRepo` on the rows `stored` of `alerts`. -/
namespace PostgresAlertRepo

/-- Storing `s` in a `varchar(n)` column: a longer value is an error, unless every character
past the `n`-th is a space; those are cut off. -/
def varchar (n : Nat) (s : String) : Option String :=
  if s.length ≤ n then some s
  else if (s.data.drop n).all (· == ' ') then some ⟨s.data.take n⟩ else none

/-- `Create`: one `INSERT`.  gorm leaves a field at its zero value out of the `INSERT` when
it has a `default` tag, so an empty `Status` gets the column default `'firing'` and a nil `ID`
the value `drawn` of `gen_random_uuid()`.  The insert fails, storing nothing, on a value
too long for its `varchar` column (`status` 20, `severity` 50, `source` 100) and on an id the
table already holds. -/
def create (stored : List Alert) (alert : Alert) (drawn : Nat) : Option (List Alert) := do
  let status ← varchar 20 (if alert.status = "" then alertStatusFiring else alert.status)
  let severity ← varchar 50 alert.severity
  let source ← varchar 100 alert.source
  let id := if alert.id = 0 then drawn else alert.id
  if id ∈ stored.map Alert.id then none
  else some (stored ++ [{ alert with id, status, severity, source }])

/-- A sequence of `Create` calls; one that fails leaves the table as it was.  `drawn k` is
what `gen_random_uuid()` gives the insert into a table of `k` rows. -/
def createAll (drawn : Nat → Nat) (stored : List Alert) : List Alert → List Alert
  | [] => stored
  | alert :: rest =>
    createAll drawn ((create stored alert (drawn stored.length)).getD stored) rest

/-- The alerts that the `INSERT` stores as they are: a non-nil id, a status that is not left
to the column default, and values that fit their columns. -/
def Storable (alert : Alert) : Prop :=
  alert.id ≠ 0 ∧ alert.status ≠ "" ∧ alert.status.length ≤ 20 ∧ alert.severity.length ≤ 50 ∧
    alert.source.length ≤ 100

instance (alert : Alert) : Decidable (Storable alert) :=
  inferInstanceAs (Decidable (_ ∧ _ ∧ _ ∧ _ ∧ _))

theorem varchar_of_le {n : Nat} {s : String} (h : s.length ≤ n) : varchar n s = some s := by
  simp [varchar, h]

theorem create_of_storable {stored : List Alert} {alert : Alert} (ha : Storable alert)
    (hid : alert.id ∉ stored.map Alert.id) (drawn : Nat) :
    create stored alert drawn = some (stored ++ [alert]) := by
  obtain ⟨hid0, hst, hstatus, hsev, hsrc⟩ := ha
  simp only [create, if_neg hst, if_neg hid0, varchar_of_le hstatus, varchar_of_le hsev,
    varchar_of_le hsrc, Option.pure_def, Option.bind_eq_bind, Option.some_bind, if_neg hid]

/-- Storable alerts with distinct ids, none already in the table, are stored as they are. -/
theorem createAll_of_storable (drawn : Nat → Nat) {stored created : List Alert}
    (hs : ∀ a ∈ created, Storable a) (hids : ((stored ++ created).map Alert.id).Nodup) :
    createAll drawn stored created = stored ++ created := by
  induction created generalizing stored with
  | nil => simp [createAll]
  | cons a rest ih =>
    obtain ⟨hid, hnd⟩ := fresh_of_nodup hids
    rw [createAll, create_of_storable (hs a (List.mem_cons_self _ _)) hid, Option.getD_some,
      ih (fun b hb => hs b (List.mem_cons_of_mem a hb)) hnd]
    simp

/-- `SELECT count(*) FROM alerts`. -/
def count (stored : List Alert) : Nat := stored.length

/-- `... WHERE status = ?`. -/
def countByStatus (stored : List Alert) (status : String) : Nat :=
  stored.countP fun alert => alert.status == status

/-- `... WHERE severity = ? AND status = ?`, with `models.AlertStatusFiring`. -/
def countBySeverity (stored : List Alert) (severity : String) : Nat :=
  stored.countP fun alert => alert.severity == severity && alert.status == alertStatusFiring

/-- The answers `ORDER BY triggered_at DESC LIMIT limit` may give: `min(limit, n)` of the
rows, latest first, and no row left out is later than a row returned.  Rows with equal
`triggered_at` may come in any order. -/
def IsRecent (stored : List Alert) (limit : Nat) (answer : List Alert) : Prop :=
  answer.Subperm stored ∧ answer.length = min limit stored.length ∧
    answer.Pairwise (fun a b => b.triggeredAt ≤ a.triggeredAt) ∧
    ∀ a ∈ answer, ∀ b ∈ stored.diff answer, b.triggeredAt ≤ a.triggeredAt

instance (stored : List Alert) (limit : Nat) (answer : List Alert) :
    Decidable (IsRecent stored limit answer) :=
  inferInstanceAs (Decidable (_ ∧ _ ∧ _ ∧ _))

end PostgresAlertRepo

/-- `InMemoryAlertRepo`: the `alerts` slice, in `Create` order. -/
structure InMemoryAlertRepo where
  alerts : List Alert
deriving Repr

namespace InMemoryAlertRepo

def newInMemoryAlertRepo : InMemoryAlertRepo := ⟨[]⟩

def create (r : InMemoryAlertRepo) (alert : Alert) : InMemoryAlertRepo :=
  ⟨r.alerts ++ [alert]⟩

/-- `r.alerts[start:]` with `start := len(r.alerts) - limit`, raised to `0`.  A `start` past
the end of the slice (a negative `limit`) panics. -/
def getRecent (r : InMemoryAlertRepo) (limit : Int) : Option (List Alert) :=
  let start := max (r.alerts.length - limit) 0
  if start ≤ r.alerts.length then some (r.alerts.drop start.toNat) else none

def count (r : InMemoryAlertRepo) : Nat := r.alerts.length

/-- The loop of `CountByStatus` and `CountBySeverity`: `count++` for every alert that
`keep` accepts. -/
def countMatching (r : InMemoryAlertRepo) (keep : Alert → Bool) : Nat :=
  r.alerts.foldl (fun count alert => if keep alert then count + 1 else count) 0

def countByStatus (r : InMemoryAlertRepo) (status : String) : Nat :=
  r.countMatching fun alert => alert.status == status

def countBySeverity (r : InMemoryAlertRepo) (severity : String) : Nat :=
  r.countMatching fun alert => alert.severity == severity && alert.status == alertStatusFiring

/-- A sequence of `Create` calls. -/
def createAll (r : InMemoryAlertRepo) (created : List Alert) : InMemoryAlertRepo :=
  created.foldl create r

theorem createAll_alerts (r : InMemoryAlertRepo) (created : List Alert) :
    (r.createAll created).alerts = r.alerts ++ created := by
  induction created generalizing r with
  | nil => simp [createAll]
  | cons alert rest ih =>
    simp only [createAll, List.foldl_cons] at ih ⊢
    simp [ih, create]

private theorem foldl_count_eq (keep : Alert → Bool) :
    ∀ (alerts : List Alert) (n : Nat),
      alerts.foldl (fun count alert => if keep alert then count + 1 else count) n =
        n + alerts.countP keep
  | [], n => rfl
  | alert :: rest, n => by
    rw [List.foldl_cons, foldl_count_eq keep rest, List.countP_cons]
    split <;> simp [*, Nat.add_assoc, Nat.add_comm 1]

/-- The counting loop counts the matching alerts. -/
theorem countMatching_eq (r : InMemoryAlertRepo) (keep : Alert → Bool) :
    r.countMatching keep = r.alerts.countP keep := by
  simpa using foldl_count_eq keep r.alerts 0

/-- For a non-negative `limit`, `GetRecent` is the last `min(limit, n)` alerts, in `Create`
order. -/
theorem getRecent_eq (r : InMemoryAlertRepo) {limit : Int} (hl : 0 ≤ limit) :
    r.getRecent limit = some (r.alerts.drop (r.alerts.length - limit.toNat)) := by
  have hstart : (max ((r.alerts.length : Int) - limit) 0).toNat =
      r.alerts.length - limit.toNat := by omega
  simp only [getRecent, hstart, if_pos (show max ((r.alerts.length : Int) - limit) 0 ≤
    r.alerts.length by omega)]

/-- A suffix of alerts stored in non-decreasing `triggered_at` order, read backwards, is an
answer of the `ORDER BY triggered_at DESC` query. -/
theorem isRecent_reverse_drop {stored : List Alert}
    (hs : stored.Pairwise fun a b => a.triggeredAt ≤ b.triggeredAt) (limit : Nat) :
    PostgresAlertRepo.IsRecent stored limit (stored.drop (stored.length - limit)).reverse := by
  set kept := stored.drop (stored.length - limit)
  have hsplit : stored.take (stored.length - limit) ++ kept = stored := List.take_append_drop _ _
  have hdiff : (stored.diff kept).Perm (stored.take (stored.length - limit)) := by
    have hp : (kept ++ stored.diff kept).Perm stored :=
      List.subperm_append_diff_self_of_count_le fun x _ => (List.drop_sublist _ _).count_le x
    have hc : (stored.take (stored.length - limit) ++ kept).Perm
        (kept ++ stored.take (stored.length - limit)) := List.perm_append_comm
    rw [hsplit] at hc
    exact (List.perm_append_left_iff kept).1 (hp.trans hc)
  refine ⟨(List.reverse_perm _).subperm.trans (List.drop_sublist _ _).subperm,
    by simp [kept]; omega, List.pairwise_reverse.2 (hs.sublist (List.drop_sublist _ _)),
    fun a ha b hb => ?_⟩
  rw [List.Perm.diff_left _ (List.reverse_perm _), hdiff.mem_iff] at hb
  rw [List.mem_reverse] at ha
  rw [← hsplit, List.pairwise_append] at hs
  exact hs.2.2 b hb a ha

/-- A firing `critical` pod alert raised at time `t`. -/
def firingAt (id : Nat) (t : Int) : Alert :=
  { id, status := alertStatusFiring, severity := "critical", source := "k8s_pod", triggeredAt := t }

/-- A firing alert whose `Status` was left empty, and one whose status does not fit
`varchar(20)`. -/
def unsetStatus : Alert :=
  { firingAt 1 1 with status := "" }

def longStatus : Alert :=
  { firingAt 1 1 with status := "acknowledged-by-oncall" }

end InMemoryAlertRepo

end AlertPipeline
