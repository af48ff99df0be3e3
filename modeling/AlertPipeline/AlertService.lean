import AlertPipeline.Repository

/-
The recent-alerts path over the in-memory store: `AlertHandler.GetRecentAlerts` reads the
`limit` query and `alertService.GetRecentAlerts` clamps it before `InMemoryAlertRepo.GetRecent`
slices.  `GetRecent` alone panics on a negative limit (`InMemoryAlertRepo.getRecent` is `none`
there); the clamp keeps every call in bounds.
-/

namespace AlertPipeline

namespace AlertService

/-- `alertService.GetRecentAlerts` over an `InMemoryAlertRepo`. -/
def getRecentAlerts (repo : InMemoryAlertRepo) (limit : Int) : Option (List Alert) :=
  let limit := if limit ≤ 0 ∨ limit > 1000 then 100 else limit
  repo.getRecent limit

/-- The clamped limit is `limit` in `[1, 1000]` and `100` otherwise, so `GetRecent` gets a
positive one. -/
theorem getRecentAlerts_eq (repo : InMemoryAlertRepo) (limit : Int) :
    getRecentAlerts repo limit = some (repo.alerts.drop (repo.alerts.length -
      (if 1 ≤ limit ∧ limit ≤ 1000 then limit.toNat else 100))) := by
  have hclamp : (if limit ≤ 0 ∨ limit > 1000 then (100 : Int) else limit).toNat =
      if 1 ≤ limit ∧ limit ≤ 1000 then limit.toNat else 100 := by
    split_ifs <;> omega
  rw [getRecentAlerts, InMemoryAlertRepo.getRecent_eq repo (by split_ifs <;> omega), hclamp]

/-- For every limit and every store, `GetRecentAlerts` slices in bounds and answers the last
`min(L, n)` alerts of the `n` stored, where `L` is the limit when it lies in `[1, 1000]` and
`100` otherwise. -/
theorem getRecentAlerts_in_bounds (repo : InMemoryAlertRepo) (limit : Int) :
    ∃ alerts, getRecentAlerts repo limit = some alerts ∧
      alerts = repo.alerts.drop (repo.alerts.length -
        (if 1 ≤ limit ∧ limit ≤ 1000 then limit.toNat else 100)) ∧
      alerts.length = min (if 1 ≤ limit ∧ limit ≤ 1000 then limit.toNat else 100)
        repo.alerts.length :=
  ⟨_, getRecentAlerts_eq repo limit, rfl, by rw [List.length_drop]; omega⟩

end AlertService

/-- `AlertHandler.GetRecentAlerts`: `atoi` is `strconv.Atoi` of the `limit` query (`"50"` when
it is absent), `none` where it fails.  The answer is the `alerts` and `count` of the JSON body;
`none` is a panic of the store. -/
def AlertHandler.getRecentAlerts (repo : InMemoryAlertRepo) (atoi : Option Int) :
    Option (List Alert × Nat) :=
  let limit := match atoi with
    | some limit => if limit ≤ 0 then 50 else limit
    | none => 50
  (AlertService.getRecentAlerts repo limit).map fun alerts => (alerts, alerts.length)

/-- The handler always answers: `50` alerts at most for a missing, unreadable or non-positive
`limit`, the `limit` in `[1, 1000]`, and `100` above that. -/
theorem AlertHandler.getRecentAlerts_count (repo : InMemoryAlertRepo) (atoi : Option Int) :
    ∃ alerts, AlertHandler.getRecentAlerts repo atoi = some (alerts, alerts.length) ∧
      alerts.length = min (match atoi with
        | some limit => if limit ≤ 0 then 50 else if limit ≤ 1000 then limit.toNat else 100
        | none => 50) repo.alerts.length := by
  refine ⟨_, by
    simp only [AlertHandler.getRecentAlerts]
    rw [AlertService.getRecentAlerts_eq]
    rfl, ?_⟩
  rw [List.length_drop]
  rcases atoi with _ | limit
  · dsimp only; rw [if_pos (by decide)]; omega
  · simp only; split_ifs <;> omega

end AlertPipeline
