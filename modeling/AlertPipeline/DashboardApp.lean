import Mathlib.Data.List.Nodup
import AlertPipeline.Repository

/-
The dashboard's alert list and counters (`dashboardApp()` in the page script).  `fetchAlerts`
stores what the four API requests answer; `handleWebSocketMessage` then updates the list and
the counters in place for each alert the socket delivers ("counts are updated optimistically
above; full refresh from API happens every 30 seconds").  Behind the API is the
`PostgresAlertRepo` of `main`: the list is an answer of `GetRecent(100)`, the counters are
its count queries (`alertService.GetTotalAlertsCount`, `GetFiringAlertsCount`, and the four
queries of `GetSeverityCounts`).  `Promise.all` sends the four requests at once, so each of
the seven queries reads the table as it is when it runs, and alerts created meanwhile are in
some of them only.  Each socket message is one alert that `AlertStateManager.ProcessAlert`
created and `Hub.OnAlert` marshalled.

An alert of the page is the JSON of `models.Alert` with the fields the page reads, and
`fingerprint`, which the page reads and `models.Alert` does not have.  Toasts, the filters,
the modal, `loading` and `lastUpdated` are read by neither the list nor the counters and are
left out.
-/

namespace AlertPipeline

/-- `service.SeverityCounts`, and the page's `severityCounts`, its JSON. -/
structure SeverityCounts where
  critical : Nat
  high : Nat
  medium : Nat
  low : Nat
deriving Repr, DecidableEq

/-- `severityCounts[severity] = f(severityCounts[severity])` on the page, where that key is
defined (`!== undefined`); for any other severity nothing changes. -/
def SeverityCounts.modify (c : SeverityCounts) (severity : String) (f : Nat → Nat) :
    SeverityCounts :=
  if severity = "critical" then { c with critical := f c.critical }
  else if severity = "high" then { c with high := f c.high }
  else if severity = "medium" then { c with medium := f c.medium }
  else if severity = "low" then { c with low := f c.low }
  else c

/-- `alertService.GetSeverityCounts`: four `CountBySeverity` queries in turn, on the rows
`critical`, `high`, `medium` and `low` of `PostgresAlertRepo` that each of them read. -/
def AlertService.getSeverityCounts (critical high medium low : List Alert) : SeverityCounts :=
  { critical := PostgresAlertRepo.countBySeverity critical "critical"
    high := PostgresAlertRepo.countBySeverity high "high"
    medium := PostgresAlertRepo.countBySeverity medium "medium"
    low := PostgresAlertRepo.countBySeverity low "low" }

theorem countBySeverity_snoc (stored : List Alert) (a : Alert) (severity : String) :
    PostgresAlertRepo.countBySeverity (stored ++ [a]) severity =
      PostgresAlertRepo.countBySeverity stored severity +
        if a.severity = severity ∧ a.status = alertStatusFiring then 1 else 0 := by
  simp [PostgresAlertRepo.countBySeverity, List.countP_cons]

theorem getSeverityCounts_snoc (critical high medium low : List Alert) (a : Alert) :
    AlertService.getSeverityCounts (critical ++ [a]) (high ++ [a]) (medium ++ [a]) (low ++ [a]) =
      if a.status = alertStatusFiring then
        (AlertService.getSeverityCounts critical high medium low).modify a.severity fun n => n + 1
      else AlertService.getSeverityCounts critical high medium low := by
  simp only [AlertService.getSeverityCounts, countBySeverity_snoc]
  by_cases hf : a.status = alertStatusFiring
  · simp only [hf, and_true, if_true, SeverityCounts.modify]
    split_ifs <;> simp_all
  · simp [hf]

namespace Dashboard

/-! ### The page -/

/-- An alert object of the page, as `JSON.parse` builds it. -/
structure PageAlert extends Alert where
  /-- `fingerprint`; `none` is `undefined`. -/
  fingerprint : Option String
deriving Repr, DecidableEq

/-- The JSON of a stored alert: `models.Alert` has no `fingerprint`. -/
def PageAlert.ofAlert (a : Alert) : PageAlert := { a with fingerprint := none }

/-- The fields of `dashboardApp()` that the alert list and its counters use. -/
structure App where
  alerts : List PageAlert
  severityCounts : SeverityCounts
  totalAlerts : Nat
  activeAlertsCount : Nat
  unreadCount : Nat
  readAlertIds : List Nat
  systemHealthStatus : String
deriving Repr, DecidableEq

def maxUnreadCount : Nat := 50

/-- `dashboardApp()` once `loadReadAlertsFromStorage` found `readAlertIds`. -/
def dashboardApp (readAlertIds : List Nat) : App :=
  { alerts := [], severityCounts := ⟨0, 0, 0, 0⟩, totalAlerts := 0, activeAlertsCount := 0,
    unreadCount := 0, readAlertIds, systemHealthStatus := "healthy" }

/-- The status `updateSystemHealth` derives from the severity counts. -/
def systemHealth (severityCounts : SeverityCounts) : String :=
  if severityCounts.critical > 0 then "critical"
  else if severityCounts.high > 3 then "degraded"
  else if severityCounts.high > 0 then "warning"
  else "healthy"

def App.updateSystemHealth (app : App) : App :=
  { app with systemHealthStatus := systemHealth app.severityCounts }

/-- The answers of the four requests of `fetchAlerts`: `alertsData.alerts`,
`countData.count`, `activeCountData.count` and `severityData`. -/
structure Answers where
  alerts : List PageAlert
  count : Nat
  activeCount : Nat
  severityCounts : SeverityCounts
deriving Repr, DecidableEq

/-- `fetchAlerts`: once the four requests answered, the list, the counters and the unread
count of the new list; when one failed (`none`), `systemHealthStatus := 'degraded'` alone
(the toast it shows is left out). -/
def App.fetchAlerts (app : App) : Option Answers → App
  | some answers =>
    { app with
      alerts := answers.alerts
      totalAlerts := answers.count
      activeAlertsCount := answers.activeCount
      severityCounts := answers.severityCounts
      unreadCount := (answers.alerts.filter fun (a : PageAlert) =>
        a.status == "firing" && !app.readAlertIds.contains a.id).length }.updateSystemHealth
  | none => { app with systemHealthStatus := "degraded" }

/-- The rows of `alerts` that each query behind one `fetchAlerts` read. -/
structure Reads where
  recent : List Alert
  count : List Alert
  active : List Alert
  critical : List Alert
  high : List Alert
  medium : List Alert
  low : List Alert
deriving Repr, DecidableEq

/-- Every query read the same rows: no alert was created while the fetch ran. -/
def Reads.one (stored : List Alert) : Reads :=
  ⟨stored, stored, stored, stored, stored, stored, stored⟩

/-- The rows read, each with `created` stored after them. -/
def Reads.append (reads : Reads) (created : List Alert) : Reads :=
  ⟨reads.recent ++ created, reads.count ++ created, reads.active ++ created,
    reads.critical ++ created, reads.high ++ created, reads.medium ++ created,
    reads.low ++ created⟩

/-- Every query read a state of the table no later than `stored`. -/
def Reads.Within (reads : Reads) (stored : List Alert) : Prop :=
  reads.recent.Sublist stored ∧ reads.count.Sublist stored ∧ reads.active.Sublist stored ∧
    reads.critical.Sublist stored ∧ reads.high.Sublist stored ∧ reads.medium.Sublist stored ∧
    reads.low.Sublist stored

instance (reads : Reads) (stored : List Alert) : Decidable (reads.Within stored) :=
  inferInstanceAs (Decidable (_ ∧ _ ∧ _ ∧ _ ∧ _ ∧ _ ∧ _))

/-- What the server answers `fetchAlerts` when the query of
`GET /api/alerts/recent?limit=100` (a limit the handler and `GetRecentAlerts` pass on as it
is) returned `recent` and the count queries read `reads`. -/
def serverAnswers (reads : Reads) (recent : List Alert) : Answers :=
  { alerts := recent.map PageAlert.ofAlert
    count := PostgresAlertRepo.count reads.count
    activeCount := PostgresAlertRepo.countByStatus reads.active alertStatusFiring
    severityCounts :=
      AlertService.getSeverityCounts reads.critical reads.high reads.medium reads.low }

/-- The test of `findIndex` in `addAlert`: the same `id`, or a truthy `fingerprint` equal to
the new alert's. -/
def sameAlert (alert a : PageAlert) : Bool :=
  a.id == alert.id || match a.fingerprint with
    | some f => f != "" && a.fingerprint == alert.fingerprint
    | none => false

/-- `addAlert` for an alert found at `existingIndex`: replace it, and move the counts when
its status crosses `'firing'`. -/
def App.updateAlert (app : App) (existingIndex : Nat) (oldAlert alert : PageAlert) : App :=
  let app := { app with alerts := app.alerts.set existingIndex alert }
  if oldAlert.status != alert.status then
    (if oldAlert.status == "firing" && alert.status != "firing" then
      { app with
        activeAlertsCount := app.activeAlertsCount - 1
        severityCounts := app.severityCounts.modify oldAlert.severity fun n => n - 1 }
    else if oldAlert.status != "firing" && alert.status == "firing" then
      { app with
        activeAlertsCount := app.activeAlertsCount + 1
        severityCounts := app.severityCounts.modify alert.severity fun n => n + 1 }
    else app).updateSystemHealth
  else app

/-- `addAlert` for a new alert: put it first, count it, and keep the first 100. -/
def App.insertAlert (app : App) (alert : PageAlert) : App :=
  let app := { app with alerts := alert :: app.alerts, totalAlerts := app.totalAlerts + 1 }
  let app := if alert.status == "firing" then
      { app with
        activeAlertsCount := app.activeAlertsCount + 1
        severityCounts := app.severityCounts.modify alert.severity fun n => n + 1
      }.updateSystemHealth
    else app
  let app := if alert.status == "firing" && !app.readAlertIds.contains alert.id &&
      app.unreadCount < maxUnreadCount then { app with unreadCount := app.unreadCount + 1 }
    else app
  if app.alerts.length > 100 then { app with alerts := app.alerts.take 100 } else app

def App.addAlert (app : App) (alert : PageAlert) : App :=
  match app.alerts.find? (sameAlert alert) with
  | some oldAlert => app.updateAlert (app.alerts.findIdx (sameAlert alert)) oldAlert alert
  | none => app.insertAlert alert

/-- A socket message as `JSON.parse` builds it. -/
structure Message where
  type : Option String
  payload : Option PageAlert
deriving Repr, DecidableEq

/-- `handleWebSocketMessage` (the toast it shows for a critical or high alert is left out). -/
def App.handleWebSocketMessage (app : App) (message : Message) : App :=
  if message.type = some "alert" then
    match message.payload with
    | some alert => app.addAlert alert
    | none => app
  else app

/-- The message `Hub.OnAlert` broadcasts for a created alert. -/
def alertMessage (a : Alert) : Message := ⟨some "alert", some (PageAlert.ofAlert a)⟩

/-- The page's updates for the alerts the socket delivers, in order. -/
def App.handleAlerts (app : App) (delivered : List Alert) : App :=
  delivered.foldl (fun app a => app.handleWebSocketMessage (alertMessage a)) app

/-! ### What a new alert does -/

section Insert

variable {app : App} {p : PageAlert}

@[simp] theorem PageAlert.ofAlert_toAlert (a : Alert) : (PageAlert.ofAlert a).toAlert = a := rfl

theorem insertAlert_alerts : (app.insertAlert p).alerts = (p :: app.alerts).take 100 := by
  simp only [App.insertAlert, App.updateSystemHealth, apply_ite App.alerts, ite_self]
  split_ifs with h
  · rfl
  · exact (List.take_of_length_le (by simpa using h)).symm

theorem insertAlert_totalAlerts : (app.insertAlert p).totalAlerts = app.totalAlerts + 1 := by
  simp only [App.insertAlert, App.updateSystemHealth, apply_ite App.totalAlerts, ite_self]

theorem insertAlert_counts :
    (app.insertAlert p).activeAlertsCount =
        app.activeAlertsCount + (if p.status = "firing" then 1 else 0) ∧
      (app.insertAlert p).severityCounts =
        if p.status = "firing" then app.severityCounts.modify p.severity fun n => n + 1
        else app.severityCounts := by
  simp only [App.insertAlert, App.updateSystemHealth, apply_ite App.activeAlertsCount,
    apply_ite App.severityCounts, ite_self, beq_iff_eq]
  split_ifs <;> simp

theorem insertAlert_health (h : app.systemHealthStatus = systemHealth app.severityCounts) :
    (app.insertAlert p).systemHealthStatus =
      systemHealth (app.insertAlert p).severityCounts := by
  simp only [App.insertAlert, App.updateSystemHealth, apply_ite App.systemHealthStatus,
    apply_ite App.severityCounts, ite_self, beq_iff_eq]
  split_ifs <;> first | rfl | exact h

end Insert

/-! ### The page against the store -/

/-- The page shows what the queries of `reads` read: every alert of its list is the JSON of
a row the recent query read, and each counter is the count its query made, with the status
they give. -/
structure Shows (app : App) (reads : Reads) : Prop where
  stored_alerts : ∀ p ∈ app.alerts, p.fingerprint = none ∧ p.toAlert ∈ reads.recent
  total : app.totalAlerts = PostgresAlertRepo.count reads.count
  active : app.activeAlertsCount = PostgresAlertRepo.countByStatus reads.active alertStatusFiring
  severity : app.severityCounts =
    AlertService.getSeverityCounts reads.critical reads.high reads.medium reads.low
  health : app.systemHealthStatus = systemHealth app.severityCounts

/-- A fetch that succeeded shows what its queries read, whatever the page held before. -/
theorem fetchAlerts_shows (app : App) {reads : Reads} {recent : List Alert}
    (hrecent : PostgresAlertRepo.IsRecent reads.recent 100 recent) :
    Shows (app.fetchAlerts (some (serverAnswers reads recent))) reads where
  stored_alerts p hp := by
    obtain ⟨a, ha, rfl⟩ := List.mem_map.1 hp
    exact ⟨rfl, hrecent.1.subset ha⟩
  total := rfl
  active := rfl
  severity := rfl
  health := rfl

theorem Shows.find?_eq_none {app : App} {reads : Reads} (h : Shows app reads)
    {a : Alert} (ha : a.id ∉ reads.recent.map Alert.id) :
    app.alerts.find? (sameAlert (PageAlert.ofAlert a)) = none := by
  refine List.find?_eq_none.2 fun p hp => ?_
  obtain ⟨hfp, hmem⟩ := h.stored_alerts p hp
  have hid : p.id ≠ a.id := fun heq => ha (List.mem_map.2 ⟨p.toAlert, hmem, heq⟩)
  simp [sameAlert, hfp, hid]

theorem Shows.handleWebSocketMessage_eq {app : App} {reads : Reads} (h : Shows app reads)
    {a : Alert} (ha : a.id ∉ reads.recent.map Alert.id) :
    app.handleWebSocketMessage (alertMessage a) = app.insertAlert (PageAlert.ofAlert a) := by
  simp only [App.handleWebSocketMessage, alertMessage, if_pos, App.addAlert, h.find?_eq_none ha]

/-- One step of the optimistic update: the message for an alert just stored, with an id the
recent query did not see, counts it once more on every counter. -/
theorem Shows.handleAlert {app : App} {reads : Reads} (h : Shows app reads) {a : Alert}
    (ha : a.id ∉ reads.recent.map Alert.id) :
    Shows (app.handleWebSocketMessage (alertMessage a)) (reads.append [a]) := by
  obtain ⟨hactive, hseverity⟩ := @insertAlert_counts app (PageAlert.ofAlert a)
  rw [h.handleWebSocketMessage_eq ha]
  refine ⟨fun p hp => ?_, ?_, ?_, ?_, insertAlert_health h.health⟩
  · rw [insertAlert_alerts] at hp
    rcases List.mem_cons.1 (List.mem_of_mem_take hp) with rfl | hp
    · exact ⟨rfl, List.mem_append_right _ (List.mem_singleton_self _)⟩
    · exact (h.stored_alerts p hp).imp_right (List.mem_append_left _)
  · rw [insertAlert_totalAlerts, h.total]
    simp [PostgresAlertRepo.count, Reads.append]
  · rw [hactive, h.active]
    simp [PostgresAlertRepo.countByStatus, PageAlert.ofAlert, alertStatusFiring, List.countP_cons,
      Reads.append]
  · rw [hseverity, h.severity]
    exact (getSeverityCounts_snoc _ _ _ _ a).symm

@[simp] theorem Reads.append_nil (reads : Reads) : reads.append [] = reads := by
  simp [Reads.append]

theorem Reads.append_append (reads : Reads) (l l' : List Alert) :
    (reads.append l).append l' = reads.append (l ++ l') := by
  simp [Reads.append]

/-- The run: alerts with ids new to the recent query and to each other, each delivered once,
are counted once more each. -/
theorem Shows.handleAlerts {app : App} {reads : Reads} (h : Shows app reads)
    {created : List Alert} (hids : ((reads.recent ++ created).map Alert.id).Nodup) :
    Shows (app.handleAlerts created) (reads.append created) := by
  induction created generalizing app reads with
  | nil => simpa [App.handleAlerts] using h
  | cons a rest ih =>
    obtain ⟨ha, hnd⟩ := fresh_of_nodup hids
    have := ih (h.handleAlert ha) hnd
    rwa [Reads.append_append] at this

/-! ### The list against the recent query -/

/-- A row no earlier than every stored one, put first on an answer of the recent query and
cut to `limit` rows, gives an answer once it is stored. -/
theorem isRecent_cons_take {stored answer : List Alert} {limit : Nat} {a : Alert}
    (h : PostgresAlertRepo.IsRecent stored limit answer) (hnd : stored.Nodup) (ha : a ∉ stored)
    (hlate : ∀ b ∈ stored, b.triggeredAt ≤ a.triggeredAt) (hlimit : 0 < limit) :
    PostgresAlertRepo.IsRecent (stored ++ [a]) limit ((a :: answer).take limit) := by
  obtain ⟨hsub, hlen, hsorted, hrest⟩ := h
  obtain ⟨k, rfl⟩ : ∃ k, limit = k + 1 := ⟨limit - 1, by omega⟩
  have hmem : ∀ x ∈ answer, x ∈ stored := fun x hx => hsub.subset hx
  have hsplit : ∀ x ∈ answer.take k, ∀ y ∈ answer.drop k, y.triggeredAt ≤ x.triggeredAt :=
    (List.pairwise_append.1 ((List.take_append_drop k answer).symm ▸ hsorted)).2.2
  rw [List.take_succ_cons]
  refine ⟨?_, ?_, ?_, fun x hx b hb => ?_⟩
  · exact ((List.subperm_cons a).2 ((List.take_sublist k answer).subperm.trans hsub)).trans
      (List.perm_append_singleton a stored).symm.subperm
  · simp only [List.length_cons, List.length_take, List.length_append, List.length_nil,
      hlen]
    omega
  · exact List.pairwise_cons.2 ⟨fun x hx => hlate x (hmem x (List.mem_of_mem_take hx)),
      hsorted.sublist (List.take_sublist k answer)⟩
  · rw [List.diff_cons, List.erase_append_right _ ha, List.erase_cons_head, List.append_nil,
      hnd.mem_diff_iff] at hb
    rcases List.mem_cons.1 hx with rfl | hx
    · exact hlate b hb.1
    · by_cases hba : b ∈ answer
      · have hdrop : b ∈ answer.drop k := by
          rw [← List.take_append_drop k answer, List.mem_append] at hba
          exact hba.resolve_left hb.2
        exact hsplit x hx b hdrop
      · exact hrest x (List.mem_of_mem_take hx) b (hnd.mem_diff_iff.2 ⟨hb.1, hba⟩)

/-- One step: the list after a new alert no earlier than the stored ones is an answer of the
recent query on the store with it. -/
theorem Shows.handleAlert_recent {app : App} {stored : List Alert}
    (h : Shows app (Reads.one stored))
    (hrecent : PostgresAlertRepo.IsRecent stored 100 (app.alerts.map PageAlert.toAlert))
    (hnd : stored.Nodup) {a : Alert} (ha : a.id ∉ stored.map Alert.id)
    (hlate : ∀ b ∈ stored, b.triggeredAt ≤ a.triggeredAt) :
    PostgresAlertRepo.IsRecent (stored ++ [a]) 100
      ((app.handleWebSocketMessage (alertMessage a)).alerts.map PageAlert.toAlert) := by
  rw [h.handleWebSocketMessage_eq ha, insertAlert_alerts, List.map_take, List.map_cons,
    PageAlert.ofAlert_toAlert]
  exact isRecent_cons_take hrecent hnd (fun hmem => ha (List.mem_map_of_mem _ hmem)) hlate
    (by decide)

/-- The run: alerts delivered in `triggered_at` order, none earlier than a stored one, keep the
list an answer of the recent query. -/
theorem Shows.handleAlerts_recent {app : App} {stored : List Alert}
    (h : Shows app (Reads.one stored))
    (hrecent : PostgresAlertRepo.IsRecent stored 100 (app.alerts.map PageAlert.toAlert))
    {created : List Alert} (hids : ((stored ++ created).map Alert.id).Nodup)
    (hlate : ∀ b ∈ stored, ∀ a ∈ created, b.triggeredAt ≤ a.triggeredAt)
    (hsorted : created.Pairwise fun a b => a.triggeredAt ≤ b.triggeredAt) :
    PostgresAlertRepo.IsRecent (stored ++ created) 100
      ((app.handleAlerts created).alerts.map PageAlert.toAlert) := by
  induction created generalizing app stored with
  | nil => simpa [App.handleAlerts] using hrecent
  | cons a rest ih =>
    obtain ⟨ha, hnd⟩ := fresh_of_nodup hids
    obtain ⟨ha_first, hsorted⟩ := List.pairwise_cons.1 hsorted
    have hstored : stored.Nodup := (List.nodup_append.1 (List.Nodup.of_map Alert.id hids)).1
    have hlate' : ∀ b ∈ stored ++ [a], ∀ c ∈ rest, b.triggeredAt ≤ c.triggeredAt := by
      intro b hb c hc
      rcases List.mem_append.1 hb with hb | hb
      · exact hlate b hb c (List.mem_cons_of_mem a hc)
      · exact (List.mem_singleton.1 hb) ▸ ha_first c hc
    simpa [App.handleAlerts] using ih (h.handleAlert ha)
      (h.handleAlert_recent hrecent hstored ha fun b hb => hlate b hb a (List.mem_cons_self a rest))
      hnd hlate' hsorted

/-! ### Live updates against a reload -/

/-- From a fetch whose queries all read the store `stored`, the page updated in place for the
alerts created after it, each delivered once and with ids new to the store, shows the store
with them: its total, firing and severity counters are the store's counts and its status the
one they give, as a reload would set them.  When the alerts arrive in `triggered_at` order,
none earlier than a stored one, its list is an answer a reload's query may give. -/
theorem live_updates_match_reload (app : App) {stored recent created : List Alert}
    (hrecent : PostgresAlertRepo.IsRecent stored 100 recent)
    (hids : ((stored ++ created).map Alert.id).Nodup) :
    Shows ((app.fetchAlerts (some (serverAnswers (Reads.one stored) recent))).handleAlerts
        created) (Reads.one (stored ++ created)) ∧
      ((∀ b ∈ stored, ∀ a ∈ created, b.triggeredAt ≤ a.triggeredAt) →
        created.Pairwise (fun a b => a.triggeredAt ≤ b.triggeredAt) →
        PostgresAlertRepo.IsRecent (stored ++ created) 100
          (((app.fetchAlerts (some (serverAnswers (Reads.one stored) recent))).handleAlerts
            created).alerts.map PageAlert.toAlert)) := by
  have hfetch := @fetchAlerts_shows app (Reads.one stored) recent hrecent
  have hlist : ((app.fetchAlerts (some (serverAnswers (Reads.one stored) recent))).alerts.map
      PageAlert.toAlert) = recent := by
    simp [App.fetchAlerts, App.updateSystemHealth, serverAnswers, Function.comp_def]
  exact ⟨hfetch.handleAlerts hids, fun hlate hsorted =>
    hfetch.handleAlerts_recent (by rw [hlist]; exact hrecent) hids hlate hsorted⟩

/-- A stored `high` alert, then a `critical` one delivered live. -/
def highThenCritical : List Alert × List Alert :=
  ([⟨1, "firing", "high", "k8s_pod", 1⟩], [⟨2, "firing", "critical", "k8s_node", 2⟩])

theorem live_updates_match_reload_highThenCritical :
    PostgresAlertRepo.IsRecent highThenCritical.1 100 highThenCritical.1 ∧
      ((highThenCritical.1 ++ highThenCritical.2).map Alert.id).Nodup ∧
      ((dashboardApp []).fetchAlerts (some (serverAnswers (Reads.one highThenCritical.1)
        highThenCritical.1))).systemHealthStatus = "warning" ∧
      ((dashboardApp []).fetchAlerts (some (serverAnswers (Reads.one highThenCritical.1)
        highThenCritical.1))).handleAlerts highThenCritical.2 =
        { alerts := [PageAlert.ofAlert ⟨2, "firing", "critical", "k8s_node", 2⟩,
            PageAlert.ofAlert ⟨1, "firing", "high", "k8s_pod", 1⟩],
          severityCounts := ⟨1, 1, 0, 0⟩, totalAlerts := 2, activeAlertsCount := 2,
          unreadCount := 2, readAlertIds := [], systemHealthStatus := "critical" } ∧
      (Shows (((dashboardApp []).fetchAlerts (some (serverAnswers
          (Reads.one highThenCritical.1) highThenCritical.1))).handleAlerts highThenCritical.2)
          (Reads.one (highThenCritical.1 ++ highThenCritical.2)) ∧
        ((∀ b ∈ highThenCritical.1, ∀ a ∈ highThenCritical.2, b.triggeredAt ≤ a.triggeredAt) →
          highThenCritical.2.Pairwise (fun a b => a.triggeredAt ≤ b.triggeredAt) →
          PostgresAlertRepo.IsRecent (highThenCritical.1 ++ highThenCritical.2) 100
            ((((dashboardApp []).fetchAlerts (some (serverAnswers (Reads.one highThenCritical.1)
              highThenCritical.1))).handleAlerts highThenCritical.2).alerts.map
                PageAlert.toAlert))) :=
  ⟨by decide, by decide, rfl, rfl,
    live_updates_match_reload (dashboardApp []) (by decide) (by decide)⟩

/-- When every query of the fetch read the store no later than `stored`, and the socket
delivers, in order, only alerts created after it, with any of them lost, the counters never
exceed the store's counts.  An alert over-counted is one that a query of the fetch counted
and the socket then delivered. -/
theorem live_counters_never_exceed_store (app : App) {reads : Reads}
    {stored recent created delivered : List Alert} (hreads : reads.Within stored)
    (hrecent : PostgresAlertRepo.IsRecent reads.recent 100 recent)
    (hids : ((stored ++ created).map Alert.id).Nodup) (hlost : delivered.Sublist created) :
    let live := (app.fetchAlerts (some (serverAnswers reads recent))).handleAlerts delivered
    let counts := AlertService.getSeverityCounts (stored ++ created) (stored ++ created)
      (stored ++ created) (stored ++ created)
    live.totalAlerts ≤ PostgresAlertRepo.count (stored ++ created) ∧
      live.activeAlertsCount ≤
        PostgresAlertRepo.countByStatus (stored ++ created) alertStatusFiring ∧
      live.severityCounts.critical ≤ counts.critical ∧ live.severityCounts.high ≤ counts.high ∧
      live.severityCounts.medium ≤ counts.medium ∧ live.severityCounts.low ≤ counts.low := by
  obtain ⟨hr, hc, ha, hcr, hh, hm, hl⟩ := hreads
  have h := (fetchAlerts_shows app hrecent).handleAlerts
    (((hr.append hlost).map Alert.id).nodup hids)
  simp only [h.total, h.active, h.severity]
  exact ⟨(hc.append hlost).length_le, (ha.append hlost).countP_le _,
    (hcr.append hlost).countP_le _, (hh.append hlost).countP_le _,
    (hm.append hlost).countP_le _, (hl.append hlost).countP_le _⟩

/-- The firing and recent queries ran before the `high` alert was stored, the others after;
the `critical` alert is delivered live. -/
def mixedReads : Reads :=
  { Reads.one highThenCritical.1 with recent := [], active := [] }

theorem live_counters_never_exceed_store_mixedReads :
    mixedReads.Within highThenCritical.1 ∧ PostgresAlertRepo.IsRecent [] 100 [] ∧
      ((highThenCritical.1 ++ highThenCritical.2).map Alert.id).Nodup ∧
      ((dashboardApp []).fetchAlerts (some (serverAnswers mixedReads []))).handleAlerts
        highThenCritical.2 =
        { alerts := [PageAlert.ofAlert ⟨2, "firing", "critical", "k8s_node", 2⟩],
          severityCounts := ⟨1, 1, 0, 0⟩, totalAlerts := 2, activeAlertsCount := 1,
          unreadCount := 1, readAlertIds := [], systemHealthStatus := "critical" } ∧
      (let live := ((dashboardApp []).fetchAlerts (some (serverAnswers mixedReads []))).handleAlerts
          highThenCritical.2
        let counts := AlertService.getSeverityCounts
          (highThenCritical.1 ++ highThenCritical.2) (highThenCritical.1 ++ highThenCritical.2)
          (highThenCritical.1 ++ highThenCritical.2) (highThenCritical.1 ++ highThenCritical.2)
        live.totalAlerts ≤ PostgresAlertRepo.count (highThenCritical.1 ++ highThenCritical.2) ∧
          live.activeAlertsCount ≤ PostgresAlertRepo.countByStatus
            (highThenCritical.1 ++ highThenCritical.2) alertStatusFiring ∧
          live.severityCounts.critical ≤ counts.critical ∧
          live.severityCounts.high ≤ counts.high ∧ live.severityCounts.medium ≤ counts.medium ∧
          live.severityCounts.low ≤ counts.low) :=
  ⟨by decide, by decide, by decide, rfl,
    live_counters_never_exceed_store (dashboardApp []) (by decide) (by decide) (by decide)
      (List.Sublist.refl _)⟩

end Dashboard

end AlertPipeline
