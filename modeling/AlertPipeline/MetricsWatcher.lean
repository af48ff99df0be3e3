import AlertPipeline.Builders

/-
The metric checks of `MetricsWatcher`: one run of `checkPodMetrics` and of
`checkNodeMetrics` over the snapshots the metrics API answered.

Each alert goes to `stateManager.ProcessAlert(ctx, alert)`, whose `(created, err)` only picks
the line that is logged.  The manager is shared with the watchers' workers, which call it
between these calls; nothing the check does depends on what a call hands back, so the
manager here is a step on a state of its own, of any behaviour, and a run keeps the list of
the calls it made.  The percentages and thresholds are
`float64`s that the checks only compare with `>` and copy, so they are of a type `φ` with a
decidable `<` that need not be an order (NaN compares false both ways).
-/

namespace AlertPipeline

/-- The fields of a `PodMetrics` snapshot the check reads; the requests are `int64`s. -/
structure PodMetrics (φ : Type) where
  «namespace» : String
  podName : String
  cpuUsagePercent : φ
  memoryUsagePercent : φ
  cpuRequestMillis : Int
  memoryRequestBytes : Int
deriving Repr, DecidableEq

/-- The fields of a `NodeMetrics` snapshot the check reads. -/
structure NodeMetrics (φ : Type) where
  nodeName : String
  cpuUsagePercent : φ
  memoryUsagePercent : φ
deriving Repr, DecidableEq

/-- The thresholds of `cfg.AlertRules` the checks read. -/
structure AlertRulesConfig (φ : Type) where
  podCPUPercent : φ
  podMemoryPercent : φ
  nodeCPUPercent : φ
  nodeMemoryPercent : φ

/-- `stateManager.ProcessAlert(ctx, alert)` as a step on the manager's state, handing back
`(created, err)`. -/
structure StateManager (σ φ : Type) where
  processAlert : σ → Models.Alert φ → σ × Bool × Option String

namespace MetricsWatcher

variable {σ φ : Type} [LT φ] [DecidableRel (fun a b : φ => a < b)] (sprintf1f : φ → String)
  (sm : StateManager σ φ) (thresholds : AlertRulesConfig φ)

/-- A call of `ProcessAlert` from a check: the manager moves on and the call is logged;
`(created, err)` only chooses a log line. -/
def callProcessAlert (acc : σ × List (Models.Alert φ)) (alert : Models.Alert φ) :
    σ × List (Models.Alert φ) :=
  ((sm.processAlert acc.1 alert).1, acc.2 ++ [alert])

/-- One pass of the `range podMetrics` loop of `checkPodMetrics`. -/
def checkPodMetric (acc : σ × List (Models.Alert φ)) (metrics : PodMetrics φ) :
    σ × List (Models.Alert φ) :=
  if metrics.cpuRequestMillis = 0 ∧ metrics.memoryRequestBytes = 0 then acc else
  let acc := if 0 < metrics.cpuRequestMillis ∧
      thresholds.podCPUPercent < metrics.cpuUsagePercent then
    callProcessAlert sm acc (buildPodMetricAlert sprintf1f metrics.«namespace» metrics.podName
      .podCPUHigh metrics.cpuUsagePercent thresholds.podCPUPercent)
  else acc
  if 0 < metrics.memoryRequestBytes ∧ thresholds.podMemoryPercent < metrics.memoryUsagePercent then
    callProcessAlert sm acc (buildPodMetricAlert sprintf1f metrics.«namespace» metrics.podName
      .podMemoryHigh metrics.memoryUsagePercent thresholds.podMemoryPercent)
  else acc

/-- `checkPodMetrics` on the answer of `GetAllPodsMetrics`: the manager's state, the calls
made, and the error returned. -/
def checkPodMetrics (podMetrics : Except String (List (PodMetrics φ))) (s : σ) :
    σ × List (Models.Alert φ) × Option String :=
  match podMetrics with
  | .error err => (s, [], some err)
  | .ok podMetrics =>
    let acc := podMetrics.foldl (checkPodMetric sprintf1f sm thresholds) (s, [])
    (acc.1, acc.2, none)

/-- One pass of the `range nodeMetrics` loop of `checkNodeMetrics`. -/
def checkNodeMetric (acc : σ × List (Models.Alert φ)) (metrics : NodeMetrics φ) :
    σ × List (Models.Alert φ) :=
  let acc := if thresholds.nodeCPUPercent < metrics.cpuUsagePercent then
    callProcessAlert sm acc (buildNodeMetricAlert sprintf1f metrics.nodeName .nodeCPUHigh
      metrics.cpuUsagePercent thresholds.nodeCPUPercent)
  else acc
  if thresholds.nodeMemoryPercent < metrics.memoryUsagePercent then
    callProcessAlert sm acc (buildNodeMetricAlert sprintf1f metrics.nodeName .nodeMemoryHigh
      metrics.memoryUsagePercent thresholds.nodeMemoryPercent)
  else acc

/-- `checkNodeMetrics` on the answer of `GetAllNodesMetrics`. -/
def checkNodeMetrics (nodeMetrics : Except String (List (NodeMetrics φ))) (s : σ) :
    σ × List (Models.Alert φ) × Option String :=
  match nodeMetrics with
  | .error err => (s, [], some err)
  | .ok nodeMetrics =>
    let acc := nodeMetrics.foldl (checkNodeMetric sprintf1f sm thresholds) (s, [])
    (acc.1, acc.2, none)

/-! ### The calls of one run -/

/-- The alerts one pod snapshot sends, in the order the loop sends them. -/
def podMetricAlerts (metrics : PodMetrics φ) : List (Models.Alert φ) :=
  if metrics.cpuRequestMillis = 0 ∧ metrics.memoryRequestBytes = 0 then [] else
  (if 0 < metrics.cpuRequestMillis ∧ thresholds.podCPUPercent < metrics.cpuUsagePercent then
    [buildPodMetricAlert sprintf1f metrics.«namespace» metrics.podName .podCPUHigh
      metrics.cpuUsagePercent thresholds.podCPUPercent] else []) ++
  (if 0 < metrics.memoryRequestBytes ∧ thresholds.podMemoryPercent < metrics.memoryUsagePercent
    then [buildPodMetricAlert sprintf1f metrics.«namespace» metrics.podName .podMemoryHigh
      metrics.memoryUsagePercent thresholds.podMemoryPercent] else [])

/-- The alerts one node snapshot sends. -/
def nodeMetricAlerts (metrics : NodeMetrics φ) : List (Models.Alert φ) :=
  (if thresholds.nodeCPUPercent < metrics.cpuUsagePercent then
    [buildNodeMetricAlert sprintf1f metrics.nodeName .nodeCPUHigh metrics.cpuUsagePercent
      thresholds.nodeCPUPercent] else []) ++
  (if thresholds.nodeMemoryPercent < metrics.memoryUsagePercent then
    [buildNodeMetricAlert sprintf1f metrics.nodeName .nodeMemoryHigh metrics.memoryUsagePercent
      thresholds.nodeMemoryPercent] else [])

theorem checkPodMetric_calls (acc : σ × List (Models.Alert φ)) (metrics : PodMetrics φ) :
    (checkPodMetric sprintf1f sm thresholds acc metrics).2 =
      acc.2 ++ podMetricAlerts sprintf1f thresholds metrics := by
  simp only [checkPodMetric, podMetricAlerts, callProcessAlert]
  split_ifs <;> simp

theorem checkNodeMetric_calls (acc : σ × List (Models.Alert φ)) (metrics : NodeMetrics φ) :
    (checkNodeMetric sprintf1f sm thresholds acc metrics).2 =
      acc.2 ++ nodeMetricAlerts sprintf1f thresholds metrics := by
  simp only [checkNodeMetric, nodeMetricAlerts, callProcessAlert]
  split_ifs <;> simp

/-- Whatever the manager does with each call, a check loop sends the alerts of every snapshot
in order. -/
theorem foldl_checkPodMetric (podMetrics : List (PodMetrics φ)) (acc : σ × List (Models.Alert φ)) :
    (podMetrics.foldl (checkPodMetric sprintf1f sm thresholds) acc).2 =
      acc.2 ++ podMetrics.flatMap (podMetricAlerts sprintf1f thresholds) := by
  induction podMetrics generalizing acc with
  | nil => simp
  | cons m ms ih => simp [ih, checkPodMetric_calls]

theorem foldl_checkNodeMetric (nodeMetrics : List (NodeMetrics φ))
    (acc : σ × List (Models.Alert φ)) :
    (nodeMetrics.foldl (checkNodeMetric sprintf1f sm thresholds) acc).2 =
      acc.2 ++ nodeMetrics.flatMap (nodeMetricAlerts sprintf1f thresholds) := by
  induction nodeMetrics generalizing acc with
  | nil => simp
  | cons m ms ih => simp [ih, checkNodeMetric_calls]

/-! ### The calls the metric rules ask for -/

/-- What the rules fix of a pod metric alert: its row and its labels `namespace`, `pod` and
`metric`. -/
def podMetricView (a : Models.Alert φ) : AlertRow φ × String × String × String :=
  (a.row, a.label "namespace", a.label "pod", a.label "metric")

/-- What the rules fix of a node metric alert: its row and its labels `node` and `metric`. -/
def nodeMetricView (a : Models.Alert φ) : AlertRow φ × String × String :=
  (a.row, a.label "node", a.label "metric")

/-- The calls the pod metric rules ask for: for each snapshot in order, `pod_cpu_high` when the
CPU request is positive and the CPU percentage is over its threshold, then `pod_memory_high`
when the memory request is positive and the memory percentage is over its threshold. -/
def podMetricCalls (podMetrics : List (PodMetrics φ)) :
    List (AlertRow φ × String × String × String) :=
  podMetrics.flatMap fun m =>
    (if 0 < m.cpuRequestMillis ∧ thresholds.podCPUPercent < m.cpuUsagePercent then
      [(AlertType.podCPUHigh.tableRow m.cpuUsagePercent, m.«namespace», m.podName, "cpu")]
    else []) ++
    (if 0 < m.memoryRequestBytes ∧ thresholds.podMemoryPercent < m.memoryUsagePercent then
      [(AlertType.podMemoryHigh.tableRow m.memoryUsagePercent, m.«namespace», m.podName,
        "memory")]
    else [])

/-- The calls the node metric rules ask for: for each snapshot in order, `node_cpu_high` when
the CPU percentage is over its threshold, then `node_memory_high` likewise for memory. -/
def nodeMetricCalls (nodeMetrics : List (NodeMetrics φ)) : List (AlertRow φ × String × String) :=
  nodeMetrics.flatMap fun m =>
    (if thresholds.nodeCPUPercent < m.cpuUsagePercent then
      [(AlertType.nodeCPUHigh.tableRow m.cpuUsagePercent, m.nodeName, "cpu")] else []) ++
    (if thresholds.nodeMemoryPercent < m.memoryUsagePercent then
      [(AlertType.nodeMemoryHigh.tableRow m.memoryUsagePercent, m.nodeName, "memory")] else [])

theorem podMetricAlerts_view (m : PodMetrics φ) :
    (podMetricAlerts sprintf1f thresholds m).map podMetricView = podMetricCalls thresholds [m] := by
  by_cases hz : m.cpuRequestMillis = 0 ∧ m.memoryRequestBytes = 0
  · simp [podMetricAlerts, podMetricCalls, hz]
  · simp [podMetricAlerts, podMetricCalls, hz, apply_ite (List.map podMetricView), podMetricView,
      buildPodMetricAlert, Models.Alert.row, Models.Alert.label, Models.newAlert,
      AlertType.tableRow, AlertType.tableSeverity, AlertType.tableSource, AlertType.toString,
      severityHigh]

theorem nodeMetricAlerts_view (m : NodeMetrics φ) :
    (nodeMetricAlerts sprintf1f thresholds m).map nodeMetricView =
      nodeMetricCalls thresholds [m] := by
  simp [nodeMetricAlerts, nodeMetricCalls, apply_ite (List.map nodeMetricView), nodeMetricView,
    buildNodeMetricAlert, Models.Alert.row, Models.Alert.label, Models.newAlert,
    AlertType.tableRow, AlertType.tableSeverity, AlertType.tableSource, AlertType.toString,
    severityCritical]

end MetricsWatcher

end AlertPipeline
