import AlertPipeline.Repository

/-
The alert builders of `internal/collector`: `BuildPodAlert`, `BuildNodeAlert`,
`BuildPodMetricAlert` and `BuildNodeMetricAlert`, the container lookups `BuildPodAlert` makes
on the pod, and the fields of the Kubernetes objects they read.

Every builder ends in `models.NewAlert(severity, message, source, value, labels)`.  The `ID`
it draws is a fresh UUID and its timestamps are the clock's; no rule reads them, so they are
left out.  The labels are a Go `map[string]string`, kept as its entries: `m[k] = v` replaces
the entry of `k`, and a key that is missing reads as `""`.  A `float64` made from an `int32`
is exact, so the values of pod and node alerts are integers.  The metric alerts carry the
`float64` percentages of the metrics API, of a type `φ` that the builders only print, with
the `%.1f` verb of `fmt.Sprintf`.
-/

namespace AlertPipeline

/-! ### The label map -/

/-- `m[key] = value` on a `map[string]string`. -/
def mapSet (m : List (String × String)) (key value : String) : List (String × String) :=
  (key, value) :: m.filter (·.1 != key)

/-- `m[key]`: the zero value `""` for a key that is not in the map. -/
def mapGet (m : List (String × String)) (key : String) : String :=
  (m.lookup key).getD ""

theorem lookup_filter_ne (m : List (String × String)) {key key' : String} (h : key' ≠ key) :
    (m.filter (·.1 != key)).lookup key' = m.lookup key' := by
  induction m with
  | nil => rfl
  | cons e m ih =>
    obtain ⟨k, v⟩ := e
    by_cases he : k = key
    · subst he
      simp [List.filter_cons, List.lookup_cons, beq_false_of_ne h, ih]
    · simp [List.filter_cons, he, List.lookup_cons, ih]

@[simp] theorem mapGet_mapSet (m : List (String × String)) (key value key' : String) :
    mapGet (mapSet m key value) key' = if key' = key then value else mapGet m key' := by
  by_cases h : key' = key
  · simp [mapGet, mapSet, List.lookup_cons, h]
  · simp [mapGet, mapSet, List.lookup_cons, beq_false_of_ne h, h, lookup_filter_ne m h]

@[simp] theorem mapGet_cons (key value key' : String) (m : List (String × String)) :
    mapGet ((key, value) :: m) key' = if key' = key then value else mapGet m key' := by
  by_cases h : key' = key
  · simp [mapGet, List.lookup_cons, h]
  · simp [mapGet, List.lookup_cons, beq_false_of_ne h, h]

/-! ### Alerts -/

namespace Models

/-- The fields of a `models.Alert` that `models.NewAlert` fills from its arguments. -/
structure Alert (ν : Type) where
  status : String
  severity : String
  message : String
  source : String
  labels : List (String × String)
  value : ν
deriving Repr, DecidableEq

/-- `models.NewAlert(severity, message, source, value, labels)`. -/
def newAlert {ν : Type} (severity message source : String) (value : ν)
    (labels : List (String × String)) : Alert ν :=
  { status := alertStatusFiring, severity, message, source, labels, value }

/-- `alert.GetLabelsMap()[key]`. -/
def Alert.label {ν : Type} (a : Alert ν) (key : String) : String := mapGet a.labels key

end Models

def severityCritical : String := "critical"
def severityHigh : String := "high"
def severityMedium : String := "medium"

/-- `AlertType`: one constructor per constant of the source. -/
inductive AlertType where
  | podFailed | podOOMKilled | podCrashLoop | podRestartThreshold | podImagePullError
  | podPending | podUnknown
  | nodeNotReady | nodeMemoryPressure | nodeDiskPressure | nodePIDPressure
  | podCPUHigh | podMemoryHigh | nodeCPUHigh | nodeMemoryHigh
deriving Repr, DecidableEq

/-- `string(alertType)`. -/
def AlertType.toString : AlertType → String
  | .podFailed => "pod_failed"
  | .podOOMKilled => "pod_oom_killed"
  | .podCrashLoop => "pod_crash_loop"
  | .podRestartThreshold => "pod_restart_threshold"
  | .podImagePullError => "pod_image_pull"
  | .podPending => "pod_pending"
  | .podUnknown => "pod_unknown"
  | .nodeNotReady => "node_not_ready"
  | .nodeMemoryPressure => "node_memory_pressure"
  | .nodeDiskPressure => "node_disk_pressure"
  | .nodePIDPressure => "node_pid_pressure"
  | .podCPUHigh => "pod_cpu_high"
  | .podMemoryHigh => "pod_memory_high"
  | .nodeCPUHigh => "node_cpu_high"
  | .nodeMemoryHigh => "node_memory_high"

/-! ### The Kubernetes objects -/

/-- `corev1.ContainerStateWaiting`. -/
structure ContainerStateWaiting where
  reason : String
  message : String
deriving Repr, DecidableEq

/-- The fields of a `corev1.ContainerStatus` the rules read.  `State.Waiting` is a pointer,
`none` for `nil`; of `LastTerminationState.Terminated` only its `Reason` is read, `none` for a
`nil` pointer. -/
structure ContainerStatus where
  name : String
  restartCount : BitVec 32
  waiting : Option ContainerStateWaiting
  lastTerminatedReason : Option String
deriving Repr, DecidableEq

/-- The fields of a `corev1.Pod` the rules and the alert texts read. -/
structure Pod where
  «namespace» : String
  name : String
  /-- `CreationTimestamp`, in nanoseconds. -/
  creationTimestamp : Int
  phase : String
  /-- `Status.Reason` and `Status.Message`. -/
  reason : String
  message : String
  containerStatuses : List ContainerStatus
deriving Repr, DecidableEq

def podPending : String := "Pending"
def podFailed : String := "Failed"
def podUnknown : String := "Unknown"

/-- The fields of a `corev1.NodeCondition` the rules read. -/
structure NodeCondition where
  type : String
  status : String
  reason : String
deriving Repr, DecidableEq

/-- The fields of a `corev1.Node` the rules read. -/
structure Node where
  name : String
  conditions : List NodeCondition
deriving Repr, DecidableEq

def nodeReady : String := "Ready"
def nodeMemoryPressure : String := "MemoryPressure"
def nodeDiskPressure : String := "DiskPressure"
def nodePIDPressure : String := "PIDPressure"
def conditionTrue : String := "True"

namespace ContainerStatus

/-- `cs.LastTerminationState.Terminated != nil && ....Reason == "OOMKilled"`. -/
def oomKilled (cs : ContainerStatus) : Bool := cs.lastTerminatedReason == some "OOMKilled"

/-- `cs.State.Waiting != nil && cs.State.Waiting.Reason == "CrashLoopBackOff"`. -/
def crashLooping (cs : ContainerStatus) : Bool :=
  cs.waiting.any (·.reason == "CrashLoopBackOff")

/-- `cs.State.Waiting != nil && (Reason == "ImagePullBackOff" || Reason == "ErrImagePull")`. -/
def imagePullFailing (cs : ContainerStatus) : Bool :=
  cs.waiting.any fun w => w.reason == "ImagePullBackOff" || w.reason == "ErrImagePull"

/-- `cs.State.Waiting.Message`, read where `Waiting` is not `nil`. -/
def waitingMessage (cs : ContainerStatus) : String := (cs.waiting.map (·.message)).getD ""

end ContainerStatus

/-! ### The container lookups of `BuildPodAlert` -/

/-- The loop the container lookups share: the first container status that `accepts`
matches, scanning `pod.Status.ContainerStatuses` from the start. -/
def firstContainer (pod : Pod) (accepts : ContainerStatus → Bool) : Option ContainerStatus :=
  pod.containerStatuses.find? accepts

def getOOMKilledContainer (pod : Pod) : String :=
  ((firstContainer pod ContainerStatus.oomKilled).map (·.name)).getD "unknown"

def getCrashLoopContainer (pod : Pod) : String × String :=
  ((firstContainer pod ContainerStatus.crashLooping).map
    fun cs => (cs.name, cs.waitingMessage)).getD ("unknown", "unknown")

def getImagePullError (pod : Pod) : String × String :=
  ((firstContainer pod ContainerStatus.imagePullFailing).map
    fun cs => (cs.name, cs.waitingMessage)).getD ("unknown", "unknown")

/-- The loop of `getHighestRestartContainer`: `maxRestarts` and `containerName`. -/
def highestRestartStep (acc : BitVec 32 × String) (cs : ContainerStatus) : BitVec 32 × String :=
  if acc.1.slt cs.restartCount then (cs.restartCount, cs.name) else acc

def getHighestRestartContainer (pod : Pod) : String :=
  (pod.containerStatuses.foldl highestRestartStep (0, "unknown")).2

/-- The restart loop keeps its accumulator while no container has more restarts, and otherwise
ends on the first container with the greatest count. -/
theorem foldl_highestRestartStep (css : List ContainerStatus) (acc : BitVec 32 × String) :
    (css.foldl highestRestartStep acc = acc ∧
      ∀ d ∈ css, d.restartCount.toInt ≤ acc.1.toInt) ∨
    ∃ pre c post, css = pre ++ c :: post ∧ acc.1.toInt < c.restartCount.toInt ∧
      (∀ d ∈ pre, d.restartCount.toInt < c.restartCount.toInt) ∧
      (∀ d ∈ post, d.restartCount.toInt ≤ c.restartCount.toInt) ∧
      css.foldl highestRestartStep acc = (c.restartCount, c.name) := by
  induction css generalizing acc with
  | nil => exact .inl ⟨rfl, by simp⟩
  | cons cs rest ih =>
    rw [List.foldl_cons]
    by_cases hlt : acc.1.toInt < cs.restartCount.toInt
    · rw [show highestRestartStep acc cs = (cs.restartCount, cs.name) by
        simp [highestRestartStep, BitVec.slt, hlt]]
      refine .inr ?_
      rcases ih (cs.restartCount, cs.name) with ⟨hfold, hle⟩ | ⟨pre, c, post, rfl, hc, hpre, hpost, hfold⟩
      · exact ⟨[], cs, rest, rfl, hlt, by simp, hle, hfold⟩
      · exact ⟨cs :: pre, c, post, rfl, Int.lt_trans hlt hc, List.forall_mem_cons.2 ⟨hc, hpre⟩, hpost, hfold⟩
    · rw [show highestRestartStep acc cs = acc by simp [highestRestartStep, BitVec.slt, hlt]]
      rcases ih acc with ⟨hfold, hle⟩ | ⟨pre, c, post, rfl, hc, hpre, hpost, hfold⟩
      · exact .inl ⟨hfold, List.forall_mem_cons.2 ⟨by omega, hle⟩⟩
      · exact .inr ⟨cs :: pre, c, post, rfl, hc, List.forall_mem_cons.2 ⟨by omega, hpre⟩, hpost,
          hfold⟩

/-- `getHighestRestartContainer` names the first container with the greatest restart count, and
is `unknown` when no restart count is positive. -/
theorem getHighestRestartContainer_first_max (pod : Pod) :
    (getHighestRestartContainer pod = "unknown" ∧
      ∀ c ∈ pod.containerStatuses, c.restartCount.toInt ≤ 0) ∨
    ∃ pre c post, pod.containerStatuses = pre ++ c :: post ∧ 0 < c.restartCount.toInt ∧
      (∀ d ∈ pre, d.restartCount.toInt < c.restartCount.toInt) ∧
      (∀ d ∈ post, d.restartCount.toInt ≤ c.restartCount.toInt) ∧
      getHighestRestartContainer pod = c.name := by
  rcases foldl_highestRestartStep pod.containerStatuses (0, "unknown") with
    ⟨h, hle⟩ | ⟨pre, c, post, hcs, hc, hpre, hpost, h⟩
  · exact .inl ⟨by rw [getHighestRestartContainer, h], hle⟩
  · exact .inr ⟨pre, c, post, hcs, hc, hpre, hpost, by rw [getHighestRestartContainer, h]⟩

def getNodeConditionReason (node : Node) (conditionType : String) : String :=
  match node.conditions.find? (·.type == conditionType) with
  | some condition => if condition.reason ≠ "" then condition.reason else condition.status
  | none => "Unknown"

/-! ### The builders -/

/-- `BuildPodAlert`.  `%d` of `int32(value)` prints the restart total, an `int32` made
`float64` by the caller. -/
def buildPodAlert (pod : Pod) (alertType : AlertType) (value : Int) : Models.Alert Int :=
  let labels := [("namespace", pod.«namespace»), ("pod", pod.name),
    ("alert_type", alertType.toString)]
  let podName := pod.«namespace» ++ "/" ++ pod.name
  let (severity, message, labels) : String × String × List (String × String) :=
    match alertType with
    | .podFailed =>
      (severityCritical, "Pod " ++ podName ++ " has FAILED - Phase: " ++ pod.phase ++
        ", Reason: " ++ pod.reason ++
        (if pod.message ≠ "" then ", Message: " ++ pod.message else ""), labels)
    | .podOOMKilled =>
      let containerName := getOOMKilledContainer pod
      (severityCritical, "Pod " ++ podName ++ " container '" ++ containerName ++
        "' was OOM KILLED - Out of memory", mapSet labels "container" containerName)
    | .podCrashLoop =>
      let (containerName, reason) := getCrashLoopContainer pod
      (severityHigh, "Pod " ++ podName ++ " container '" ++ containerName ++
        "' is in CRASH LOOP BACKOFF - Reason: " ++ reason,
        mapSet (mapSet labels "container" containerName) "reason" reason)
    | .podRestartThreshold =>
      let containerName := getHighestRestartContainer pod
      (severityHigh, "Pod " ++ podName ++ " has EXCESSIVE RESTARTS - Total restarts: " ++
        toString value ++ ", Container: " ++ containerName,
        mapSet labels "container" containerName)
    | .podImagePullError =>
      let (containerName, imageError) := getImagePullError pod
      (severityHigh, "Pod " ++ podName ++ " container '" ++ containerName ++
        "' cannot pull image - Error: " ++ imageError, mapSet labels "container" containerName)
    | .podPending =>
      (severityMedium, "Pod " ++ podName ++ " is PENDING for extended period - Reason: " ++
        pod.reason ++ (if pod.message ≠ "" then ", Details: " ++ pod.message else ""), labels)
    | .podUnknown =>
      (severityCritical, "Pod " ++ podName ++ " is in UNKNOWN state - Last known phase: " ++
        pod.phase, labels)
    | _ =>
      (severityMedium, "Pod " ++ podName ++ " issue detected - Type: " ++ alertType.toString,
        labels)
  Models.newAlert severity message "k8s_pod" value labels

/-- `BuildNodeAlert`. -/
def buildNodeAlert (node : Node) (alertType : AlertType) (value : Int) : Models.Alert Int :=
  let labels := [("node", node.name), ("alert_type", alertType.toString)]
  let (severity, message) : String × String :=
    match alertType with
    | .nodeNotReady =>
      (severityCritical, "Node " ++ node.name ++ " is NOT READY - Status: " ++
        getNodeConditionReason node nodeReady)
    | .nodeMemoryPressure =>
      (severityHigh, "Node " ++ node.name ++ " has MEMORY PRESSURE - Available memory is low")
    | .nodeDiskPressure =>
      (severityHigh, "Node " ++ node.name ++ " has DISK PRESSURE - Disk space is running low")
    | .nodePIDPressure =>
      (severityMedium, "Node " ++ node.name ++ " has PID PRESSURE - Too many processes running")
    | _ => (severityMedium, "Node " ++ node.name ++ " issue detected - Type: " ++ alertType.toString)
  Models.newAlert severity message "k8s_node" value labels

/-! ### The rule table of section 4.3 -/

/-- What a row of the rule table fixes of an alert: its `alert_type` label, severity, source,
status and value. -/
structure AlertRow (ν : Type) where
  alertType : String
  severity : String
  source : String
  status : String
  value : ν
deriving Repr, DecidableEq

/-- The row of an alert. -/
def Models.Alert.row {ν : Type} (a : Models.Alert ν) : AlertRow ν :=
  ⟨a.label "alert_type", a.severity, a.source, a.status, a.value⟩

/-- The severity column of the table. -/
def AlertType.tableSeverity : AlertType → String
  | .podFailed | .podUnknown | .podOOMKilled | .nodeNotReady | .nodeCPUHigh
  | .nodeMemoryHigh => "critical"
  | .podCrashLoop | .podImagePullError | .podRestartThreshold | .nodeMemoryPressure
  | .nodeDiskPressure | .podCPUHigh | .podMemoryHigh => "high"
  | .podPending | .nodePIDPressure => "medium"

/-- The source column of the table. -/
def AlertType.tableSource : AlertType → String
  | .podFailed | .podUnknown | .podOOMKilled | .podCrashLoop | .podImagePullError
  | .podRestartThreshold | .podPending => "k8s_pod"
  | .nodeNotReady | .nodeMemoryPressure | .nodeDiskPressure | .nodePIDPressure => "k8s_node"
  | .podCPUHigh | .podMemoryHigh => "k8s_pod_metrics"
  | .nodeCPUHigh | .nodeMemoryHigh => "k8s_node_metrics"

/-- The row the table gives a rule that fires with `value`; every alert is built firing. -/
def AlertType.tableRow {ν : Type} (t : AlertType) (value : ν) : AlertRow ν :=
  ⟨t.toString, t.tableSeverity, t.tableSource, alertStatusFiring, value⟩

/-- `BuildPodAlert` fills the table's row of every pod rule. -/
theorem buildPodAlert_row (pod : Pod) {t : AlertType} (ht : t.tableSource = "k8s_pod")
    (value : Int) : (buildPodAlert pod t value).row = t.tableRow value := by
  cases t <;> simp_all [AlertType.tableSource, buildPodAlert, Models.Alert.row, Models.Alert.label,
    Models.newAlert, AlertType.tableRow, AlertType.tableSeverity, severityCritical, severityHigh,
    severityMedium, getCrashLoopContainer, getImagePullError]

/-- Every alert `BuildPodAlert` builds is labelled with its pod. -/
theorem buildPodAlert_labels (pod : Pod) (t : AlertType) (value : Int) :
    (buildPodAlert pod t value).label "namespace" = pod.«namespace» ∧
      (buildPodAlert pod t value).label "pod" = pod.name := by
  cases t <;> simp [buildPodAlert, Models.Alert.label, Models.newAlert, getCrashLoopContainer,
    getImagePullError]

/-- `BuildNodeAlert` fills the table's row of every node rule. -/
theorem buildNodeAlert_row (node : Node) {t : AlertType} (ht : t.tableSource = "k8s_node")
    (value : Int) : (buildNodeAlert node t value).row = t.tableRow value := by
  cases t <;> simp_all [AlertType.tableSource, buildNodeAlert, Models.Alert.row,
    Models.Alert.label, Models.newAlert, AlertType.tableRow, AlertType.tableSeverity,
    severityCritical, severityHigh, severityMedium]

/-- Every alert `BuildNodeAlert` builds is labelled with its node. -/
theorem buildNodeAlert_label (node : Node) (t : AlertType) (value : Int) :
    (buildNodeAlert node t value).label "node" = node.name := by
  cases t <;> simp [buildNodeAlert, Models.Alert.label, Models.newAlert]

section Metrics

variable {φ : Type} (sprintf1f : φ → String)

/-- `BuildPodMetricAlert`; `sprintf1f` is what `%.1f` prints for a `float64`. -/
def buildPodMetricAlert («namespace» podName : String) (alertType : AlertType)
    (value threshold : φ) : Models.Alert φ :=
  let labels := [("namespace", «namespace»), ("pod", podName),
    ("alert_type", alertType.toString), ("metric", "")]
  let (severity, message, labels) : String × String × List (String × String) :=
    match alertType with
    | .podCPUHigh =>
      (severityHigh, "Pod " ++ «namespace» ++ "/" ++ podName ++ " CPU usage is HIGH: " ++
        sprintf1f value ++ "% (threshold: " ++ sprintf1f threshold ++ "%)",
        mapSet labels "metric" "cpu")
    | .podMemoryHigh =>
      (severityHigh, "Pod " ++ «namespace» ++ "/" ++ podName ++ " Memory usage is HIGH: " ++
        sprintf1f value ++ "% (threshold: " ++ sprintf1f threshold ++ "%)",
        mapSet labels "metric" "memory")
    | _ => (severityMedium, "Pod " ++ «namespace» ++ "/" ++ podName ++ " metric alert", labels)
  Models.newAlert severity message "k8s_pod_metrics" value labels

/-- `BuildNodeMetricAlert`. -/
def buildNodeMetricAlert (nodeName : String) (alertType : AlertType) (value threshold : φ) :
    Models.Alert φ :=
  let labels := [("node", nodeName), ("alert_type", alertType.toString), ("metric", "")]
  let (severity, message, labels) : String × String × List (String × String) :=
    match alertType with
    | .nodeCPUHigh =>
      (severityCritical, "Node " ++ nodeName ++ " CPU usage is CRITICAL: " ++
        sprintf1f value ++ "% (threshold: " ++ sprintf1f threshold ++ "%)",
        mapSet labels "metric" "cpu")
    | .nodeMemoryHigh =>
      (severityCritical, "Node " ++ nodeName ++ " Memory usage is CRITICAL: " ++
        sprintf1f value ++ "% (threshold: " ++ sprintf1f threshold ++ "%)",
        mapSet labels "metric" "memory")
    | _ => (severityMedium, "Node " ++ nodeName ++ " metric alert", labels)
  Models.newAlert severity message "k8s_node_metrics" value labels

end Metrics

end AlertPipeline
