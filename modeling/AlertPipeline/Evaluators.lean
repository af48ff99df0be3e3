import Mathlib.Algebra.Ring.Int.Defs
import AlertPipeline.Builders

/-
The rule evaluators of the pod and node watchers, `PodWatcher.evaluatePodConditions` and
`NodeWatcher.evaluateNodeConditions`, against the rule table of section 4.3.

`evaluatePodConditions` reads the clock once, in `time.Since(pod.CreationTimestamp.Time)`;
`now` is that reading, in nanoseconds.  Its restart total is an `int32` that the container
loop adds to, so it wraps; the loop is proved equal to the list of every container's alerts
and the wrapped sum of the restart counts (`foldl_checkContainer`), and the whole evaluator
to the table row by row.
-/

namespace AlertPipeline

/-- `time.Minute`, in nanoseconds. -/
def minute : Int := 60 * 1000000000

/-- `t.Sub(u)`: the nanoseconds from `u` to `t`, saturated to the range of `time.Duration`. -/
def timeSub (t u : Int) : Int := max (-2 ^ 63) (min (2 ^ 63 - 1) (t - u))

/-- A saturated difference is past a bound inside the range of `time.Duration` exactly when
the difference itself is. -/
theorem lt_timeSub_iff {bound t u : Int} (hlo : -2 ^ 63 ≤ bound) (hhi : bound < 2 ^ 63 - 1) :
    bound < timeSub t u ↔ bound < t - u := by
  simp only [timeSub]; omega

/-! ### The pod rules -/

/-- The rule settings of a `PodWatcher`; the rest of it is the pipeline of `Watcher`. -/
structure PodWatcher where
  restartThreshold : BitVec 32
  pendingTimeout : Int

namespace PodWatcher

/-- The settings `NewPodWatcher` gives: `int32(cfg.AlertRules.PodRestartThreshold)` and five
minutes. -/
def newPodWatcher (podRestartThreshold : Int) : PodWatcher :=
  { restartThreshold := BitVec.ofInt 32 podRestartThreshold, pendingTimeout := 5 * minute }

/-- One pass of the `range pod.Status.ContainerStatuses` loop, on `totalRestarts` and the
alerts so far. -/
def checkContainer (pod : Pod) (acc : BitVec 32 × List (Models.Alert Int))
    (cs : ContainerStatus) : BitVec 32 × List (Models.Alert Int) :=
  let totalRestarts := acc.1 + cs.restartCount
  let alerts := acc.2
  let alerts := if cs.oomKilled then
    alerts ++ [buildPodAlert pod .podOOMKilled cs.restartCount.toInt] else alerts
  let alerts := if cs.crashLooping then
    alerts ++ [buildPodAlert pod .podCrashLoop cs.restartCount.toInt] else alerts
  let alerts := if cs.imagePullFailing then
    alerts ++ [buildPodAlert pod .podImagePullError 1] else alerts
  (totalRestarts, alerts)

def evaluatePodConditions (pw : PodWatcher) (pod : Pod) (now : Int) : List (Models.Alert Int) :=
  let alerts := if pod.phase = podFailed then [buildPodAlert pod .podFailed 1] else []
  let alerts := if pod.phase = podUnknown then
    alerts ++ [buildPodAlert pod .podUnknown 1] else alerts
  let (totalRestarts, alerts) := pod.containerStatuses.foldl (checkContainer pod) (0, alerts)
  let alerts := if pw.restartThreshold.slt totalRestarts then
    alerts ++ [buildPodAlert pod .podRestartThreshold totalRestarts.toInt] else alerts
  if pod.phase = podPending ∧ pw.pendingTimeout < timeSub now pod.creationTimestamp then
    alerts ++ [buildPodAlert pod .podPending 1] else alerts

/-- The alerts one container status raises, in the order the loop appends them. -/
def containerAlerts (pod : Pod) (cs : ContainerStatus) : List (Models.Alert Int) :=
  (if cs.oomKilled then [buildPodAlert pod .podOOMKilled cs.restartCount.toInt] else []) ++
  (if cs.crashLooping then [buildPodAlert pod .podCrashLoop cs.restartCount.toInt] else []) ++
  (if cs.imagePullFailing then [buildPodAlert pod .podImagePullError 1] else [])

/-- The restart counts as integers, summed without bound. -/
def restartSum (css : List ContainerStatus) : Int := (css.map (·.restartCount.toInt)).sum

/-- `totalRestarts += cs.RestartCount` over a list of container statuses. -/
def addRestarts (total : BitVec 32) (css : List ContainerStatus) : BitVec 32 :=
  css.foldl (fun total cs => total + cs.restartCount) total

/-- The `int32` total is the sum of the restart counts wrapped to 32 bits. -/
theorem toInt_addRestarts (total : BitVec 32) (css : List ContainerStatus) :
    (addRestarts total css).toInt = (total.toInt + restartSum css).bmod (2 ^ 32) := by
  induction css generalizing total with
  | nil => simp [addRestarts, restartSum, BitVec.toInt_eq_toNat_bmod, Int.bmod_bmod]
  | cons cs css ih =>
    simp only [addRestarts, List.foldl_cons] at ih ⊢
    rw [ih, BitVec.toInt_add, Int.bmod_add_bmod_congr]
    simp [restartSum, Int.add_assoc]

/-- A conditional `append` is an append of a conditional singleton. -/
theorem ite_append_singleton {α : Type} (c : Prop) [Decidable c] (l : List α) (x : α) :
    (if c then l ++ [x] else l) = l ++ if c then [x] else [] := by
  split <;> simp

theorem checkContainer_eq (pod : Pod) (total : BitVec 32) (alerts : List (Models.Alert Int))
    (cs : ContainerStatus) :
    checkContainer pod (total, alerts) cs =
      (total + cs.restartCount, alerts ++ containerAlerts pod cs) := by
  simp only [checkContainer, containerAlerts, ite_append_singleton]
  simp

/-- The container loop appends every container's alerts in order, and adds up the restart
counts in `int32`. -/
theorem foldl_checkContainer (pod : Pod) (css : List ContainerStatus) (total : BitVec 32)
    (alerts : List (Models.Alert Int)) :
    css.foldl (checkContainer pod) (total, alerts) =
      (addRestarts total css, alerts ++ css.flatMap (containerAlerts pod)) := by
  induction css generalizing total alerts with
  | nil => simp [addRestarts]
  | cons cs css ih => simp [checkContainer_eq, ih, addRestarts]

/-- `evaluatePodConditions` unrolled: the phase alerts, every container's alerts in order,
then the restart alert on the wrapped total and the pending alert. -/
theorem evaluatePodConditions_eq (pw : PodWatcher) (pod : Pod) (now : Int) :
    pw.evaluatePodConditions pod now =
      (if pod.phase = podFailed then [buildPodAlert pod .podFailed 1] else []) ++
      (if pod.phase = podUnknown then [buildPodAlert pod .podUnknown 1] else []) ++
      pod.containerStatuses.flatMap (containerAlerts pod) ++
      (if pw.restartThreshold.toInt < (restartSum pod.containerStatuses).bmod (2 ^ 32) then
        [buildPodAlert pod .podRestartThreshold
          ((restartSum pod.containerStatuses).bmod (2 ^ 32))] else []) ++
      (if pod.phase = podPending ∧ pw.pendingTimeout < timeSub now pod.creationTimestamp then
        [buildPodAlert pod .podPending 1] else []) := by
  have hzero : (0 : BitVec 32).toInt = 0 := rfl
  simp only [evaluatePodConditions, foldl_checkContainer, BitVec.slt, toInt_addRestarts, hzero,
    Int.zero_add, decide_eq_true_eq, ite_append_singleton]

/-- Every alert a container raises is one `BuildPodAlert` built on the pod. -/
theorem forall_containerAlerts (pod : Pod) (c : ContainerStatus) {P : Models.Alert Int → Prop}
    (hP : ∀ t v, P (buildPodAlert pod t v)) : ∀ a ∈ containerAlerts pod c, P a := by
  intro a ha
  simp only [containerAlerts, List.mem_append, List.mem_ite_nil_right, List.mem_singleton] at ha
  rcases ha with (⟨-, rfl⟩ | ⟨-, rfl⟩) | ⟨-, rfl⟩ <;> exact hP _ _

/-- Every alert of `evaluatePodConditions` is one `BuildPodAlert` built on the pod. -/
theorem forall_evaluatePodConditions (pw : PodWatcher) (pod : Pod) (now : Int)
    {P : Models.Alert Int → Prop} (hP : ∀ t v, P (buildPodAlert pod t v)) :
    ∀ a ∈ pw.evaluatePodConditions pod now, P a := by
  rw [evaluatePodConditions_eq]
  intro a ha
  simp only [List.mem_append, List.mem_flatMap, List.mem_ite_nil_right, List.mem_singleton] at ha
  rcases ha with (((⟨-, rfl⟩ | ⟨-, rfl⟩) | ⟨c, -, h⟩) | ⟨-, rfl⟩) | ⟨-, rfl⟩
  any_goals exact hP _ _
  exact forall_containerAlerts pod c hP a h

/-! ### The pod rows of the table -/

/-- The rows one container status triggers, as the rules name them: a last termination
reason `OOMKilled`, a waiting reason `CrashLoopBackOff`, and a waiting reason
`ImagePullBackOff` or `ErrImagePull`. -/
def containerRows (c : ContainerStatus) : List (AlertRow Int) :=
  (if c.lastTerminatedReason = some "OOMKilled" then
    [AlertType.podOOMKilled.tableRow c.restartCount.toInt] else []) ++
  (if c.waiting.map ContainerStateWaiting.reason = some "CrashLoopBackOff" then
    [AlertType.podCrashLoop.tableRow c.restartCount.toInt] else []) ++
  (if c.waiting.map ContainerStateWaiting.reason = some "ImagePullBackOff" ∨
      c.waiting.map ContainerStateWaiting.reason = some "ErrImagePull" then
    [AlertType.podImagePullError.tableRow 1] else [])

/-- The rows of the table for one pod, with restart threshold `restartThreshold`, at time
`now`: the restart total is the sum of the restart counts wrapped to `int32`, and a pending
pod alerts once it is more than five minutes old. -/
def podRuleTable (restartThreshold : BitVec 32) (pod : Pod) (now : Int) : List (AlertRow Int) :=
  let total := Int.bmod (pod.containerStatuses.map fun c : ContainerStatus => c.restartCount.toInt).sum
    (2 ^ 32)
  (if pod.phase = "Failed" then [AlertType.podFailed.tableRow 1] else []) ++
  (if pod.phase = "Unknown" then [AlertType.podUnknown.tableRow 1] else []) ++
  pod.containerStatuses.flatMap containerRows ++
  (if restartThreshold.toInt < total then [AlertType.podRestartThreshold.tableRow total]
    else []) ++
  (if pod.phase = "Pending" ∧ 5 * minute < now - pod.creationTimestamp then
    [AlertType.podPending.tableRow 1] else [])

theorem containerAlerts_rows (pod : Pod) (c : ContainerStatus) :
    (containerAlerts pod c).map Models.Alert.row = containerRows c := by
  have hrow := fun t (ht : AlertType.tableSource t = "k8s_pod") v => buildPodAlert_row pod ht v
  cases hw : c.waiting <;>
    simp [containerAlerts, containerRows, ContainerStatus.oomKilled, ContainerStatus.crashLooping,
      ContainerStatus.imagePullFailing, hw, apply_ite (List.map Models.Alert.row), hrow,
      AlertType.tableSource]

/-- The alerts of a watcher made by `NewPodWatcher` are the rows of the table, in its order. -/
theorem evaluatePodConditions_rows (podRestartThreshold : Int) (pod : Pod) (now : Int) :
    ((newPodWatcher podRestartThreshold).evaluatePodConditions pod now).map Models.Alert.row =
      podRuleTable (BitVec.ofInt 32 podRestartThreshold) pod now := by
  have hpending : 5 * minute < timeSub now pod.creationTimestamp ↔
      5 * minute < now - pod.creationTimestamp :=
    lt_timeSub_iff (show -2 ^ 63 ≤ 5 * minute by decide)
      (show 5 * minute < 2 ^ 63 - 1 by decide)
  have hrow := fun t (ht : AlertType.tableSource t = "k8s_pod") v => buildPodAlert_row pod ht v
  rw [evaluatePodConditions_eq]
  simp [hpending, List.map_flatMap, containerAlerts_rows, apply_ite (List.map Models.Alert.row), hrow,
    AlertType.tableSource, podRuleTable, restartSum, newPodWatcher, podFailed, podUnknown,
    podPending]

/-- A pod of namespace `prod` named `web-7`, created at time `0`, in `phase`, with
`containerStatuses`. -/
def web7 (phase : String) (containerStatuses : List ContainerStatus) : Pod :=
  { «namespace» := "prod", name := "web-7", creationTimestamp := 0, phase, reason := "",
    message := "", containerStatuses }

/-- With two OOM-killed containers, `app` (restarted 4 times) and `sidecar` (twice), both
`pod_oom_killed` alerts name `app`: the one with value 2 is the sidecar's. -/
theorem oomKilled_alerts_name_first_container :
    ((newPodWatcher 100).evaluatePodConditions
      (web7 "Running" [⟨"app", 4, none, some "OOMKilled"⟩, ⟨"sidecar", 2, none, some "OOMKilled"⟩])
      0).map (fun a => (a.label "alert_type", a.label "container", a.value)) =
      [("pod_oom_killed", "app", 4), ("pod_oom_killed", "app", 2)] := by
  decide

end PodWatcher

/-! ### The node rules -/

namespace NodeWatcher

/-- The `switch condition.Type` of `evaluateNodeConditions`: the alert one condition raises. -/
def conditionAlert? (node : Node) (condition : NodeCondition) : Option (Models.Alert Int) :=
  if condition.type = nodeReady then
    if condition.status ≠ conditionTrue then some (buildNodeAlert node .nodeNotReady 1) else none
  else if condition.type = nodeMemoryPressure then
    if condition.status = conditionTrue then some (buildNodeAlert node .nodeMemoryPressure 1)
    else none
  else if condition.type = nodeDiskPressure then
    if condition.status = conditionTrue then some (buildNodeAlert node .nodeDiskPressure 1)
    else none
  else if condition.type = nodePIDPressure then
    if condition.status = conditionTrue then some (buildNodeAlert node .nodePIDPressure 1)
    else none
  else none

/-- One pass of the `range node.Status.Conditions` loop. -/
def checkCondition (node : Node) (alerts : List (Models.Alert Int)) (condition : NodeCondition) :
    List (Models.Alert Int) :=
  match conditionAlert? node condition with
  | some alert => alerts ++ [alert]
  | none => alerts

def evaluateNodeConditions (node : Node) : List (Models.Alert Int) :=
  node.conditions.foldl (checkCondition node) []

/-- The condition loop keeps the alerts of the conditions in their order. -/
theorem foldl_checkCondition (node : Node) (conditions : List NodeCondition)
    (alerts : List (Models.Alert Int)) :
    conditions.foldl (checkCondition node) alerts =
      alerts ++ conditions.filterMap (conditionAlert? node) := by
  induction conditions generalizing alerts with
  | nil => simp
  | cons c cs ih =>
    rw [List.foldl_cons, ih, List.filterMap_cons]
    cases h : conditionAlert? node c <;> simp [checkCondition, h]

/-- The node rule a condition matches, as the table names the rules. -/
def nodeRuleOf (c : NodeCondition) : Option AlertType :=
  if c.type = "Ready" ∧ c.status ≠ "True" then some .nodeNotReady
  else if c.type = "MemoryPressure" ∧ c.status = "True" then some .nodeMemoryPressure
  else if c.type = "DiskPressure" ∧ c.status = "True" then some .nodeDiskPressure
  else if c.type = "PIDPressure" ∧ c.status = "True" then some .nodePIDPressure
  else none

/-- The rows of the table for one node: one per condition that matches a node rule, in the
order of the conditions, each with value `1`. -/
def nodeRuleTable (node : Node) : List (AlertRow Int) :=
  node.conditions.filterMap fun c => (nodeRuleOf c).map (·.tableRow 1)

/-- The `switch` of one condition raises the alert of the rule the condition matches. -/
theorem conditionAlert?_eq (node : Node) (c : NodeCondition) :
    conditionAlert? node c = (nodeRuleOf c).map (buildNodeAlert node · 1) := by
  obtain ⟨type, status, reason⟩ := c
  simp only [conditionAlert?, nodeRuleOf, nodeReady, nodeMemoryPressure, nodeDiskPressure,
    nodePIDPressure, conditionTrue]
  by_cases hr : type = "Ready"
  · subst hr; by_cases hs : status = "True" <;> simp [hs]
  by_cases hm : type = "MemoryPressure"
  · subst hm; by_cases hs : status = "True" <;> simp [hs]
  by_cases hd : type = "DiskPressure"
  · subst hd; by_cases hs : status = "True" <;> simp [hs]
  by_cases hp : type = "PIDPressure"
  · subst hp; by_cases hs : status = "True" <;> simp [hs]
  simp [hr, hm, hd, hp]

theorem nodeRuleOf_source {c : NodeCondition} {t : AlertType} (h : nodeRuleOf c = some t) :
    t.tableSource = "k8s_node" := by
  simp only [nodeRuleOf] at h
  split_ifs at h <;> cases h <;> rfl

/-- One alert per condition that matches a node rule, in the order of the conditions, and
nothing else. -/
theorem evaluateNodeConditions_rows (node : Node) :
    (evaluateNodeConditions node).map Models.Alert.row = nodeRuleTable node := by
  rw [evaluateNodeConditions, foldl_checkCondition, List.nil_append, List.map_filterMap,
    nodeRuleTable]
  refine List.filterMap_congr fun c _ => ?_
  rw [conditionAlert?_eq, Option.map_map]
  cases h : nodeRuleOf c with
  | none => rfl
  | some t => simp [buildNodeAlert_row node (nodeRuleOf_source h)]

theorem evaluateNodeConditions_labels (node : Node) :
    ∀ a ∈ evaluateNodeConditions node, a.label "node" = node.name := by
  intro a ha
  rw [evaluateNodeConditions, foldl_checkCondition, List.nil_append] at ha
  obtain ⟨c, -, hc⟩ := List.mem_filterMap.1 ha
  rw [conditionAlert?_eq] at hc
  obtain ⟨t, -, rfl⟩ := Option.map_eq_some'.1 hc
  exact buildNodeAlert_label node t 1

/-- The node evaluator follows the rule table: one alert per condition that matches a node
rule, in the order of the conditions, and nothing else; every alert is labelled with the
node. -/
theorem evaluateNodeConditions_follows_table (node : Node) :
    (evaluateNodeConditions node).map Models.Alert.row = nodeRuleTable node ∧
    ∀ a ∈ evaluateNodeConditions node, a.label "node" = node.name :=
  ⟨evaluateNodeConditions_rows node, evaluateNodeConditions_labels node⟩

end NodeWatcher

end AlertPipeline
