import AlertPipeline.WatcherAccounting
import AlertPipeline.Evaluators

/-
The watch pipelines with the evaluators `processEvent` runs.  The pipeline of `Watcher` is
generic in its evaluator; here it runs `evaluatePodConditions` of the watcher `NewPodWatcher`
built (`evaluateNodeConditions`, which ignores the time, for nodes).  The pipeline's invariant
and the evaluators' row lemmas together say what reaches `AlertRepo.Create`: rows of the rule
table for the object the watch stream delivered, labelled with it, and, once nothing is lost
or on its way, exactly the table rows of the evaluated objects.
-/

namespace AlertPipeline

namespace Watcher

/-! ### An evaluator that follows a table -/

section Tables

variable {ο ρ α : Type} {evaluate : ο → Int → List ρ} {original : List ο}
  {table : ο → Int → List α} (view : ρ → α)

/-- Each alert passed to `Create` is one the evaluator built for the delivered object, so its
view is a row of that object's table. -/
theorem Inv.create_view {p : Watcher ο ρ} (hi : Inv evaluate original p)
    (htable : ∀ obj now, (evaluate obj now).map view = table obj now) {c : CreateCall ρ}
    (hc : c ∈ p.creates) :
    ∃ obj now, original[c.event]? = some obj ∧ c.alert.rule ∈ evaluate obj now ∧
      view c.alert.rule ∈ table obj now := by
  obtain ⟨obj, now, hobj, hmem⟩ := hi.create_rule hc
  exact ⟨obj, now, hobj, hmem, htable obj now ▸ List.mem_map_of_mem view hmem⟩

/-- With nothing on its way and nothing lost, the views of the stored alerts are the rows of
the evaluated objects' tables, each once. -/
theorem Inv.persisted_view_perm {p : Watcher ο ρ} (hi : Inv evaluate original p)
    (htable : ∀ obj now, (evaluate obj now).map view = table obj now) (hset : p.Settled)
    (hnl : p.NoLoss) :
    (p.persisted.map fun a => view a.rule).Perm
      (p.evaluated.flatMap fun r => table r.event.obj r.now) := by
  have hperm := (hi.persisted_rules_perm hset.2.2.2.2 hnl.2.2).map view
  simpa only [List.map_map, List.map_flatMap, htable] using hperm

end Tables

/-! ### The pod watcher -/

/-- The pod watcher whose workers run `evaluatePodConditions` of `NewPodWatcher`: at every
reachable state, each alert passed to `Create` is a row of the rule table for the pod the
stream delivered at its event's position, labelled with that pod's namespace and name; once
nothing is on its way and nothing was lost, the stored alerts are the table rows of the
evaluated pods, each once. -/
theorem podWatcher_creates_table_rows {podRestartThreshold : Int} {eventChanSize : Nat}
    {original : List Pod} {workerCount queueSize : Int} {p : Watcher Pod (Models.Alert Int)}
    (h : Reachable (PodWatcher.newPodWatcher podRestartThreshold).evaluatePodConditions
      eventChanSize original workerCount queueSize p) :
    (∀ c ∈ p.creates, ∃ pod now, original[c.event]? = some pod ∧
      c.alert.rule.row ∈ PodWatcher.podRuleTable (BitVec.ofInt 32 podRestartThreshold) pod now ∧
      c.alert.rule.label "namespace" = pod.«namespace» ∧ c.alert.rule.label "pod" = pod.name) ∧
    (p.Settled → p.NoLoss →
      (p.persisted.map fun a => a.rule.row).Perm (p.evaluated.flatMap fun r =>
        PodWatcher.podRuleTable (BitVec.ofInt 32 podRestartThreshold) r.event.obj r.now)) := by
  have htable := PodWatcher.evaluatePodConditions_rows podRestartThreshold
  refine ⟨fun c hc => ?_, h.inv.persisted_view_perm Models.Alert.row htable⟩
  obtain ⟨pod, now, hpod, hmem, hrow⟩ := h.inv.create_view Models.Alert.row htable hc
  exact ⟨pod, now, hpod, hrow, PodWatcher.forall_evaluatePodConditions _ pod now
    (P := fun a => a.label "namespace" = pod.«namespace» ∧ a.label "pod" = pod.name)
    (buildPodAlert_labels pod) _ hmem⟩

/-- One event through the pipeline with one alert: received, queued, submitted (context
check, `stopped` check, send), taken by worker `0`, its alert created, and the task returns. -/
def oneAlertThrough {ο : Type} : List (WatcherAction ο) :=
  [.watchRecv, .watchSend, .dispatchRecv, .dispatchSubmit, .dispatchSubmit, .dispatchSubmit,
    .take 0 0, .processAlert 0 true, .taskReturns 0]

/-- The pod watcher, with a restart threshold of `5`, fed one failed pod. -/
def failedPodThrough : Watcher Pod (Models.Alert Int) :=
  ((newPodWatcher [PodWatcher.web7 podFailed []] (newWorkerPool 5 300).start).run
    (PodWatcher.newPodWatcher 5).evaluatePodConditions oneAlertThrough).getD
    (newPodWatcher [] (newWorkerPool 5 300).start)

theorem podWatcher_creates_table_rows_failedPod :
    Reachable (PodWatcher.newPodWatcher 5).evaluatePodConditions 500
      [PodWatcher.web7 podFailed []] 5 300 failedPodThrough ∧
    failedPodThrough.Settled ∧ failedPodThrough.NoLoss ∧
    failedPodThrough.persisted.map (fun a => a.rule.row) = [AlertType.podFailed.tableRow 1] ∧
    ((∀ c ∈ failedPodThrough.creates, ∃ pod now,
      [PodWatcher.web7 podFailed []][c.event]? = some pod ∧
      c.alert.rule.row ∈ PodWatcher.podRuleTable (BitVec.ofInt 32 5) pod now ∧
      c.alert.rule.label "namespace" = pod.«namespace» ∧ c.alert.rule.label "pod" = pod.name) ∧
    (failedPodThrough.Settled → failedPodThrough.NoLoss →
      (failedPodThrough.persisted.map fun a => a.rule.row).Perm
        (failedPodThrough.evaluated.flatMap fun r =>
          PodWatcher.podRuleTable (BitVec.ofInt 32 5) r.event.obj r.now))) :=
  have hr : Reachable (PodWatcher.newPodWatcher 5).evaluatePodConditions 500
      [PodWatcher.web7 podFailed []] 5 300 failedPodThrough :=
    Reachable.init.run (show (newPodWatcher [PodWatcher.web7 podFailed []]
      (newWorkerPool 5 300).start).run (PodWatcher.newPodWatcher 5).evaluatePodConditions
        oneAlertThrough = some failedPodThrough from rfl)
  ⟨hr, by decide, by decide, by decide, podWatcher_creates_table_rows hr⟩

/-! ### The node watcher -/

/-- The node watcher whose workers run `evaluateNodeConditions`: at every reachable state, each
alert passed to `Create` is a row of the rule table for the node the stream delivered at its
event's position, labelled with that node's name; once nothing is on its way and nothing was
lost, the stored alerts are the table rows of the evaluated nodes, each once. -/
theorem nodeWatcher_creates_table_rows {eventChanSize : Nat} {original : List Node}
    {workerCount queueSize : Int} {p : Watcher Node (Models.Alert Int)}
    (h : Reachable (fun node _ => NodeWatcher.evaluateNodeConditions node) eventChanSize original
      workerCount queueSize p) :
    (∀ c ∈ p.creates, ∃ node, original[c.event]? = some node ∧
      c.alert.rule.row ∈ NodeWatcher.nodeRuleTable node ∧ c.alert.rule.label "node" = node.name) ∧
    (p.Settled → p.NoLoss →
      (p.persisted.map fun a => a.rule.row).Perm
        (p.evaluated.flatMap fun r => NodeWatcher.nodeRuleTable r.event.obj)) := by
  have htable : ∀ (node : Node) (_ : Int),
      (NodeWatcher.evaluateNodeConditions node).map Models.Alert.row =
        NodeWatcher.nodeRuleTable node := fun node _ => NodeWatcher.evaluateNodeConditions_rows node
  refine ⟨fun c hc => ?_, h.inv.persisted_view_perm Models.Alert.row htable⟩
  obtain ⟨node, -, hnode, hmem, hrow⟩ := h.inv.create_view Models.Alert.row htable hc
  exact ⟨node, hnode, hrow, NodeWatcher.evaluateNodeConditions_labels node _ hmem⟩

/-- A node named `node-1` whose `Ready` condition is `False`. -/
def notReadyNode : Node := { name := "node-1", conditions := [⟨nodeReady, "False", "KubeletDown"⟩] }

/-- The node watcher fed that node once. -/
def notReadyNodeThrough : Watcher Node (Models.Alert Int) :=
  ((newNodeWatcher [notReadyNode] (newWorkerPool 5 300).start).run
    (fun node _ => NodeWatcher.evaluateNodeConditions node) oneAlertThrough).getD
    (newNodeWatcher [] (newWorkerPool 5 300).start)

theorem nodeWatcher_creates_table_rows_notReady :
    Reachable (fun node _ => NodeWatcher.evaluateNodeConditions node) 300 [notReadyNode] 5 300
      notReadyNodeThrough ∧
    notReadyNodeThrough.Settled ∧ notReadyNodeThrough.NoLoss ∧
    notReadyNodeThrough.persisted.map (fun a => a.rule.row) =
      [AlertType.nodeNotReady.tableRow 1] ∧
    ((∀ c ∈ notReadyNodeThrough.creates, ∃ node, [notReadyNode][c.event]? = some node ∧
      c.alert.rule.row ∈ NodeWatcher.nodeRuleTable node ∧ c.alert.rule.label "node" = node.name) ∧
    (notReadyNodeThrough.Settled → notReadyNodeThrough.NoLoss →
      (notReadyNodeThrough.persisted.map fun a => a.rule.row).Perm
        (notReadyNodeThrough.evaluated.flatMap fun r => NodeWatcher.nodeRuleTable r.event.obj))) :=
  have hr : Reachable (fun node _ => NodeWatcher.evaluateNodeConditions node) 300 [notReadyNode]
      5 300 notReadyNodeThrough :=
    Reachable.init.run (show (newNodeWatcher [notReadyNode] (newWorkerPool 5 300).start).run
      (fun node _ => NodeWatcher.evaluateNodeConditions node) oneAlertThrough =
        some notReadyNodeThrough from rfl)
  ⟨hr, by decide, by decide, by decide, nodeWatcher_creates_table_rows hr⟩

end Watcher

end AlertPipeline
