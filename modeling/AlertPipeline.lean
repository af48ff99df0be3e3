import AlertPipeline.Channel
import AlertPipeline.WorkerPool
import AlertPipeline.WorkerPoolSafety
import AlertPipeline.WorkerPoolStop
import AlertPipeline.EventBus
import AlertPipeline.EventBusSafety
import AlertPipeline.EventBusNotify
import AlertPipeline.Hub
import AlertPipeline.HubSafety
import AlertPipeline.Repository
import AlertPipeline.Watcher
import AlertPipeline.WatcherAccounting
import AlertPipeline.Builders
import AlertPipeline.Evaluators
import AlertPipeline.MetricsWatcher
import AlertPipeline.AlertService
import AlertPipeline.WatcherRules
import AlertPipeline.Labels
import AlertPipeline.DashboardSocket
import AlertPipeline.DashboardApp
