import SpotServe.Backend.Forgetting
import SpotServe.Backend.RequestTables
import SpotServe.Cluster.HandleLifecycle
import SpotServe.ContextMigration.OrderInvariance
import SpotServe.Controller.FineTuningJobs
import SpotServe.Controller.JobLifeCycle
import SpotServe.Controller.ModelDeletion
import SpotServe.ExpertPlacement.AcceptedPlacement
import SpotServe.ExpertPlacement.MovementReport
import SpotServe.ExpertPlacement.MovementRules
import SpotServe.ExpertPlacement.PlannedSnapshot
import SpotServe.ExpertRemap.Invisible
import SpotServe.ExpertRemap.PlannerContract
import SpotServe.ExpertRemap.Progress
import SpotServe.Library.Monitor
import SpotServe.Preemption.Deadlines
import SpotServe.Reparallelization.FailedReplan
import SpotServe.Reparallelization.Lifecycle
import SpotServe.Reparallelization.LiveRemapShape
import SpotServe.Reparallelization.PlacementAgreement
import SpotServe.Reparallelization.UnchangedPlan
import SpotServe.Router.CommittedOutput
import SpotServe.Router.CommittedShape
import SpotServe.Router.NativeRestore
import SpotServe.Router.OutputBudget
import SpotServe.Router.RequestIsolation
import SpotServe.Router.ShutdownAnswers
import SpotServe.Router.SlotConservation
import SpotServe.Scheduler.FirstComeFirstServed
import SpotServe.Scheduler.GpuBalance
import SpotServe.Scheduler.SpotMarks
import SpotServe.Scheduler.StorageAware
import SpotServe.SparseA2A.Equivalence
import SpotServe.Store.DispatchSafety
import SpotServe.Store.EvictionList
import SpotServe.Store.ModelWaits
import SpotServe.Store.PoolConservation
import SpotServe.Store.Resave
import SpotServe.Store.WakeUps
import SpotServe.Scheduler.ExactAllocation
import SpotServe.ContextMigration.DispatchConservation
import SpotServe.Store.HostCoverage
import SpotServe.Store.Eviction
import SpotServe.Store.DeviceCopies
import SpotServe.Reparallelization.ReservationLedger
import SpotServe.Reparallelization.ElasticRecords
import SpotServe.Scheduler.MigrationPlans
import SpotServe.Scheduler.MigrationSearch
import SpotServe.Scheduler.MigrationTargets
import SpotServe.Library.Dedupe
import SpotServe.Reparallelization.AlgorithmOne
import SpotServe.Reparallelization.PlacementEnrichment
import SpotServe.Router.RetryBudget
import SpotServe.Store.ModulePaths
import SpotServe.ContextMigration.TargetReuse
import SpotServe.StateRestore.Compatibility
import SpotServe.StateRestore.Target
import SpotServe.Store.HostEvictions
import SpotServe.Store.HostLedger
import SpotServe.Library.Splits
import SpotServe.Store.BalancedPlacement
import SpotServe.Store.PlacementSoundness
import SpotServe.ExpertPlacement.HotnessDistribution
import SpotServe.Reparallelization.CalibratedRecovery
import SpotServe.Reparallelization.RecoveryChoice
import SpotServe.ExpertRemap.Coordination
import SpotServe.Library.Generation
import SpotServe.ExpertRemap.PathIndependence
import SpotServe.Router.InvisibleRecovery
import SpotServe.ExpertPlacement.Forecast
import SpotServe.ExpertPlacement.SourceCounters
import SpotServe.ExpertRemap.LoadForecast
import SpotServe.ExpertRemap.TrafficForecast
