import ConstellationNq.App.ArchiveSeal
import ConstellationNq.App.DeliveryIdentity
import ConstellationNq.App.DeliverySummary
import ConstellationNq.App.PagerDuty
import ConstellationNq.App.Resubmission
import ConstellationNq.App.SavedCheckProperties
import ConstellationNq.Core.AdmissionLock
import ConstellationNq.Core.LaunchPlan
import ConstellationNq.Core.MonitorDigest
import ConstellationNq.Core.OperationalContradictions
import ConstellationNq.Core.OperationalRecord
import ConstellationNq.Core.ProviderIntake
import ConstellationNq.Core.ResidentReservation
import ConstellationNq.Core.RunnerProperties
import ConstellationNq.Core.StageAncestry
import ConstellationNq.Core.StageQualificationExactness
import ConstellationNq.Core.UnixRunner
import ConstellationNq.Helper.HttpResponseProperties
import ConstellationNq.Helper.SystemdRoundTrip
import ConstellationNq.Store.Accumulator
import ConstellationNq.Store.Allocation
import ConstellationNq.Store.CapacityPreflight
import ConstellationNq.Store.FloorFixpoint
import ConstellationNq.Store.ProjectionScope
import ConstellationNq.Store.Reanchoring
import ConstellationNq.Store.Retention.ExpiryFrame
import ConstellationNq.Store.SavedCheckLog
import ConstellationNq.Store.WatermarkCommitment
import ConstellationNq.SystemContract.AdmissionProperties
import ConstellationNq.SystemContract.PorterProperties
import ConstellationNq.SystemContract.WindowProperties
