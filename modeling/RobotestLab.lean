import RobotestLab.Collisions.ActiveSet
import RobotestLab.Collisions.Admission
import RobotestLab.Collisions.Aggregator
import RobotestLab.Collisions.Bookkeeping
import RobotestLab.Collisions.Bridge
import RobotestLab.Collisions.Gate
import RobotestLab.Collisions.GateAdmission
import RobotestLab.Collisions.Grouping
import RobotestLab.Collisions.Intervals
import RobotestLab.Collisions.Messages
import RobotestLab.Collisions.ScopedNames
import RobotestLab.Collisions.Snapshots
import RobotestLab.Collisions.SteadyStream
import RobotestLab.Faults.Arming
import RobotestLab.Faults.Conservation
import RobotestLab.Faults.ControlSpec
import RobotestLab.Faults.Evidence
import RobotestLab.Faults.Generations
import RobotestLab.Faults.Intervals
import RobotestLab.Faults.Invariant
import RobotestLab.Faults.Lifecycle
import RobotestLab.Faults.Noninterference
import RobotestLab.Faults.PassThrough
import RobotestLab.Faults.Protocol
import RobotestLab.Faults.ProtocolSpec
import RobotestLab.Faults.ProxyNode
import RobotestLab.Faults.Replay
import RobotestLab.Faults.Schedule
import RobotestLab.Faults.ScheduleSpec
import RobotestLab.Faults.Stream
import RobotestLab.Interfaces.Messages
import RobotestLab.Library.Bins
import RobotestLab.Library.Budget
import RobotestLab.Library.Changes
import RobotestLab.Library.Checked
import RobotestLab.Library.Contracts
import RobotestLab.Library.Dict
import RobotestLab.Library.DottedPath
import RobotestLab.Library.Ending
import RobotestLab.Library.Establishing
import RobotestLab.Library.Fields
import RobotestLab.Library.Grouping
import RobotestLab.Library.HalfLines
import RobotestLab.Library.Held
import RobotestLab.Library.Json
import RobotestLab.Library.JsonSchema
import RobotestLab.Library.Ledger
import RobotestLab.Library.Machine
import RobotestLab.Library.Marshal
import RobotestLab.Library.NestedDict
import RobotestLab.Library.Occurrence
import RobotestLab.Library.OrderedMatching
import RobotestLab.Library.Presence
import RobotestLab.Library.Program
import RobotestLab.Library.PyValue
import RobotestLab.Library.Reasons
import RobotestLab.Library.Related
import RobotestLab.Library.Restricted
import RobotestLab.Library.Retention
import RobotestLab.Library.Run
import RobotestLab.Library.Segments
import RobotestLab.Library.SortedMap
import RobotestLab.Library.Spans
import RobotestLab.Library.Threads
import RobotestLab.Library.Timestamp
import RobotestLab.Library.Tokens
import RobotestLab.Library.Unwinding
import RobotestLab.Metrics.CleanupProof
import RobotestLab.Metrics.Collector
import RobotestLab.Metrics.CollectorPrefix
import RobotestLab.Metrics.CollisionCount
import RobotestLab.Metrics.CollisionEpisodes
import RobotestLab.Metrics.Collisions
import RobotestLab.Metrics.CommandSafety
import RobotestLab.Metrics.ContactReconciliation
import RobotestLab.Metrics.EpisodePresence
import RobotestLab.Metrics.FailureResults
import RobotestLab.Metrics.FailureVerdict
import RobotestLab.Metrics.Geometry
import RobotestLab.Metrics.OutageMeasure
import RobotestLab.Metrics.PlanLegs
import RobotestLab.Metrics.PlanPartition
import RobotestLab.Metrics.Plans
import RobotestLab.Metrics.Poses
import RobotestLab.Metrics.RecoveryContract
import RobotestLab.Metrics.RecoveryMinimum
import RobotestLab.Metrics.RecoverySearch
import RobotestLab.Metrics.RecoveryWindow
import RobotestLab.Metrics.Replans
import RobotestLab.Metrics.RestartPairs
import RobotestLab.Metrics.Retained
import RobotestLab.Metrics.RunAnalysis
import RobotestLab.Metrics.RunReasons
import RobotestLab.Metrics.SensorRecovery
import RobotestLab.Metrics.SteadyTime
import RobotestLab.Metrics.StopIntervals
import RobotestLab.Metrics.StopSafety
import RobotestLab.Metrics.SupervisorLog
import RobotestLab.Metrics.SupervisorRecovery
import RobotestLab.Metrics.Values
import RobotestLab.Missions.Accounting
import RobotestLab.Missions.Agreement
import RobotestLab.Missions.CleanEvidence
import RobotestLab.Missions.Closing
import RobotestLab.Missions.Conformance
import RobotestLab.Missions.Execution
import RobotestLab.Missions.FailClosed
import RobotestLab.Missions.FaultControl
import RobotestLab.Missions.FaultDriver
import RobotestLab.Missions.FaultSchedule
import RobotestLab.Missions.Feedback
import RobotestLab.Missions.Goal
import RobotestLab.Missions.Monitoring
import RobotestLab.Missions.Observation
import RobotestLab.Missions.ScheduleBytes
import RobotestLab.Missions.ScheduleContract
import RobotestLab.Missions.ScheduleSpec
import RobotestLab.Missions.Success
import RobotestLab.Missions.Termination
import RobotestLab.Scenarios.Absence
import RobotestLab.Scenarios.ActorAbsence
import RobotestLab.Scenarios.Anchors
import RobotestLab.Scenarios.Cleanup
import RobotestLab.Scenarios.Clipping
import RobotestLab.Scenarios.Collecting
import RobotestLab.Scenarios.ContactSnapshots
import RobotestLab.Scenarios.Coverage
import RobotestLab.Scenarios.EntityPoses
import RobotestLab.Scenarios.EpisodeAgreement
import RobotestLab.Scenarios.EpisodeTrackers
import RobotestLab.Scenarios.ObservationMatching
import RobotestLab.Scenarios.ObservedTransactions
import RobotestLab.Scenarios.Observing
import RobotestLab.Scenarios.ScenarioThree
import RobotestLab.Scenarios.SnapshotProgress
import RobotestLab.Scenarios.Tracking
import RobotestLab.Scenarios.TrajectoryMatching
import RobotestLab.Supervisor.Circuit
import RobotestLab.Supervisor.Configuration
import RobotestLab.Supervisor.ConfigurationKeys
import RobotestLab.Supervisor.Event
import RobotestLab.Supervisor.EventStore
import RobotestLab.Supervisor.EventStoreSpec
import RobotestLab.Supervisor.Goroutines
import RobotestLab.Supervisor.Groups
import RobotestLab.Supervisor.Interleaving
import RobotestLab.Supervisor.Lifecycle
import RobotestLab.Supervisor.Manager
import RobotestLab.Supervisor.Orphans
import RobotestLab.Supervisor.Outage
import RobotestLab.Supervisor.Readiness
import RobotestLab.Supervisor.Records
import RobotestLab.Supervisor.Recovery
import RobotestLab.Supervisor.Refreshing
import RobotestLab.Supervisor.Reporting
import RobotestLab.Supervisor.Restart
import RobotestLab.Supervisor.RestartOrder
import RobotestLab.Supervisor.RestartSpec
import RobotestLab.Supervisor.Shutdown
import RobotestLab.Supervisor.StoreInvariant
import RobotestLab.Supervisor.StoreRecovery
import RobotestLab.Supervisor.StoreRestart
import RobotestLab.Supervisor.Turns
