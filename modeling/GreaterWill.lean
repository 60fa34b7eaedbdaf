import GreaterWill.Engine.CrashLoop
import GreaterWill.Lib.Frames
import GreaterWill.Daemon.Protocol
import GreaterWill.Daemon.QueueFlush
import GreaterWill.Daemon.MetaFlush
import GreaterWill.Daemon.MonitorOutcome
import GreaterWill.Daemon.RecoveryBudget
import GreaterWill.Daemon.Fifo
import GreaterWill.Daemon.Ops
import GreaterWill.Daemon.Tasks
import GreaterWill.Daemon.DaemonSpec
import GreaterWill.Daemon.Started
import GreaterWill.Daemon.Mutex
import GreaterWill.Daemon.Terminal
import GreaterWill.Daemon.Ownership
import GreaterWill.Daemon.Capacity
import GreaterWill.Daemon.DrainLocks
import GreaterWill.Engine.CrashBounds
import GreaterWill.Engine.CrashHistory
import GreaterWill.Checkpoint.PhaseOrder
import GreaterWill.Checkpoint.Schema
import GreaterWill.Checkpoint.Codec
import GreaterWill.Checkpoint.Files
import GreaterWill.Lib.Text
import GreaterWill.Monitor.LoopState
import GreaterWill.Engine.PhaseProfile
import GreaterWill.Engine.Restart
import GreaterWill.Engine.CheckpointCache
import GreaterWill.Engine.Retry
import GreaterWill.Monitor.PromptAccept
import GreaterWill.Daemon.RunMonitor
import GreaterWill.Daemon.CompletionSound
import GreaterWill.Daemon.StillRuns
import GreaterWill.Daemon.KillGate
import GreaterWill.Daemon.SpawnStop
import GreaterWill.Daemon.FollowLogs
import GreaterWill.Daemon.Schedule
import GreaterWill.Daemon.ScheduleLoop
import GreaterWill.Daemon.HeartbeatPhase
import GreaterWill.Daemon.Stranded
import GreaterWill.Daemon.Submission
import GreaterWill.Batch.InstanceLock
import GreaterWill.Commands.RunExclusion
import GreaterWill.Engine.SessionMonitor
import GreaterWill.Engine.SessionMonitorSpec
import GreaterWill.Engine.SessionCompletion
import GreaterWill.Engine.ProcessDeath
import GreaterWill.Daemon.KillSigns
import GreaterWill.Batch.BatchRunner
import GreaterWill.Engine.CacheTransparency
import GreaterWill.Batch.BatchAccounting
import GreaterWill.Engine.Orchestrator
import GreaterWill.Engine.RetryCeiling
import GreaterWill.Config.PhaseConfig
import GreaterWill.Checkpoint.Handoff
import GreaterWill.Engine.RetryCoordinator
import GreaterWill.Engine.PhaseExecutor
import GreaterWill.Engine.PlanExecution
import GreaterWill.Commands.Elden
import GreaterWill.Daemon.HookSignals
import GreaterWill.Checkpoint.PhaseInference
import GreaterWill.Checkpoint.NearCompletion
import GreaterWill.Checkpoint.HandoffSpec
import GreaterWill.Monitor.PhaseNav
import GreaterWill.Checkpoint.Progress
import GreaterWill.Daemon.Reconcile
import GreaterWill.Daemon.ReconcileSpec
import GreaterWill.Daemon.LockRebuild
import GreaterWill.Daemon.QueueFiles
import GreaterWill.Daemon.CrashConsistency
import GreaterWill.Engine.CompletionDetector
import GreaterWill.Engine.CompletionSpec
import GreaterWill.Engine.IdleEscalation
import GreaterWill.Engine.RetryClean
import GreaterWill.Engine.RetryCurve
import GreaterWill.Daemon.VanishedSession
import GreaterWill.Daemon.TickFrame
import GreaterWill.Daemon.ErrorConfirmation
import GreaterWill.Engine.MonitorArithmetic
import GreaterWill.Lib.Ladder
import GreaterWill.Daemon.GapEscalation
import GreaterWill.Daemon.IdleNudges
import GreaterWill.Engine.RapidFailure
import GreaterWill.Daemon.Admission
import GreaterWill.Lib.Strikes
import GreaterWill.Daemon.CircuitBreaker
import GreaterWill.Daemon.QueueClear
import GreaterWill.Daemon.StagedParity
import GreaterWill.Daemon.CollisionResolution
import GreaterWill.Daemon.PrefixLookup
import GreaterWill.Daemon.ScheduleSave
import GreaterWill.Daemon.Durations
import GreaterWill.Daemon.Retention
import GreaterWill.Lib.Worklist
import GreaterWill.Cleanup.Process
import GreaterWill.Lib.TextLemmas
import GreaterWill.Lib.Digits
import GreaterWill.Lib.Generations
import GreaterWill.Log.RunLog
import GreaterWill.Lib.Shell
import GreaterWill.Engine.ArcCommand
import GreaterWill.Lib.Utf8
import GreaterWill.Engine.SessionName
import GreaterWill.Daemon.HeartbeatErrors
import GreaterWill.Commands.HookInstall
import GreaterWill.Monitor.Frontmatter
import GreaterWill.Lib.Words
import GreaterWill.Engine.InactiveLoopState
import GreaterWill.GitHub.Issue
import GreaterWill.GitHub.Slug
import GreaterWill.Daemon.Startup
import GreaterWill.Lib.JsonText
import GreaterWill.Lib.Serde
import GreaterWill.Daemon.Messages
import GreaterWill.Daemon.Connection
import GreaterWill.Engine.PaneErrors
import GreaterWill.Daemon.PaneKills
import GreaterWill.Daemon.Monitors
import GreaterWill.Lib.LossyText
import GreaterWill.Lib.SharedFile
import GreaterWill.Daemon.EventLog
import GreaterWill.Engine.SessionOwner
import GreaterWill.Lib.ReplacedFile
import GreaterWill.Daemon.SavedFiles
import GreaterWill.Daemon.LifeCycle
import GreaterWill.Daemon.SessionKills
