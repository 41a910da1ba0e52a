import HiAgent.Server.RunQueue.RowInvariant
import HiAgent.Server.RunQueue.Fencing
import HiAgent.Server.Recovery
import HiAgent.Server.RunManager.Ownership
import HiAgent.Server.RunManager.Durable
import HiAgent.Kernel.Workers
import HiAgent.Execution.RunFinalizer
import HiAgent.Execution.StageOrchestrator.GraphRuns
import HiAgent.Server.EventStream
import HiAgent.Execution.RunExecutor.Gates
import HiAgent.Execution.RunExecutor.Checkpoints
import HiAgent.Kernel.Consistency.Histories
import HiAgent.TaskMgmt.AsyncScheduler.Ends
import HiAgent.Kernel.RunActorWorkflow.SignalsOnce
import HiAgent.Runtime.Heartbeat
import HiAgent.Llm.Failover.Suspended
import HiAgent.AgentServer.KernelAdapter
import HiAgent.Llm.BudgetTracker
import HiAgent.Management.GateStore.Interchange
import HiAgent.Context.Manager.StableSections
import HiAgent.Context.Manager.HistoryKept
import HiAgent.AgentServer.IdempotencyMiddleware.Replays
import HiAgent.RuntimeAdapter.ResilientKernelAdapter.Repaired
import HiAgent.Runtime.Harness
import HiAgent.Memory.StructuredCompression
import HiAgent.Memory.GraphBackend.Agreement
import HiAgent.Memory.ShortTerm.BoundedMap
import HiAgent.Memory.Survival
import HiAgent.Server.DreamScheduler
import HiAgent.Server.TeamRunRegistry
import HiAgent.Server.RateLimiter
import HiAgent.TaskDecomposition.Executor.Step
import HiAgent.Capability.CircuitBreaker.Law
import HiAgent.Execution.RecoveryCoordinator
import HiAgent.Execution.StageExecutor
import HiAgent.Operations.OpStore
import HiAgent.Artifacts.Ledger
import HiAgent.Session.RunSession
import HiAgent.Kernel.EventSchemaMigration
import HiAgent.Kernel.DedupeStore.CountByRun
import HiAgent.Kernel.CompensationRegistry.Honest
import HiAgent.Kernel.IdempotencyKeyPolicy.Suppression
import HiAgent.Kernel.ColocatedBundle
import HiAgent.Execution.ActionDispatcher.Hooked
import HiAgent.Trajectory.Graph.Order
import HiAgent.Trajectory.Graph.Document
import HiAgent.Kernel.RecoveryGate.Unhandled
import HiAgent.Kernel.TaskManager.Indexes
import HiAgent.TaskMgmt.Scheduler.Reports
import HiAgent.Skill.Version
import HiAgent.Context.TaskView
