import OpenEngine.Transition
import OpenEngine.RoundRobin
import OpenEngine.Check
import OpenEngine.Redundancy
import OpenEngine.Delimited
import OpenEngine.TaskPool
import OpenEngine.LeasedTasks
import OpenEngine.TaskFleet
import OpenEngine.Number.Saturating
import OpenEngine.Number.Binary64
import OpenEngine.Rlp.Item
import OpenEngine.Rlp.Encodable
import OpenEngine.Redis.Collections
import OpenEngine.Redis.Counters
import OpenEngine.Redis.Connection
import OpenEngine.Queue.Job
import OpenEngine.Queue.Store
import OpenEngine.Queue.Pop
import OpenEngine.Queue.Completion
import OpenEngine.Queue.Operations
import OpenEngine.Queue.Lifecycle
import OpenEngine.Queue.Refinement
import OpenEngine.Queue.SoleEntry
import OpenEngine.Queue.Exclusive
import OpenEngine.Queue.HookEnqueue
import OpenEngine.Queue.Conservation
import OpenEngine.Queue.Reported
import OpenEngine.Queue.LeaseHistory
import OpenEngine.Queue.Retention
import OpenEngine.Queue.Watch
import OpenEngine.Queue.Pruning
import OpenEngine.Queue.Bounds
import OpenEngine.Queue.Cancellation
import OpenEngine.Queue.Attempts
import OpenEngine.Queue.AttemptCount
import OpenEngine.Queue.ErrorHistory
import OpenEngine.Queue.ActiveMode
import OpenEngine.Queue.Replacement
import OpenEngine.Queue.Multilane
import OpenEngine.Queue.LaneJob
import OpenEngine.Queue.LaneInvariant
import OpenEngine.Queue.LaneRegistry
import OpenEngine.Queue.LaneResidue
import OpenEngine.Queue.LaneTurns
import OpenEngine.Queue.LaneLoop
import OpenEngine.Queue.LaneFairness
import OpenEngine.Queue.Twin
import OpenEngine.Queue.OneLane
import OpenEngine.Queue.LaneVisits
import OpenEngine.Queue.LaneBatch
import OpenEngine.Queue.LaneMirror
import OpenEngine.Queue.LaneOrder
import OpenEngine.Queue.KeyNames
import OpenEngine.Queue.WorkTask
import OpenEngine.Queue.WorkLoop
import OpenEngine.Queue.LaneLeases
import OpenEngine.Queue.LaneWorkLoop
import OpenEngine.Queue.Workers
import OpenEngine.Queue.Housekeeping
import OpenEngine.Queue.Sources
import OpenEngine.Queue.StateMachine
import OpenEngine.Queue.Reply
import OpenEngine.Queue.Counts
import OpenEngine.Core.Domain
import OpenEngine.Core.Text
import OpenEngine.Core.Encoding
import OpenEngine.Core.Wire
import OpenEngine.Core.RoundTrip
import OpenEngine.Core.Spelling
import OpenEngine.Core.SigHash
import OpenEngine.Core.Cost
import OpenEngine.Core.ExactCost
import OpenEngine.Core.Gateway
import OpenEngine.Core.Failover
import OpenEngine.Core.FailoverOrder
import OpenEngine.Core.Stickiness
import OpenEngine.Core.AlloyGateway
import OpenEngine.Core.Policy
import OpenEngine.Core.Endpoint
import OpenEngine.Core.Ethrex
import OpenEngine.Core.Numeral
import OpenEngine.Core.OutsideParty
import OpenEngine.Core.PartyUri
import OpenEngine.Compiler.Structure
import OpenEngine.Compiler.Pipeline
import OpenEngine.Compiler.SignedHash
import OpenEngine.Compiler.Reports
import OpenEngine.Compiler.Ceiling
import OpenEngine.Compiler.Grammar
import OpenEngine.Compiler.FilledGas
import OpenEngine.Compiler.PayerScan
import OpenEngine.Compiler.Respelling
import OpenEngine.Compiler.VerifyGas
import OpenEngine.Compiler.MissingSimulation
import OpenEngine.Compiler.DeclinedSimulation
import OpenEngine.Compiler.OutsideVerdicts
import OpenEngine.Api.Resubmission
import OpenEngine.Api.SlotHistory
import OpenEngine.Api.FeeBumps
import OpenEngine.Api.FeeRule
import OpenEngine.Api.PolicyStore
import OpenEngine.Api.ReserveScript
import OpenEngine.Api.WindowedBudget
import OpenEngine.Api.RateLimit
import OpenEngine.Api.SlotIdentity
import OpenEngine.Api.SpendLaw
import OpenEngine.Api.Submission
import OpenEngine.Api.SpendAccounting
import OpenEngine.Api.PublicPosture
import OpenEngine.Api.FullCharge
import OpenEngine.Api.StatusRead
import OpenEngine.Broadcaster.Worker
import OpenEngine.Broadcaster.Retries
import OpenEngine.Broadcaster.NonAnswers
import OpenEngine.Broadcaster.NonceAgreement
import OpenEngine.Broadcaster.Sends
import OpenEngine.Api.Provenance
