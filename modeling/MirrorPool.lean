import MirrorPool.Library.Balances
import MirrorPool.Library.Entropy
import MirrorPool.Library.Fallible
import MirrorPool.Library.FixedWindow
import MirrorPool.Library.Grouping
import MirrorPool.Library.Hex
import MirrorPool.Library.JsonReading
import MirrorPool.Library.JsonText
import MirrorPool.Library.Lockstep
import MirrorPool.Library.PairDescent
import MirrorPool.Library.PairTree
import MirrorPool.Library.PrefixCodec
import MirrorPool.Library.RankStatistic
import MirrorPool.Library.Runs
import MirrorPool.Library.Sessions
import MirrorPool.Library.Simulation
import MirrorPool.Library.Streams
import MirrorPool.Library.Tables
import MirrorPool.Core.Digest
import MirrorPool.Core.Digest32
import MirrorPool.Core.Policy
import MirrorPool.Core.Protocol
import MirrorPool.Core.TamperEvidence
import MirrorPool.Core.Rounds
import MirrorPool.Crypto.Ticket
import MirrorPool.Crypto.Issuance
import MirrorPool.Merkle.Cohort
import MirrorPool.Merkle.Inclusion
import MirrorPool.Merkle.Binding
import MirrorPool.Merkle.Aliases
import MirrorPool.Program.Accounts
import MirrorPool.Program.Instruction
import MirrorPool.Program.Ledger
import MirrorPool.Program.Processor
import MirrorPool.Program.HandlerRules
import MirrorPool.Program.StepRules
import MirrorPool.Program.History
import MirrorPool.Program.Rounds
import MirrorPool.Program.TableRuntime
import MirrorPool.Program.AccountBytes
import MirrorPool.Program.Lifecycle
import MirrorPool.Program.Pools
import MirrorPool.Program.OwnPool
import MirrorPool.Program.ReleaseWindow
import MirrorPool.Program.Registration
import MirrorPool.Program.PoolBytes
import MirrorPool.Program.Counting
import MirrorPool.Program.Creation
import MirrorPool.Program.Lamports
import MirrorPool.Program.ProtocolGraph
import MirrorPool.Program.Agreement
import MirrorPool.Program.Concurrency
import MirrorPool.Program.Permanence
import MirrorPool.Store.Database
import MirrorPool.Store.Operations
import MirrorPool.Store.StepRules
import MirrorPool.Store.History
import MirrorPool.Store.Isolation
import MirrorPool.Store.RoundRecords
import MirrorPool.Store.SealedCohorts
import MirrorPool.Store.AuditLog
import MirrorPool.Coordinator.Service
import MirrorPool.Coordinator.History
import MirrorPool.Coordinator.Admission
import MirrorPool.Coordinator.LateTickets
import MirrorPool.Coordinator.RateLimit
import MirrorPool.Coordinator.Http
import MirrorPool.Coordinator.HttpHistory
import MirrorPool.Coordinator.Register
import MirrorPool.Coordinator.Refusals
import MirrorPool.Client.Opening
import MirrorPool.Client.Cohort
import MirrorPool.Client.FailClosed
import MirrorPool.Client.RoundProgress
import MirrorPool.Client.Builders
import MirrorPool.Client.BuilderAgreement
import MirrorPool.Client.RoundPlans
import MirrorPool.Client.Recovery
import MirrorPool.Client.Enrollment
import MirrorPool.Actions.Policy
import MirrorPool.Actions.Templates
import MirrorPool.Actions.BuiltIn
import MirrorPool.Actions.Bounds
import MirrorPool.Actions.Fingerprints
import MirrorPool.Actions.Classification
import MirrorPool.Client.MemoExecution
import MirrorPool.Client.Submission
import MirrorPool.Simulator.Scenario
import MirrorPool.Simulator.Evaluation
import MirrorPool.Simulator.Ablation
import MirrorPool.Simulator.Dropout
import MirrorPool.Simulator.RankSymmetry
import MirrorPool.Simulator.Metrics
import MirrorPool.Simulator.WindowBounds
