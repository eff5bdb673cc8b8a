import HotAirBalloon.Python.Value
import HotAirBalloon.Python.Text
import HotAirBalloon.Python.Uuid
import HotAirBalloon.Kernel.ResponseEvidence
import HotAirBalloon.User.Authorization
import HotAirBalloon.Gateway.Domain
import HotAirBalloon.Gateway.Invoke
import HotAirBalloon.Gateway.Gating
import HotAirBalloon.Library.Regex
import HotAirBalloon.Python.Re
import HotAirBalloon.Python.Interpreter
import HotAirBalloon.Agent.DeterministicIntent
import HotAirBalloon.Agent.SemanticValidation
import HotAirBalloon.Agent.State
import HotAirBalloon.Agent.Workflow
import HotAirBalloon.Agent.Visits
import HotAirBalloon.Agent.Budget
import HotAirBalloon.Agent.Steering
import HotAirBalloon.Python.Json
import HotAirBalloon.Evidence.Snapshot
import HotAirBalloon.Evidence.RoundTrip
import HotAirBalloon.Python.DateTime
import HotAirBalloon.Gateway.Worlds
import HotAirBalloon.Operations.Repository
import HotAirBalloon.Operations.ResultAdapters
import HotAirBalloon.Operations.SiteIsolation
import HotAirBalloon.Library.Table
import HotAirBalloon.Library.Resumption
import HotAirBalloon.Library.ReadCommitted
import HotAirBalloon.Memory.Tables
import HotAirBalloon.Memory.Statements
import HotAirBalloon.Memory.ConversationStore
import HotAirBalloon.Memory.LongTerm
import HotAirBalloon.Memory.Effects
import HotAirBalloon.Memory.Calls
import HotAirBalloon.Memory.Ownership
import HotAirBalloon.Memory.Isolation
import HotAirBalloon.Memory.OwnershipChecks
import HotAirBalloon.Operations.ChangeStatus
import HotAirBalloon.Operations.StatusChanges
import HotAirBalloon.Library.SoloRun
import HotAirBalloon.Memory.Alone
import HotAirBalloon.Memory.Erasure
import HotAirBalloon.Memory.CandidateKey
import HotAirBalloon.Documents.Ingestion
import HotAirBalloon.Documents.ChunksOnce
import HotAirBalloon.Documents.Batches
import HotAirBalloon.Memory.Locking
import HotAirBalloon.Memory.UserFacts
import HotAirBalloon.Context.Assembly
import HotAirBalloon.Context.RecallScope
import HotAirBalloon.Agent.ResponseComposer
import HotAirBalloon.Agent.Answers
import HotAirBalloon.Agent.Grounding
import HotAirBalloon.Memory.InMemory
import HotAirBalloon.Memory.StoreRelation
import HotAirBalloon.Memory.StoreRefinement
import HotAirBalloon.Gateway.Stages
import HotAirBalloon.Gateway.Wiring
import HotAirBalloon.Gateway.Runtime
import HotAirBalloon.Gateway.Lockstep
import HotAirBalloon.Library.Unwinding
import HotAirBalloon.Gateway.RateLimit
import HotAirBalloon.Gateway.AuditCommit
import HotAirBalloon.Operations.WriteWorkOrderStatus
import HotAirBalloon.Operations.WriteScope
import HotAirBalloon.Gateway.WebSearch
import HotAirBalloon.Operations.WriteReport
import HotAirBalloon.Library.FixedWidth
import HotAirBalloon.Python.DateTimeOrder
import HotAirBalloon.Operations.ReadAdapters
import HotAirBalloon.Python.JsonSize
import HotAirBalloon.Evidence.Size
import HotAirBalloon.Memory.ExchangeAlone
import HotAirBalloon.Agent.CompletedExchange
import HotAirBalloon.Library.Embedding
import HotAirBalloon.Memory.FactPolicy
import HotAirBalloon.Memory.Consolidation
import HotAirBalloon.Memory.TurnHistory
import HotAirBalloon.Memory.Reconsolidation
import HotAirBalloon.Library.AnchoredWindows
import HotAirBalloon.Gateway.RateBounds
import HotAirBalloon.Memory.SyncFailures
import HotAirBalloon.User.Registration
import HotAirBalloon.User.ConsistencyAudit
import HotAirBalloon.Library.Bracketing
import HotAirBalloon.Application.Container
import HotAirBalloon.Documents.Outbox
import HotAirBalloon.Documents.OutboxDelivery
import HotAirBalloon.Documents.Upload
import HotAirBalloon.Library.RegexLanguage
import HotAirBalloon.Python.LetterCase
import HotAirBalloon.Agent.QueryParsers
import HotAirBalloon.Agent.Codes
import HotAirBalloon.Operations.ResolvedCalls
import HotAirBalloon.Operations.AllowedWrites
import HotAirBalloon.Operations.AmbiguousWrites
import HotAirBalloon.Operations.ExecutableWrites
import HotAirBalloon.Gateway.RetryAfter
import HotAirBalloon.Operations.StatusPermissions
import HotAirBalloon.Operations.NamedOrders
import HotAirBalloon.Memory.ShortTermRetention
import HotAirBalloon.Memory.EvidenceRetention
import HotAirBalloon.Memory.MemoryRetention
import HotAirBalloon.Library.Squeeze
import HotAirBalloon.Library.RegexSpacing
import HotAirBalloon.Python.Spacing
import HotAirBalloon.Memory.FactSpacing
import HotAirBalloon.Memory.PromotionLifetime
import HotAirBalloon.Memory.DialogueOrder
import HotAirBalloon.Memory.ConversationCounters
import HotAirBalloon.Memory.RetentionRace
import HotAirBalloon.Library.FirstFit
import HotAirBalloon.Library.Traverse
import HotAirBalloon.Library.StableSort
import HotAirBalloon.Context.Budget
import HotAirBalloon.Context.Assembler
import HotAirBalloon.Context.RenderedBudget
import HotAirBalloon.Context.KindShares
import HotAirBalloon.Context.TurnOrder
import HotAirBalloon.Context.SpecialTokens
import HotAirBalloon.Operations.RawEvidence
import HotAirBalloon.Agent.CollectionAnswers
import HotAirBalloon.Agent.ReferenceResolution
import HotAirBalloon.User.AuditAdapter
import HotAirBalloon.Evidence.FixedPoint
import HotAirBalloon.Library.Utf8
import HotAirBalloon.Documents.ChunkPieces
import HotAirBalloon.Library.OverlappingWindows
import HotAirBalloon.Documents.ChunkWindows
import HotAirBalloon.Agent.WorkingSet
import HotAirBalloon.Memory.VectorSteps
import HotAirBalloon.Memory.ReconciliationRace
import HotAirBalloon.Memory.MirrorRows
import HotAirBalloon.Memory.ConsolidationRuns
import HotAirBalloon.Memory.ConsolidationRounds
import HotAirBalloon.Memory.AllOrNothing
import HotAirBalloon.Agent.GuardedRuns
import HotAirBalloon.Agent.RelatedRuns
import HotAirBalloon.Library.Ports
import HotAirBalloon.Agent.ReferencePolicy
import HotAirBalloon.Agent.Queries
import HotAirBalloon.Agent.FollowUps
import HotAirBalloon.Agent.Assistant
import HotAirBalloon.Agent.OwnHistory
import HotAirBalloon.Agent.BrainViews
import HotAirBalloon.Documents.Pipeline
import HotAirBalloon.Documents.PipelineInvariant
import HotAirBalloon.Documents.PipelinePublishers
import HotAirBalloon.Documents.PipelineRounds
import HotAirBalloon.Documents.PipelineRuns
