import Estafeta.Lib.Prog
import Estafeta.Lib.Pool
import Estafeta.Lib.History
import Estafeta.Lib.Unwinding
import Estafeta.Lib.Table
import Estafeta.Lib.Snapshot
import Estafeta.Json
import Estafeta.Messages
import Estafeta.Db.Tables
import Estafeta.Db.Notifications
import Estafeta.Db.Preferences
import Estafeta.Db.Registry
import Estafeta.World
import Estafeta.Lifecycle.StateMachine
import Estafeta.Processing.PreferenceResolver
import Estafeta.Processing.SchemaValidator
import Estafeta.Processing.Processor
import Estafeta.Lifecycle.Scheduler
import Estafeta.Auth.Keto
import Estafeta.Grpc.Notifications
import Estafeta.Grpc.Admin
import Estafeta.Grpc.SchemaRegistry
import Estafeta.Grpc.UserConfig
import Estafeta.System
import Estafeta.Statements
import Estafeta.Registrations
import Estafeta.Phases
import Estafeta.Handlers
import Estafeta.Behaviour
import Estafeta.Histories
import Estafeta.Loading
import Estafeta.Caching
import Estafeta.Refinement
import Estafeta.Escalation
import Estafeta.EscalationCount
import Estafeta.Producers
import Estafeta.Delivery
import Estafeta.Rows
import Estafeta.Timestamps
import Estafeta.Ingestion
import Estafeta.Queue
import Estafeta.Interference
import Estafeta.CacheKeys
import Estafeta.Invalidation
import Estafeta.Fidelity
import Estafeta.Lib.Subjects
import Estafeta.Grpc.Streaming
import Estafeta.Streams
import Estafeta.Snapshots
import Estafeta.Staleness
import Estafeta.Ownership
import Estafeta.Authorization
import Estafeta.Isolation
import Estafeta.Suppression
import Estafeta.Hierarchy
import Estafeta.Requests
import Estafeta.Pages
import Estafeta.Badges
import Estafeta.Walks
import Estafeta.TypeRegistry
import Estafeta.ValidSchemas
import Estafeta.Lib.Content
import Estafeta.PreferenceStore
import Estafeta.PolicyBounds
import Estafeta.Filters
import Estafeta.Mirroring
import Estafeta.Lib.Refresh
import Estafeta.Auth.Jwks
import Estafeta.KeyRotation
import Estafeta.Structs
import Estafeta.MuteRules
import Estafeta.Deadlines
import Estafeta.Lib.Drain
import Estafeta.Sweeps
import Estafeta.Tokens
import Estafeta.Lib.Paging
import Estafeta.TypeWalks
import Estafeta.ListFilters
import Estafeta.PassRecords
import Estafeta.EscalationErrors
import Estafeta.Arming
import Estafeta.SingleScheduler
import Estafeta.EscalationLimits
import Estafeta.ActiveRules
import Estafeta.BulkOperations
import Estafeta.ServiceCounts
import Estafeta.Bumps
import Estafeta.Relays
import Estafeta.TtlOverrides
import Estafeta.Lib.Sequence
import Estafeta.Batches
import Estafeta.Footprints
import Estafeta.Lib.Linear
import Estafeta.Linearizability
import Estafeta.Provenance
import Estafeta.References
import Estafeta.Lib.Rely
import Estafeta.Completion
import Estafeta.Freshness
import Estafeta.Lib.Gate
import Estafeta.Auth.Interceptor
import Estafeta.Authentication
import Estafeta.Lib.Linearization
import Estafeta.Catalogue
import Estafeta.Lib.Lossy
import Estafeta.Feed
import Estafeta.Inbox
import Estafeta.Profiles
