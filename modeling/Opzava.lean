import Opzava.Library.OrderedMap
import Opzava.Library.Patterns
import Opzava.Library.JavaScript
import Opzava.Library.Savepoint
import Opzava.Library.DepthFirst
import Opzava.Library.RecursiveSearch
import Opzava.Library.RecursiveQuery
import Opzava.Library.RankedList
import Opzava.Library.Sha256
import Opzava.Library.Versioned
import Opzava.Library.Table
import Opzava.Library.KeyedInsert
import Opzava.Library.ReadCommitted
import Opzava.Library.EventMachine
import Opzava.Library.Objects
import Opzava.Library.Texts
import Opzava.Library.Utf8
import Opzava.Library.Json
import Opzava.Library.Numerals
import Opzava.Library.JsonFields
import Opzava.Library.KeyOrder
import Opzava.Library.MergePatch
import Opzava.Library.Base64
import Opzava.DevBoard.Domain
import Opzava.DevBoard.Rows
import Opzava.DevBoard.Store
import Opzava.DevBoard.Receipts
import Opzava.DevBoard.Commands.Basic
import Opzava.DevBoard.Commands.Proposals
import Opzava.DevBoard.Commands.Tickets
import Opzava.DevBoard.Commands.Queue
import Opzava.DevBoard.Commands.Dependencies
import Opzava.DevBoard.Commands.Legacy
import Opzava.DevBoard.Commands.Run
import Opzava.DevBoard.Effects
import Opzava.DevBoard.Specs
import Opzava.DevBoard.Bodies
import Opzava.DevBoard.Calls
import Opzava.DevBoard.Runs
import Opzava.DevBoard.Changes
import Opzava.DevBoard.TodoQueue
import Opzava.DevBoard.Coherence
import Opzava.DevBoard.DependencyGraph
import Opzava.DevBoard.CycleTest
import Opzava.DevBoard.CanonicalJson
import Opzava.DevBoard.RiskApproval
import Opzava.DevBoard.TodoOrder
import Opzava.DevBoard.TodoRanks
import Opzava.DevBoard.TodoCapacity
import Opzava.DevBoard.TenantFrame
import Opzava.DevBoard.Idempotency
import Opzava.DevBoard.ArchiveFreeze
import Opzava.DevBoard.ProposalLifecycle
import Opzava.DevBoard.LegacyImport
import Opzava.DevBoard.Versions
import Opzava.ProjectManagement.Outbox
import Opzava.ProjectManagement.OutboxProtocol
import Opzava.ProjectManagement.Tasks
import Opzava.ProjectManagement.Issues
import Opzava.ProjectManagement.IssueCreation
import Opzava.ProjectManagement.IssueProjections
import Opzava.ProjectManagement.TaskDoneClose
import Opzava.ProjectManagement.DoneAdmission
import Opzava.ProjectManagement.CloseIntent
import Opzava.ProjectManagement.ReviewRace
import Opzava.ProjectManagement.IdempotentCreates
import Opzava.RuntimeControl.AssistantTurns
import Opzava.RuntimeControl.TurnMachine
import Opzava.RuntimeControl.TurnReplay
import Opzava.RuntimeControl.TaskTools
import Opzava.RuntimeControl.TaskUpdateRace
import Opzava.GatewayBroker.ConnectionManager
import Opzava.GatewayBroker.Protocol
import Opzava.GatewayBroker.Streams
import Opzava.GatewayBroker.OperatorClient
import Opzava.GatewayBroker.Correlation
import Opzava.GatewayBroker.StreamEvents
import Opzava.GatewayBroker.StreamCalls
import Opzava.GatewayBroker.StreamRegistry
import Opzava.GatewayBroker.StreamTexts
import Opzava.GatewayBroker.Ownership
import Opzava.GatewayBroker.EventStream
import Opzava.GatewayBroker.FailureTexts
import Opzava.GatewayBroker.FailureEvents
import Opzava.GatewayBroker.AuditGates
import Opzava.Adapters.TenantContext
import Opzava.Adapters.ScheduledJobs
import Opzava.Adapters.ScheduledJobTable
import Opzava.Adapters.SecretsVault
import Opzava.Adapters.DoctorScans
import Opzava.IdentityAccess.LinkTokens
import Opzava.IdentityAccess.LinkTokenRuns
import Opzava.Provisioning.Values
import Opzava.Provisioning.GitHubFlows
import Opzava.Provisioning.ConfigPatches
import Opzava.Provisioning.SetupTokenFlow
import Opzava.Provisioning.SetupTokenRuns
import Opzava.Provisioning.SetupTokenLaws
import Opzava.Provisioning.SetupTokenWrites
import Opzava.Provisioning.DeviceFlow
import Opzava.Provisioning.DeviceFlowRuns
import Opzava.Provisioning.DeviceFlowVerdicts
import Opzava.Provisioning.OrchestratorConfig
import Opzava.Provisioning.ElectionRun
import Opzava.Provisioning.ProviderWrites
import Opzava.Provisioning.ProviderWriteRuns
import Opzava.Provisioning.OrchestratorQueue
import Opzava.Provisioning.MainElections
import Opzava.Provisioning.ModelRegistry
import Opzava.Provisioning.ConfigFrames
import Opzava.Provisioning.ForeignConfig
import Opzava.Library.DirectoryScript
import Opzava.Provisioning.InteractiveLogins
import Opzava.Provisioning.VerifiedStop
import Opzava.Provisioning.DockerFrames
import Opzava.Provisioning.PluginDiscovery
import Opzava.Provisioning.SetupTokenLogs
import Opzava.Provisioning.StableTokens
import Opzava.Library.Lockout
import Opzava.IdentityAccess.AttemptLimits
import Opzava.IdentityAccess.GuessBounds
import Opzava.Provisioning.AuthProfiles
import Opzava.Provisioning.ProviderModels
import Opzava.Provisioning.ProviderConnections
import Opzava.Provisioning.Disconnects
import Opzava.Provisioning.SiblingCredentials
import Opzava.Provisioning.OrchestratorSelection
import Opzava.Provisioning.DerivedRefs
import Opzava.Provisioning.RebuiltOrchestrator
import Opzava.Library.HashedStore
import Opzava.Provisioning.ModelToggles
import Opzava.GatewayBroker.QueueReaders
import Opzava.Library.BitGroups
import Opzava.IdentityAccess.Base32
import Opzava.Library.ShellWords
import Opzava.Provisioning.ShellQuoting
import Opzava.Library.MapUpdates
import Opzava.IdentityAccess.ResetLimiter
import Opzava.IdentityAccess.PasskeyCeremonies
import Opzava.IdentityAccess.PasskeyBounds
import Opzava.RuntimeControl.ToolArguments
import Opzava.RuntimeControl.SanitizedArguments
