import SecScanMonitor.Application.ApprovalGate
import SecScanMonitor.Application.AssessmentReconstruction
import SecScanMonitor.Application.Authorization
import SecScanMonitor.Application.Dispatch
import SecScanMonitor.Application.DispatchProtocol
import SecScanMonitor.Application.EngagementFailures
import SecScanMonitor.Application.EngagementHistory
import SecScanMonitor.Application.EngagementService
import SecScanMonitor.Application.EvidenceRedaction
import SecScanMonitor.Application.EvidenceService
import SecScanMonitor.Application.FindingIdentity
import SecScanMonitor.Application.HuntRecovery
import SecScanMonitor.Application.IncidentProvenance
import SecScanMonitor.Application.InspectionFirmRunner
import SecScanMonitor.Application.LiveIncidentControlPlane
import SecScanMonitor.Application.LiveIngest
import SecScanMonitor.Application.Mirror
import SecScanMonitor.Application.ProposalReplay
import SecScanMonitor.Application.Replay
import SecScanMonitor.Application.RepositorySnapshot
import SecScanMonitor.Application.SourceIngest
import SecScanMonitor.Application.SupplyChainSecurity
import SecScanMonitor.Audit.Sinks
import SecScanMonitor.Capabilities.RedactedResults
import SecScanMonitor.Capabilities.ScannerAdapters
import SecScanMonitor.Capabilities.ScannerExecution
import SecScanMonitor.Capabilities.ScannerRedaction
import SecScanMonitor.Capabilities.ScannerResults
import SecScanMonitor.Capabilities.ScannerSecrets
import SecScanMonitor.Capabilities.ScannerTotality
import SecScanMonitor.Console.ExperienceContracts
import SecScanMonitor.Console.LiveProjection
import SecScanMonitor.ContinuousSecurity.AttackPaths
import SecScanMonitor.ContinuousSecurity.EventLaws
import SecScanMonitor.ContinuousSecurity.EventPlane
import SecScanMonitor.ContinuousSecurity.Events
import SecScanMonitor.ContinuousSecurity.Gateway
import SecScanMonitor.ContinuousSecurity.GatewayProtocol
import SecScanMonitor.ContinuousSecurity.Graph
import SecScanMonitor.ContinuousSecurity.GraphReplay
import SecScanMonitor.ContinuousSecurity.Ingestion
import SecScanMonitor.ContinuousSecurity.Noninterference
import SecScanMonitor.ContinuousSecurity.Normalize
import SecScanMonitor.ContinuousSecurity.Patrol
import SecScanMonitor.ContinuousSecurity.PatrolCompleteness
import SecScanMonitor.ContinuousSecurity.PatrolDigest
import SecScanMonitor.ContinuousSecurity.PatrolIdentity
import SecScanMonitor.ContinuousSecurity.PatrolRuns
import SecScanMonitor.ContinuousSecurity.PatrolWrites
import SecScanMonitor.ContinuousSecurity.Runner
import SecScanMonitor.ContinuousSecurity.RunnerProtocol
import SecScanMonitor.ContinuousSecurity.RunnerReports
import SecScanMonitor.DetectionResponse.Adjudication
import SecScanMonitor.DetectionResponse.AdjudicationProtocol
import SecScanMonitor.DetectionResponse.AdjudicationRecords
import SecScanMonitor.DetectionResponse.Binding
import SecScanMonitor.DetectionResponse.BindingHistory
import SecScanMonitor.DetectionResponse.CountRuns
import SecScanMonitor.DetectionResponse.Detections
import SecScanMonitor.DetectionResponse.Domain
import SecScanMonitor.DetectionResponse.Emission
import SecScanMonitor.DetectionResponse.Growth
import SecScanMonitor.DetectionResponse.HuntFailures
import SecScanMonitor.DetectionResponse.HuntRecords
import SecScanMonitor.DetectionResponse.Hunting
import SecScanMonitor.DetectionResponse.Incremental
import SecScanMonitor.DetectionResponse.Isolation
import SecScanMonitor.DetectionResponse.Matching
import SecScanMonitor.DetectionResponse.Perform
import SecScanMonitor.DetectionResponse.ProposalLifecycle
import SecScanMonitor.DetectionResponse.Records
import SecScanMonitor.DetectionResponse.ResponseProposals
import SecScanMonitor.DetectionResponse.RunHistory
import SecScanMonitor.DetectionResponse.Sharing
import SecScanMonitor.DetectionResponse.Sigma
import SecScanMonitor.DetectionResponse.SigmaEngine
import SecScanMonitor.DetectionResponse.SigmaFailures
import SecScanMonitor.Domain.Atomicity
import SecScanMonitor.Domain.Lifecycle
import SecScanMonitor.Foundations.Cuts
import SecScanMonitor.Foundations.Dict
import SecScanMonitor.Foundations.Gaps
import SecScanMonitor.Foundations.History
import SecScanMonitor.Foundations.Joined
import SecScanMonitor.Foundations.Journal
import SecScanMonitor.Foundations.Lease
import SecScanMonitor.Foundations.Members
import SecScanMonitor.Foundations.Parts
import SecScanMonitor.Foundations.Paths
import SecScanMonitor.Foundations.Splice
import SecScanMonitor.Foundations.Views
import SecScanMonitor.Persistence.ApprovalLedger
import SecScanMonitor.Persistence.DetectionLedger
import SecScanMonitor.Persistence.DetectionOutputs
import SecScanMonitor.Persistence.GraphHistory
import SecScanMonitor.Persistence.HuntProtocol
import SecScanMonitor.Persistence.HuntStability
import SecScanMonitor.Persistence.Hunts
import SecScanMonitor.Persistence.Models
import SecScanMonitor.Persistence.ResponseApprovals
import SecScanMonitor.Persistence.RuleRegistry
import SecScanMonitor.Persistence.RuleReimport
import SecScanMonitor.Persistence.SecurityGraph
import SecScanMonitor.Persistence.SignalTrust
import SecScanMonitor.Persistence.WorkLease
import SecScanMonitor.Persistence.WorkProtocol
import SecScanMonitor.Persistence.WorkQueue
import SecScanMonitor.Policy.DeterministicAdapter
import SecScanMonitor.ReadModels.Experience
import SecScanMonitor.ReadModels.LiveOverlay
import SecScanMonitor.ReadModels.WireContract
import SecScanMonitor.Sanitize.Filters
import SecScanMonitor.Sanitize.JsonText
import SecScanMonitor.Sanitize.Spill
import SecScanMonitor.Workflows.ApprovalSignals
import SecScanMonitor.Workflows.RenderedReport
import SecScanMonitor.Workflows.Repetition
import SecScanMonitor.Hosted.CaseAuthorization
import SecScanMonitor.Hosted.CaseHistory
import SecScanMonitor.Hosted.CaseReplay
import SecScanMonitor.Hosted.InspectionStart
import SecScanMonitor.Application.FeedFailures
import SecScanMonitor.Application.HuntRequest
import SecScanMonitor.Application.WorkflowPermissions
import SecScanMonitor.Console.SafeDisplay
import SecScanMonitor.Persistence.PolicyAgreement
import SecScanMonitor.DetectionResponse.SignalWindow
import SecScanMonitor.Foundations.Base64
import SecScanMonitor.Foundations.Numerals
import SecScanMonitor.Foundations.StableSort
import SecScanMonitor.Foundations.Trimming
import SecScanMonitor.ReadModels.CanonicalReads
import SecScanMonitor.ReadModels.SnapshotCounts
import SecScanMonitor.Release.BuildSbom
import SecScanMonitor.Release.SbomCompleteness
import SecScanMonitor.Application.AttackSurface
import SecScanMonitor.Application.PersistedPlans
import SecScanMonitor.Sandbox.Containers
import SecScanMonitor.Evidence.PrivateBlobs
import SecScanMonitor.Persistence.SideEffectLedger
import SecScanMonitor.Application.ApplicationSecurity
