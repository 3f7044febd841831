import NetOpsBench.Pingmesh.ProbeEpoch
import NetOpsBench.ClientAgent.Loading
import NetOpsBench.ClientAgent.Validation
import NetOpsBench.Pingmesh.ConfirmedMtu
import NetOpsBench.Pingmesh.ProbeSends
import NetOpsBench.Faults.Transaction
import NetOpsBench.Faults.System
import NetOpsBench.Faults.LinkInjection
import NetOpsBench.Faults.LinkTransaction
import NetOpsBench.Faults.LinkSteps
import NetOpsBench.Faults.Link
import NetOpsBench.Lib.Program
import NetOpsBench.Lib.Text
import NetOpsBench.Faults.Services
import NetOpsBench.Pingmesh.AgentLog
import NetOpsBench.Pingmesh.IngestionAudit
import NetOpsBench.Pingmesh.IngestionComplete
import NetOpsBench.Lib.Sorting
import NetOpsBench.Pingmesh.CoverageEpoch
import NetOpsBench.Pingmesh.CoverageAgreement
import NetOpsBench.Pingmesh.ProbeEmission
import NetOpsBench.Pingmesh.ProbeLoop
import NetOpsBench.ClientAgent.Config
import NetOpsBench.Pingmesh.IngestionSound
import NetOpsBench.Pingmesh.IngestionFrames
import NetOpsBench.Pingmesh.Expectations
import NetOpsBench.Pingmesh.Ingestion
import NetOpsBench.Pingmesh.Rows
import NetOpsBench.Pingmesh.Coverage
import NetOpsBench.Lib.Dict
import NetOpsBench.Pingmesh.ProbeLedger
import NetOpsBench.Pingmesh.ProbeConservation
import NetOpsBench.Lib.BigEndian
import NetOpsBench.Pingmesh.ProbeCycle
import NetOpsBench.Lib.Binary64
import NetOpsBench.Pingmesh.PlannerFrames
import NetOpsBench.Pingmesh.PlannerPeers
import NetOpsBench.Pingmesh.Planner
import NetOpsBench.Lib.Batches
import NetOpsBench.Lib.Pairs
import NetOpsBench.Models.Pingmesh
import NetOpsBench.Models.Topology
import NetOpsBench.Lib.Fallible
import NetOpsBench.Lib.Json
import NetOpsBench.Lib.Sha256
import NetOpsBench.Incident.Engine
import NetOpsBench.Incident.Lifecycle
import NetOpsBench.Simulator.Runtime
import NetOpsBench.Simulator.Leasing
import NetOpsBench.Lib.SerdeJson
import NetOpsBench.Traffic.Plan
import NetOpsBench.ClientAgent.TrafficPlan
import NetOpsBench.ClientAgent.TrafficRuntime
import NetOpsBench.ClientAgent.TrafficInvariant
import NetOpsBench.Traffic.Digest
import NetOpsBench.Traffic.Control
import NetOpsBench.Traffic.Exchange
import NetOpsBench.Traffic.Generations
import NetOpsBench.Traffic.Heartbeat
import NetOpsBench.Models.Runtime
import NetOpsBench.Session.Dispatch
import NetOpsBench.Session.Accounting
import NetOpsBench.Session.Acceptance
import NetOpsBench.Session.Campaigns
import NetOpsBench.Scenario.Baseline
import NetOpsBench.Scenario.Cleanup
import NetOpsBench.Lib.History
import NetOpsBench.Scenario.Executor
import NetOpsBench.Scenario.Handoff
import NetOpsBench.Observability.BgpCollector
import NetOpsBench.Observability.TransitionChain
import NetOpsBench.Observability.BgpSpool
import NetOpsBench.Observability.BgpLog
import NetOpsBench.Observability.BgpDrain
import NetOpsBench.Runtime.Manager
import NetOpsBench.Runtime.Soundness
import NetOpsBench.Runtime.Calls
import NetOpsBench.Runtime.Teardown
import NetOpsBench.Runtime.Runs
import NetOpsBench.Runtime.Labs
import NetOpsBench.Runtime.Buckets
import NetOpsBench.Runtime.Effects
import NetOpsBench.Runtime.Quarantine
import NetOpsBench.Runtime.Custody
import NetOpsBench.Runtime.CustodyRuns
import NetOpsBench.Pingmesh.Duplicates
import NetOpsBench.ClientAgent.TrafficVacancy
import NetOpsBench.Lib.TokenBucket
import NetOpsBench.ClientAgent.Pacing
import NetOpsBench.ClientAgent.Bandwidth
import NetOpsBench.Simulator.Service
import NetOpsBench.Simulator.Slots
import NetOpsBench.Simulator.SlotMoves
import NetOpsBench.Simulator.SlotRuns
import NetOpsBench.Lib.Grouping
import NetOpsBench.Pingmesh.Analysis
import NetOpsBench.Pingmesh.AbsoluteHealth
import NetOpsBench.Pingmesh.AnalysisOrder
import NetOpsBench.Lib.Alike
import NetOpsBench.Pingmesh.IngestionOrder
import NetOpsBench.Lib.Scan
import NetOpsBench.Utils.InterfaceNames
import NetOpsBench.Lib.Rounding
import NetOpsBench.Lib.Ranking
import NetOpsBench.Evaluator.FaultTypeJudge
import NetOpsBench.Evaluator.Scorer
import NetOpsBench.Incident.Scoring
import NetOpsBench.Evaluator.Report
import NetOpsBench.Evaluator.DetectionF1
import NetOpsBench.Incident.Limits
import NetOpsBench.Pingmesh.Windows
import NetOpsBench.Incident.Payloads
import NetOpsBench.Faults.LinkRecovery
import NetOpsBench.Faults.ResidualRecovery
import NetOpsBench.Lib.BreadthFirst
import NetOpsBench.Faults.Catalog
import NetOpsBench.Scenario.Candidates
import NetOpsBench.Scenario.Placement
import NetOpsBench.Scenario.Controls
import NetOpsBench.Pingmesh.PathWalk
import NetOpsBench.Pingmesh.PathCoverage
import NetOpsBench.Traffic.Estimator
import NetOpsBench.Traffic.FlowPlanner
import NetOpsBench.Traffic.Admission
import NetOpsBench.Traffic.PlannerRuns
import NetOpsBench.Scenario.HandoffRuns
import NetOpsBench.Faults.Registry
import NetOpsBench.Observability.Routes
import NetOpsBench.Observability.SpoolBounds
import NetOpsBench.Scenario.CleanupEvidence
import NetOpsBench.Runtime.LabRemoval
import NetOpsBench.Pingmesh.CoverageRows
import NetOpsBench.Scenario.ScopedIntegrity
import NetOpsBench.Faults.Periodic
import NetOpsBench.Scenario.OutageEvidence
import NetOpsBench.Lib.Words
import NetOpsBench.Lib.FirstMatch
import NetOpsBench.Utils.FrrConfig
import NetOpsBench.Faults.FrrShell
import NetOpsBench.Faults.PrefixPolicy
import NetOpsBench.Faults.ShownTerms
import NetOpsBench.Faults.PolicyCommands
import NetOpsBench.Faults.PolicyPlans
import NetOpsBench.Faults.ScopedPolicy
import NetOpsBench.Observability.SegmentTags
import NetOpsBench.Observability.SegmentDeletion
import NetOpsBench.Lib.CyclicRuns
import NetOpsBench.Pingmesh.BoundaryPadding
import NetOpsBench.Lib.Patterns
import NetOpsBench.Toolkit.RouteParsers
import NetOpsBench.Toolkit.RouteAttribution
import NetOpsBench.Lib.Ipv4Networks
import NetOpsBench.Lib.DictEntries
import NetOpsBench.Topology.Planning
import NetOpsBench.Topology.ClosBuilder
import NetOpsBench.Topology.FatTreeBuilder
import NetOpsBench.Topology.Renderer
import NetOpsBench.Topology.FrrRoundTrip
import NetOpsBench.Topology.ConfigDbRoundTrip
import NetOpsBench.Topology.PlannedAddresses
import NetOpsBench.Topology.ClosDevices
import NetOpsBench.Topology.FatTreeDevices
import NetOpsBench.Topology.Cabling
import NetOpsBench.Topology.ClosCabling
import NetOpsBench.Topology.FatTreeCabling
import NetOpsBench.Topology.FatTreeWiring
import NetOpsBench.Topology.Identities
import NetOpsBench.Topology.Artifacts
import NetOpsBench.Topology.WellFormed
import NetOpsBench.Faults.CommandRunner
import NetOpsBench.Faults.UndoJournal
import NetOpsBench.Faults.UndoRuns
import NetOpsBench.Pingmesh.Copies
import NetOpsBench.Pingmesh.Tolerance
import NetOpsBench.Lib.Matching
import NetOpsBench.Faults.InterfaceMtu
import NetOpsBench.Faults.Impairment
import NetOpsBench.Faults.StaticRoutes
import NetOpsBench.Faults.VerifiedInjection
import NetOpsBench.Faults.MtuInjection
import NetOpsBench.Faults.ImpairmentRuns
