import ClusterHarness.InProcess.Move
import ClusterHarness.InProcess.Services
import ClusterHarness.Scenario.Script
import ClusterHarness.Settings.Load
import ClusterHarness.Proofs.Cluster.History
import ClusterHarness.Proofs.Compute.Delivery
import ClusterHarness.Proofs.Config.Defaults
import ClusterHarness.Proofs.Config.Lossless
import ClusterHarness.Proofs.InProcess.Abandoned
import ClusterHarness.Proofs.InProcess.Stranded
import ClusterHarness.Proofs.InProcess.Succession
import ClusterHarness.Proofs.InProcess.FirstStart
import ClusterHarness.Proofs.InProcess.Rounds
import ClusterHarness.Proofs.InProcess.Conclusion
import ClusterHarness.Proofs.InProcess.Verdict
import ClusterHarness.Proofs.Render.Conforming
import ClusterHarness.Proofs.InProcess.RenderedFiles
import ClusterHarness.Proofs.Scenario.Duration
import ClusterHarness.Proofs.Scenario.Protocol
import ClusterHarness.Proofs.Settings.Precedence
import ClusterHarness.Proofs.Scenario.Decision
import ClusterHarness.Proofs.Config.Validity
import ClusterHarness.Proofs.InProcess.Patience
import ClusterHarness.Proofs.InProcess.RenderedMembers
import ClusterHarness.Proofs.Application.Submission
import ClusterHarness.Proofs.Cluster.RoundRobin
import ClusterHarness.Proofs.Config.Overrides
import ClusterHarness.Proofs.InProcess.Admission
import ClusterHarness.Proofs.Compute.Unwrapping
import ClusterHarness.Proofs.Config.Lookup
