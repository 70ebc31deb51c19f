import NodeBootstrap.Cluster.Memory
import NodeBootstrap.Cluster.Script
import NodeBootstrap.Main
import NodeBootstrap.Member.Decoding
import NodeBootstrap.Tls.Files
import NodeBootstrap.Proofs.Bootstrap.Attempts
import NodeBootstrap.Proofs.Bootstrap.Discovery
import NodeBootstrap.Proofs.Bootstrap.SyncGate
import NodeBootstrap.Proofs.Bootstrap.Phases
import NodeBootstrap.Proofs.Cluster.OwnEntry
import NodeBootstrap.Proofs.Http.Failover
import NodeBootstrap.Proofs.Cluster.ConcurrentRegistration
import NodeBootstrap.Proofs.Cluster.StaleSnapshot
import NodeBootstrap.Proofs.Http.Redirects
import NodeBootstrap.Proofs.Bootstrap.Agreement
import NodeBootstrap.Proofs.Cluster.Origination
import NodeBootstrap.Proofs.Http.CallErrors
import NodeBootstrap.Proofs.Http.Outages
import NodeBootstrap.Proofs.Bootstrap.OwnEvents
import NodeBootstrap.Proofs.Bootstrap.FailureReports
import NodeBootstrap.Proofs.Bootstrap.Cost
import NodeBootstrap.Proofs.Http.Ceiling
import NodeBootstrap.Proofs.Text.Utf8
import NodeBootstrap.Proofs.Json.Grammar
import NodeBootstrap.Proofs.Json.Scanning
import NodeBootstrap.Proofs.Json.Reading
import NodeBootstrap.Proofs.Json.Printing
import NodeBootstrap.Proofs.Json.Skipping
import NodeBootstrap.Proofs.Settings.Merging
import NodeBootstrap.Proofs.Settings.Environment
import NodeBootstrap.Proofs.Config.Documents
import NodeBootstrap.Proofs.Config.Loading
import NodeBootstrap.Proofs.Engine.CommandLine
import NodeBootstrap.Proofs.Text.Lowercase
import NodeBootstrap.Proofs.Cluster.DirectiveText
import NodeBootstrap.Proofs.Config.Identity
import NodeBootstrap.Proofs.Config.Acceptance
import NodeBootstrap.Proofs.Member.Layout
import NodeBootstrap.Proofs.Member.Posting
import NodeBootstrap.Proofs.Config.Columns
import NodeBootstrap.Proofs.Config.Overrides
import NodeBootstrap.Proofs.Config.MachineOverrides
import NodeBootstrap.Proofs.Results
import NodeBootstrap.Proofs.Decimal.Digits
import NodeBootstrap.Proofs.Config.NodeNames
import NodeBootstrap.Proofs.Log.Lines
import NodeBootstrap.Proofs.Bootstrap.DiscoveryLog
import NodeBootstrap.Proofs.Os.FileTree
import NodeBootstrap.Proofs.Engine.PidFile
import NodeBootstrap.Proofs.Url.Domain
