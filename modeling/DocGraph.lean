import DocGraph.CommandLine.Logging
import DocGraph.Config
import DocGraph.Git
import DocGraph.Main
import DocGraph.Proofs.Block.Extraction
import DocGraph.Proofs.Block.Joining
import DocGraph.Proofs.Block.Place
import DocGraph.Proofs.Block.RoundTrip
import DocGraph.Proofs.Block.Turns
import DocGraph.Proofs.Build.Attribution
import DocGraph.Proofs.Build.Fields
import DocGraph.Proofs.Build.Flagged
import DocGraph.Proofs.Build.Isolation
import DocGraph.Proofs.Build.Views
import DocGraph.Proofs.Git.Readable
import DocGraph.Proofs.Graph.Agreement
import DocGraph.Proofs.Graph.Counts
import DocGraph.Proofs.Graph.Discovery
import DocGraph.Proofs.Graph.Linking
import DocGraph.Proofs.Graph.References
import DocGraph.Proofs.Graph.Validity
import DocGraph.Proofs.Language
import DocGraph.Proofs.Rules.Pruning
import DocGraph.Proofs.Rules.Surviving
import DocGraph.Proofs.Sample.Selection
import DocGraph.Proofs.Scan.Balance
import DocGraph.Proofs.Scan.Bounds
import DocGraph.Proofs.Scan.Concurrency
import DocGraph.Proofs.Scan.Exploration
import DocGraph.Proofs.Scan.Selection
import DocGraph.Proofs.Scan.Verdict
