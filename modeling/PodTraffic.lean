import PodTraffic.Document.Summary
import PodTraffic.Document.TestCase
import PodTraffic.Main
import PodTraffic.Runner
import PodTraffic.Proofs.Ordered
import PodTraffic.Proofs.Selector
import PodTraffic.Proofs.SortedMap
import PodTraffic.Proofs.Policy.TargetKey
import PodTraffic.Proofs.Policy.Simplify
import PodTraffic.Proofs.Policy.Steps
import PodTraffic.Proofs.Fallible
import PodTraffic.Proofs.Policy.Compile
import PodTraffic.Proofs.Policy.Rules
import PodTraffic.Proofs.Policy.Union
import PodTraffic.Proofs.Command
import PodTraffic.Proofs.Address.Text
import PodTraffic.Proofs.Job
import PodTraffic.Proofs.Cluster.Mirror
import PodTraffic.Proofs.Probe
import PodTraffic.Proofs.Cluster.Exec
import PodTraffic.Proofs.Runner
import PodTraffic.Proofs.Resources
import PodTraffic.Proofs.Cluster.Calls
import PodTraffic.Proofs.Cluster.Orderly
import PodTraffic.Proofs.Cluster.Deploy
import PodTraffic.Proofs.Cluster.Tracks
import PodTraffic.Proofs.Trial.Effect
import PodTraffic.Proofs.Trial.Reached
import PodTraffic.Proofs.Trial.Tracks
import PodTraffic.Proofs.Trial.Reset
import PodTraffic.Proofs.Trial.Policies
import PodTraffic.Proofs.Trial.Containers
import PodTraffic.Proofs.Trial.Hosts
import PodTraffic.Proofs.Policy.Modular
import PodTraffic.Proofs.Cluster.Consistent
import PodTraffic.Proofs.Coverage
import PodTraffic.Proofs.History
import PodTraffic.Proofs.Cluster.Verified
import PodTraffic.Proofs.Config
import PodTraffic.Proofs.Corpus
import PodTraffic.Proofs.Trial.Obstacles
import PodTraffic.Proofs.Corpus.Scripts
import PodTraffic.Proofs.Address.RoundTrip
import PodTraffic.Proofs.Policy.Valid
import PodTraffic.Proofs.Corpus.Compiles
import PodTraffic.Proofs.Job.Service
import PodTraffic.Proofs.Trial.Outcomes
import PodTraffic.Proofs.Port.Reading
import PodTraffic.Proofs.IpBlock
import PodTraffic.Proofs.Policy.NormalForm
import PodTraffic.Proofs.Comparison
import PodTraffic.Proofs.SortedMap.Sum
import PodTraffic.Proofs.Summary
import PodTraffic.Proofs.Corpus.Lookups
import PodTraffic.Proofs.Config.Defaults
import PodTraffic.Proofs.Report.Junit
import PodTraffic.Proofs.CommandLine.Arguments
import PodTraffic.Proofs.Cluster.Addresses
import PodTraffic.Proofs.Job.Batches
