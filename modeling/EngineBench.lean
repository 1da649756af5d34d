import EngineBench.Bench.Journal
import EngineBench.Bench.Life
import EngineBench.Main
import EngineBench.Bench.Script
import EngineBench.Shutdown.Executor
import EngineBench.Proofs.Action
import EngineBench.Proofs.Bench.Calls
import EngineBench.Proofs.Bench.Iteration
import EngineBench.Proofs.Bench.Growth
import EngineBench.Proofs.Bench.RunningServer
import EngineBench.Proofs.Live.Control
import EngineBench.Proofs.Bench.Over
import EngineBench.Proofs.Bench.LoadProtocol
import EngineBench.Proofs.Bench.Handover
import EngineBench.Bench.Stage
import EngineBench.Bench.Record
import EngineBench.Proofs.Bench.FailFast
import EngineBench.Proofs.Bench.Reports
import EngineBench.Proofs.Bench.Mending
import EngineBench.Proofs.Bench.Splitting
import EngineBench.Proofs.Shutdown.Signals
import EngineBench.Proofs.Bench.Cancellation
import EngineBench.Proofs.Live.Readiness
import EngineBench.Proofs.Suite.Definition
import EngineBench.Proofs.Suite.Ending
import EngineBench.Shutdown.Deed
import EngineBench.Proofs.Shutdown.Jobs
import EngineBench.Proofs.Shutdown.Alike
import EngineBench.Proofs.Shutdown.Course
import EngineBench.Bench.Account
import EngineBench.Proofs.Bench.Accounting
import EngineBench.Proofs.Bench.Twins
import EngineBench.Proofs.Bench.Policies
import EngineBench.Bench.Variation
import EngineBench.Proofs.Bench.Variation
import EngineBench.Proofs.Measure.Summary
import EngineBench.Proofs.Workload.Decoding
import EngineBench.Proofs.Workload.Settlement
import EngineBench.Proofs.Workload.Strictness
import EngineBench.Proofs.Live.Polling
import EngineBench.Proofs.Live.Breaches
import EngineBench.Live.Parting
import EngineBench.Live.Preference
import EngineBench.Proofs.Live.Absolute
import EngineBench.Proofs.Live.Parting
import EngineBench.Proofs.Live.Stopping
import EngineBench.Proofs.Bench.Breaches
import EngineBench.Proofs.Bench.Collectors
import EngineBench.Proofs.Files.Canonical
import EngineBench.Proofs.Live.RegularFiles
import EngineBench.Proofs.Live.Sink
