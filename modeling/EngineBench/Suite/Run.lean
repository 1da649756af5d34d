import EngineBench.Bench.Measurement
import EngineBench.Live.Control
import EngineBench.Suite.Definition

namespace EngineBench

namespace Suite

variable {σ α : Type}

-- Does what only logs, and hands the records to the host.
def logging (h : Host σ) (x : Action Log α) (world : σ) : Except Abort α × σ :=
  match x [] with
  | .ok a log => (.ok a, h.log log world)
  | .error e log => (.error e, h.log log world)

def reporting (o : Options) : Reporting :=
  if o.summaryTable then Reporting.empty.enableLines.enableTable else Reporting.empty.enableLines

def isGraceful : Except Fault (List Outcome) → Bool
  | .error f => f.kind ≠ .shutdown
  | .ok _ => true

def uncleanStop (f : Fault) : Log.Record :=
  .error "scale_tunnel_runner::run" s!"Failed to stop the server cleanly: {f.report}"

-- Runs the benchmarks and ends the run; only what the benchmarks gave is its result.
def measure (b : Bench σ) (benchmarks : List Benchmark) :
    Action (Bench.State σ) (List Outcome) := do
  let outcomes ← (b.runAll benchmarks).attempt
  if let .error f ← (b.finish (isGraceful outcomes)).attempt then
    b.logged [uncleanStop f]
  Action.ofExcept outcomes

-- Runs benchmarks on an engine that has been found, and lets go of its server.
def runOn (h : Host σ) (o : Options) (c : Config) (benchmarks : List Benchmark) (world : σ) :
    Except Abort (List Outcome) × σ :=
  let (session, listener) := Session.start world
  let b : Bench (Session σ) := ⟨Control.engine h c listener, o.failurePolicy⟩
  let start : Bench.State (Session σ) := ⟨session, (reporting o).reporter, []⟩
  match measure b benchmarks start with
  | .ok outcomes s => (.ok outcomes, (s.world.drop h).world)
  | .error e s => (.error e, (s.world.drop h).world)

def prepare (here : Surroundings) (s : Suite) : Action Log (List Benchmark × Config) := do
  let benchmarks ← s.build here.readText
  modify (· ++ [.info s!"Running benchmark suite: {s.name}"])
  return (benchmarks, ← (Setup.ofOptions s.options).build here)

-- A run that was told to shut down does not stop the server gracefully. A server that is still held
-- when the run is over is let go of, and that kills it.
def run (h : Host σ) (here : Surroundings) (s : Suite) (world : σ) :
    Except Abort (List Outcome) × σ :=
  match logging h (s.prepare here) world with
  | (.error e, world) => (.error e, world)
  | (.ok (benchmarks, c), world) => runOn h s.options c benchmarks world

end Suite

end EngineBench
