import EngineBench.Bench.Engine
import EngineBench.Options
import EngineBench.Workload.CatalogFile

namespace EngineBench

structure Suite where
  name : String
  options : Options
  benchmarks : List Benchmark
  deriving Repr

namespace Suite

def new (name : String) (options : Options) : Suite :=
  ⟨name, options, []⟩

def names (s : Suite) : List String :=
  s.benchmarks.map (·.name)

def add (m : Benchmark) (s : Suite) : Except Breach Suite :=
  if m.name ∈ s.names then .error (.duplicateBenchmark m.name)
  else .ok { s with benchmarks := s.benchmarks ++ [m] }

def addAll : List Benchmark → Suite → Except Breach Suite
  | [], s => .ok s
  | m :: rest, s => do addAll rest (← s.add m)

-- The first name in a catalog file that no benchmark has.
def unknown? (s : Suite) (overrides : CatalogFile.Overrides) : Option String :=
  (overrides.map (·.1)).find? (· ∉ s.names)

def replaced (overrides : CatalogFile.Overrides) (m : Benchmark) : Benchmark :=
  match overrides.lookup m.name with
  | some catalog => { m with catalog }
  | none => m

def replacements (overrides : CatalogFile.Overrides) (benchmarks : List Benchmark) : Log :=
  (benchmarks.filter fun m => (overrides.lookup m.name).isSome).map fun m =>
    .info s!"Using catalog from file for benchmark '{m.name}'"

-- The benchmarks with the catalogs of the file, if there is one.
def override (readText : Path → Except OsError String) (s : Suite) :
    Action Log (List Benchmark) := do
  match s.options.catalog with
  | none => return s.benchmarks
  | some path =>
    let overrides ← Action.ofExcept (CatalogFile.load readText path)
    match s.unknown? overrides with
    | some name => Action.fail (.unknownBenchmark path name s.name)
    | none =>
      modify (· ++ replacements overrides s.benchmarks)
      return s.benchmarks.map (replaced overrides)

def empty? (benchmarks : List Benchmark) : Option Benchmark :=
  benchmarks.find? (·.catalog.isEmpty)

-- The benchmarks to run, in the order in which they were added.
def build (readText : Path → Except OsError String) (s : Suite) : Action Log (List Benchmark) := do
  let benchmarks ← s.override readText
  if benchmarks.isEmpty then Action.fail (.noBenchmarks s.name)
  match empty? benchmarks with
  | some m => Action.fail (.noScales m.name)
  | none => return benchmarks

end Suite

end EngineBench
