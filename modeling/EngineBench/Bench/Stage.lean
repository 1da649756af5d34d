import EngineBench.Bench.Life

namespace EngineBench

namespace Report

-- What there is to report about a scale that ended.
def of (name : String) : Outcome → Report
  | .completed s                  => summary name s
  | .failed scale failures reason => failure name scale failures reason.message

end Report

namespace Bench

variable {σ τ : Type}

-- A scale of a benchmark, or none while the benchmark is prepared, and the state it is begun in.
structure Stage (σ : Type) where
  benchmark : Benchmark
  scale : Option Scale
  start : State σ

def prepare (b : Bench σ) (m : Benchmark) : Action (State σ) Unit := do
  b.logged [.info (announcement m)]
  b.prepareBenchmark m.mode

namespace Stage

def act (b : Bench τ) (g : Stage σ) : Action (State τ) (Option Outcome) :=
  match g.scale with
  | none       => do
    b.prepare g.benchmark
    return none
  | some scale => do
    return some (← b.runScale g.benchmark.name g.benchmark.mode scale)

-- What is due to be reported when the stage has ended.
def report? (b : Bench σ) (g : Stage σ) : Option Report :=
  match g.act b g.start with
  | .ok outcome _ => outcome.map (Report.of g.benchmark.name)
  | .error ..     => none

end Stage

def scaleStages (b : Bench σ) (m : Benchmark) : List Scale → State σ → List (Stage σ)
  | [], _            => []
  | scale :: rest, s => ⟨m, some scale, s⟩ ::
    match b.runScale m.name m.mode scale s with
    | .ok outcome s₁ => b.scaleStages m rest ((b.reportOutcome m.name outcome).after s₁)
    | .error ..      => []

def benchmarkStages (b : Bench σ) (m : Benchmark) (s : State σ) : List (Stage σ) :=
  ⟨m, none, s⟩ ::
    match b.prepare m s with
    | .ok _ s₁  => b.scaleStages m m.catalog.scales s₁
    | .error .. => []

def allStages (b : Bench σ) : List Benchmark → State σ → List (Stage σ)
  | [], _        => []
  | m :: rest, s => b.benchmarkStages m s ++
    match b.runBenchmark m s with
    | .ok _ s₁  => b.allStages rest s₁
    | .error .. => []

def errandStages (b : Bench σ) : Errand → State σ → List (Stage σ)
  | .one m, s  => b.benchmarkStages m s
  | .all ms, s => b.allStages ms s

def stages (b : Bench σ) : List Errand → State σ → List (Stage σ)
  | [], _             => []
  | errand :: rest, s =>
    b.errandStages errand s ++ b.stages rest ((b.perform errand).after s)

-- Runs of one benchmark after the other, from a state to a state, with what each gave.
inductive Runs (b : Bench σ) : List Benchmark → State σ → List (List Outcome) → State σ → Prop
  | nil  : Runs b [] s [] s
  | cons : b.runBenchmark m s = .ok part s₁ → Runs b rest s₁ parts s₂ →
    Runs b (m :: rest) s (part :: parts) s₂

end Bench

end EngineBench
