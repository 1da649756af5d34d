import EngineBench.Bench.Measurement

namespace EngineBench

inductive Errand
  | one (m : Benchmark)
  | all (ms : List Benchmark)
  deriving DecidableEq, Repr

namespace Errand

def benchmarks : Errand → List Benchmark
  | one m => [m]
  | all ms => ms

-- The scales that the errand is to run, in order.
def scales : Errand → List Scale
  | one m => m.catalog.scales
  | all ms => ms.flatMap (·.catalog.scales)

-- No catalog is empty, and iterations can be counted.
structure Proper (errand : Errand) : Prop where
  filled : ∀ m ∈ errand.benchmarks, m.catalog.scales ≠ []
  counts : ∀ scale ∈ errand.scales, scale.iterations ≤ maxCount

end Errand

namespace Bench

variable {σ : Type}

def perform (b : Bench σ) : Errand → Action (State σ) (List Outcome)
  | .one m => b.runBenchmark m
  | .all ms => b.runAll ms

def serve (b : Bench σ) : List Errand → Action (State σ) Unit
  | [] => return
  | errand :: rest => do
    (b.perform errand).regardless
    b.serve rest

-- A bench that is finished is told whether to do so gracefully.
def live (b : Bench σ) (errands : List Errand) (finish : Option Bool) : Action (State σ) Unit := do
  b.serve errands
  match finish with
  | none => return
  | some graceful => (b.finish graceful).regardless

end Bench

end EngineBench
