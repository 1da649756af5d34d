import EngineBench.Measure.Accumulator
import EngineBench.Workload.Catalog

namespace EngineBench

-- A load benchmark gives every scale a fresh server and restarts it between iterations.
-- A query benchmark leaves one server alone.
inductive Mode
  | load | query
  deriving DecidableEq, Repr

namespace Mode

def name : Mode → String
  | load => "Load"
  | query => "Query"

end Mode

inductive FailurePolicy
  | record | exclude | abortScale
  deriving DecidableEq, Repr

structure Benchmark where
  name : String
  mode : Mode
  catalog : Catalog
  deriving DecidableEq, Repr

-- Why a scale gave no summary.
inductive FailureReason
  | aborted (workload : Path) (cause : ClientFailure)
  | noSamples
  deriving DecidableEq, Repr

namespace FailureReason

def message : FailureReason → String
  | aborted workload cause => (Fault.clientFailed workload cause).message
  | noSamples => "no successful client invocations"

end FailureReason

inductive Outcome
  | completed (summary : Summary)
  | failed (scale : Scale) (failures : Nat) (reason : FailureReason)

namespace Outcome

def scale : Outcome → Scale
  | completed summary => summary.scale
  | failed scale _ _ => scale

end Outcome

namespace Accumulator

-- How a scale ends whose iterations have all been run.
def outcome (a : Accumulator) : Outcome :=
  match a.summary? with
  | some summary => .completed summary
  | none => .failed a.scale a.failed .noSamples

end Accumulator

namespace Sample

-- Why a sample did not succeed: running out of time comes before any exit code.
def failure (s : Sample) : ClientFailure :=
  if s.invocation.timedOut then .timedOut s.iteration
  else match s.invocation.exitCode with
    | some code => .exited s.iteration code
    | none => .signalled s.iteration

end Sample

end EngineBench
