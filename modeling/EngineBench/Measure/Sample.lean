import EngineBench.Duration
import EngineBench.Workload.Scale

namespace EngineBench

structure Invocation where
  exitCode : Option Int
  bytesWritten : Nat
  timedOut : Bool
  deriving DecidableEq, Repr

namespace Invocation

def succeeded (i : Invocation) : Bool :=
  !i.timedOut && i.exitCode = some 0

end Invocation

structure Sample where
  label : String
  iteration : Nat
  duration : Duration
  invocation : Invocation
  deriving DecidableEq, Repr

namespace Sample

def of (scale : Scale) (iteration : Nat) (duration : Duration) (invocation : Invocation) : Sample :=
  ⟨scale.label, iteration, duration, invocation⟩

def succeeded (s : Sample) : Bool :=
  s.invocation.succeeded

end Sample

end EngineBench
