import EngineBench.Path

namespace EngineBench

-- The largest count that a machine word holds.
def maxCount : Nat := Nat.pow 2 64 - 1

structure Scale where
  label : String
  workload : Path
  iterations : Nat
  runs : 0 < iterations
  deriving DecidableEq, Repr

namespace Scale

def of? (label : String) (workload : Path) (iterations : Nat) : Option Scale :=
  if h : 0 < iterations then some ⟨label, workload, iterations, h⟩ else none

end Scale

end EngineBench
