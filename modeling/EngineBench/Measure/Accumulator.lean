import EngineBench.Fault
import EngineBench.Log
import EngineBench.Measure.Sample
import EngineBench.Text.Quoted

namespace EngineBench

structure Summary where
  scale : Scale
  samples : Nat
  failed : Nat
  mean : Float
  least : Float
  greatest : Float

-- The next count, as long as it fits a machine word.
def nextCount (n : Nat) : Except Breach Nat :=
  if n < maxCount then .ok (n + 1) else .error .countOverflow

structure Accumulator where
  scale : Scale
  total : Float
  extremes : Option (Duration × Duration)
  recorded : Nat
  failed : Nat

namespace Accumulator

def new (scale : Scale) : Accumulator :=
  ⟨scale, 0.0, none, 0, 0⟩

def widen (d : Duration) : Option (Duration × Duration) → Duration × Duration
  | none => (d, d)
  | some (least, greatest) => (least.min d, greatest.max d)

-- A recorded failure still counts as a failure.
def failuresWith (s : Sample) (a : Accumulator) : Except Breach Nat :=
  if s.succeeded then .ok a.failed else nextCount a.failed

def record (s : Sample) (a : Accumulator) : Except Breach Accumulator :=
  if s.label = a.scale.label then do
    let failed ← a.failuresWith s
    let recorded ← nextCount a.recorded
    return { a with
      failed
      recorded
      total := a.total + s.duration.toSeconds
      extremes := some (widen s.duration a.extremes) }
  else
    .error (.labelMismatch (Text.quoted s.label) (Text.quoted a.scale.label))

def exclude (a : Accumulator) : Except Breach Accumulator := do
  let failed ← nextCount a.failed
  return { a with failed }

-- What is logged when a sample is excluded.
def exclusion (s : Sample) : Log.Record :=
  .trace s!"Excluding iteration {s.iteration} of scale '{s.label}' from the mean"

def summary? (a : Accumulator) : Option Summary :=
  a.extremes.map fun (least, greatest) =>
    { scale := a.scale
      samples := a.recorded
      failed := a.failed
      mean := a.total / a.recorded.toUInt64.toFloat
      least := least.toSeconds
      greatest := greatest.toSeconds }

end Accumulator

end EngineBench
