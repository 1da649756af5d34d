import EngineBench.Measure.Accumulator

namespace EngineBench

namespace Duration

def Least (d : Duration) (ds : List Duration) : Prop :=
  d ∈ ds ∧ ∀ d' ∈ ds, d ≤ d'

def Greatest (d : Duration) (ds : List Duration) : Prop :=
  d ∈ ds ∧ ∀ d' ∈ ds, d' ≤ d

-- Seconds are added up from the left, beginning with zero.
def total (ds : List Duration) : Float :=
  (ds.map toSeconds).foldl (· + ·) 0.0

def mean (ds : List Duration) : Float :=
  total ds / ds.length.toUInt64.toFloat

end Duration

namespace Accumulator

inductive Step
  | record (s : Sample)
  | exclude (s : Sample)
  deriving DecidableEq, Repr

namespace Step

def recorded? : Step → Option Sample
  | record s => some s
  | exclude _ => none

def isExclude : Step → Bool
  | record _ => false
  | exclude _ => true

-- The samples that were recorded, in the order in which they were.
def samples (steps : List Step) : List Sample :=
  steps.filterMap recorded?

def durations (steps : List Step) : List Duration :=
  (samples steps).map (·.duration)

-- A recorded sample counts as a failure if it did not succeed, an excluded one always.
def failures (steps : List Step) : Nat :=
  (samples steps).countP (!·.succeeded) + steps.countP isExclude

end Step

def apply (a : Accumulator) : Step → Except Breach Accumulator
  | .record s => a.record s
  | .exclude _ => a.exclude

def applyAll (a : Accumulator) (steps : List Step) : Except Breach Accumulator :=
  steps.foldlM apply a

end Accumulator

open Accumulator (Step)

namespace Summary

-- A summary sums up the steps that were made for a scale.
structure Sums (scale : Scale) (steps : List Step) (sum : Summary) : Prop where
  scale    : sum.scale = scale
  samples  : sum.samples = (Step.samples steps).length
  failed   : sum.failed = Step.failures steps
  mean     : sum.mean = Duration.mean (Step.durations steps)
  least    : ∃ d : Duration, d.Least (Step.durations steps) ∧ sum.least = d.toSeconds
  greatest : ∃ d : Duration, d.Greatest (Step.durations steps) ∧ sum.greatest = d.toSeconds

-- All but the mean, which depends on the order in which seconds are added.
def unordered (sum : Summary) : Scale × Nat × Nat × Float × Float :=
  (sum.scale, sum.samples, sum.failed, sum.least, sum.greatest)

end Summary

end EngineBench
