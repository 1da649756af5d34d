import EngineBench.Bench.Life
import EngineBench.Bench.Script

namespace EngineBench

-- A client that answered, and well.
def Take.Passes (t : Take) : Prop :=
  t.fault = none ∧ t.invocation.succeeded

instance (t : Take) : Decidable t.Passes :=
  inferInstanceAs (Decidable (t.fault = none ∧ t.invocation.succeeded))

namespace Script

def bench (policy : FailurePolicy) : Bench Script where
  engine := engine
  policy := policy

structure Client where
  take : Take
  duration : Duration

-- The clients still to come, in order.
def clients (s : Script) (n : Nat) : Client where
  take := s.takes[n]?.getD .success
  duration := s.durations[n]?.getD s.fallback

-- A script with other clients. What was logged so far may differ as well.
inductive Recast (s : Script) : Script → Prop
  | intro {takes durations fallback records} :
    Recast s { s with takes, durations, fallback, records }

-- Clients that are alike but for how the ones that do not pass came to that and how long they took,
-- and for what the ones that pass wrote.
structure Client.Resembles (c d : Client) : Prop where
  fault    : d.take.fault = c.take.fault
  signals  : d.take.signals = c.take.signals
  passes   : d.take.Passes ↔ c.take.Passes
  duration : c.take.Passes → d.duration = c.duration

-- How the clients of two scripts compare in a scale, and how many are run for it: all of them, as
-- long as they pass, or those up to the first that does not. In the second case they may take any
-- time.
inductive SameUnlessAborted (iterations : Nat) (c d : Nat → Client) : Nat → Prop
  | through : (∀ n < iterations, (c n).take.Passes ∧ d n = c n) →
    SameUnlessAborted iterations c d iterations
  | aborted : last < iterations → (∀ n < last, (c n).take.Passes) → ¬(c last).take.Passes →
    (∀ n ≤ last, (d n).take = (c n).take) → SameUnlessAborted iterations c d (last + 1)

-- The same in scale after scale.
inductive SameUnlessAbortedIn : List Scale → (Nat → Client) → (Nat → Client) → Prop
  | nil  : SameUnlessAbortedIn [] c d
  | cons : SameUnlessAborted scale.iterations c d k →
    SameUnlessAbortedIn rest (fun n => c (n + k)) (fun n => d (n + k)) →
    SameUnlessAbortedIn (scale :: rest) c d

-- Variations that a policy does not care for, in a run over some scales.
inductive Varies (scales : List Scale) (c d : Nat → Client) : FailurePolicy → Prop
  | excluded : (∀ n, (c n).Resembles (d n)) → Varies scales c d .exclude
  | failed   : (∀ n, (d n).take = (c n).take) →
    (∀ n, (c n).take.Passes → (d n).duration = (c n).duration) → Varies scales c d .abortScale
  | aborted  : SameUnlessAbortedIn scales c d → Varies scales c d .abortScale

end Script

end EngineBench
