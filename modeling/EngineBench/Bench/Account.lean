import EngineBench.Bench.Journal

namespace EngineBench

namespace Invocation

-- Why a client did not succeed: running out of time comes before an exit code, and an exit code
-- before a signal.
inductive Fails (iteration : Nat) (r : Invocation) : String → Prop
  | timedOut  : r.timedOut = true → Fails iteration r s!"iteration {iteration} timed out"
  | exited    : r.timedOut = false → r.exitCode = some code → code ≠ 0 →
    Fails iteration r s!"iteration {iteration} exited with code {code}"
  | signalled : r.timedOut = false → r.exitCode = none →
    Fails iteration r s!"iteration {iteration} was terminated by a signal"

def failures (rs : List Invocation) : Nat :=
  rs.countP (!·.succeeded)

end Invocation

open Invocation (failures)

structure Summary.Tells (scale : Scale) (samples failed : Nat) (s : Summary) : Prop where
  scale   : s.scale = scale
  samples : s.samples = samples
  failed  : s.failed = failed

-- An outcome accounts for the clients of a scale, in the order in which they were run.
inductive Accounts (scale : Scale) : FailurePolicy → List Invocation → Outcome → Prop
  | recorded  : rs.length = scale.iterations →
    s.Tells scale scale.iterations (failures rs) →
    Accounts scale .record rs (.completed s)
  | excluded  : rs.length = scale.iterations → failures rs < scale.iterations →
    s.Tells scale (scale.iterations - failures rs) (failures rs) →
    Accounts scale .exclude rs (.completed s)
  | exhausted : rs.length = scale.iterations → failures rs = scale.iterations →
    reason.message = "no successful client invocations" →
    Accounts scale .exclude rs (.failed scale scale.iterations reason)
  | passed    : rs.length = scale.iterations → failures rs = 0 →
    s.Tells scale scale.iterations 0 →
    Accounts scale .abortScale rs (.completed s)
  | aborted   : rs.length < scale.iterations → failures rs = 0 → r.Fails rs.length cause →
    reason.message = s!"Client failed while running workload '{scale.workload}': {cause}" →
    Accounts scale .abortScale (rs ++ [r]) (.failed scale 1 reason)

-- An outcome of all clients of a scale, and one from which those are left out that did not succeed.
inductive Outcome.Excludes : Outcome → Outcome → Prop
  | some : s'.Tells s.scale (s.samples - s.failed) s.failed → s.failed < s.scale.iterations →
    Excludes (.completed s) (.completed s')
  | none : s.failed = s.scale.iterations → reason.message = "no successful client invocations" →
    Excludes (.completed s) (.failed s.scale s.failed reason)

open Engine

namespace Engine.Exchange

-- Clients, and readings of the clock.
def isTiming : Exchange → Bool
  | run .. | elapsed _ => true
  | reset _ | start _ | stop _ | shutdownSeen _ => false

-- A client that answered, and how long it took.
def timing (scale : Scale) (take : Invocation × Duration) : List Exchange :=
  [run scale (.ok take.1), elapsed take.2]

end Engine.Exchange

def Engine.timings (notes : List Note) : List Exchange :=
  (notes.map (·.exchange)).filter (·.isTiming)

namespace Bench

variable {σ α : Type}

-- The clients that a bench runs when it does something, and the times it reads off the clock.
def timings (b : Bench σ) (act : Bench (List Note × σ) → Action (State (List Note × σ)) α)
    (s : State σ) : List Exchange :=
  Engine.timings (b.notes act s)

end Bench

end EngineBench
