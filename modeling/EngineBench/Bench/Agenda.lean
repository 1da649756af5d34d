import EngineBench.Bench.Benchmark
import EngineBench.Report.Collector

namespace EngineBench

abbrev Agenda := List (Scale × Nat)

namespace Agenda

def of (scales : List Scale) : Agenda :=
  scales.map fun scale => (scale, scale.iterations)

def scales (agenda : Agenda) : List Scale :=
  agenda.map Prod.fst

-- A scale is through with its last client, or with the first one for which the policy aborts it.
def next (policy : FailurePolicy) : Agenda → Invocation → Agenda
  | [], _ => []
  | (scale, left) :: rest, r =>
    if left ≤ 1 ∨ policy = .abortScale ∧ !r.succeeded then rest else (scale, left - 1) :: rest

-- What is due after some clients.
def after (policy : FailurePolicy) (agenda : Agenda) (results : List Invocation) : Agenda :=
  results.foldl (next policy) agenda

end Agenda

namespace Report

-- The scale that a report is about.
def scale? : Report → Option Scale
  | summary _ s => some s.scale
  | failure _ scale _ _ => some scale
  | finalize => none

end Report

end EngineBench
