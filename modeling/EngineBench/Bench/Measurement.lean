import EngineBench.Bench.Engine
import EngineBench.Report.Collector

namespace EngineBench

structure Bench (σ : Type) where
  engine : Engine σ
  policy : FailurePolicy

namespace Bench

structure State (σ : Type) where
  world : σ
  reporter : Reporter
  -- what the collectors did at each report so far
  reactions : List (List Reaction)

variable {σ α : Type}

def onEngine (x : Action σ α) : Action (State σ) α := fun s =>
  match x s.world with
  | .ok a world => .ok a { s with world }
  | .error e world => .error e { s with world }

def observe (f : σ → α × σ) : Action (State σ) α :=
  onEngine fun world => .ok (f world).1 (f world).2

def logged (b : Bench σ) (records : Log) : Action (State σ) Unit :=
  onEngine (modify (b.engine.log records))

def isRunning (b : Bench σ) : Action (State σ) Bool := do
  return b.engine.isRunning (← get).world

def report (b : Bench σ) (r : Report) : Action (State σ) Unit := do
  let s ← get
  let (reporter, reactions) := s.reporter.send r
  let world := b.engine.print (Reporter.printed reactions)
    (b.engine.log (Reporter.logged reactions) s.world)
  set { s with world, reporter, reactions := s.reactions ++ [reactions] }

def checkShutdown (b : Bench σ) : Action (State σ) Unit := do
  if ← observe b.engine.shutdownSeen then Action.fail .shutdown

-- The clock is read also after a run that could not be made.
def runTimed (b : Bench σ) (scale : Scale) : Action (State σ) (Invocation × Duration) := do
  let outcome ← onEngine (b.engine.runClient scale).attempt
  let duration ← observe b.engine.elapsed
  return (← Action.ofExcept outcome, duration)

-- What becomes of the scale after a sample.
inductive Verdict
  | goOn (a : Accumulator)
  | abort (outcome : Outcome)

def excluded (b : Bench σ) (a : Accumulator) (s : Sample) : Action (State σ) Accumulator := do
  b.logged [Accumulator.exclusion s]
  Action.ofBreach a.exclude

def judgeFailure (b : Bench σ) (a : Accumulator) (s : Sample) : Action (State σ) Verdict := do
  let reason := FailureReason.aborted a.scale.workload s.failure
  match b.policy with
  | .record =>
    b.logged [.warn s!"{reason.message}, recording the sample anyway"]
    return .goOn (← Action.ofBreach (a.record s))
  | .exclude =>
    b.logged [.warn s!"{reason.message}, excluding the sample"]
    return .goOn (← b.excluded a s)
  | .abortScale =>
    b.logged [.error "scale_tunnel_runner::harness" s!"{reason.message}, aborting the scale"]
    let a ← b.excluded a s
    return .abort (.failed a.scale a.failed reason)

def judge (b : Bench σ) (a : Accumulator) (s : Sample) : Action (State σ) Verdict := do
  if s.succeeded then return .goOn (← Action.ofBreach (a.record s))
  else b.judgeFailure a s

def tookText (name : String) (s : Sample) : String :=
  s!"{name} [{s.label}] iteration {s.iteration} took {s.duration}"

-- Runs the iterations that are left; between two of them a load benchmark restarts the server.
def runIterations (b : Bench σ) (name : String) (mode : Mode) (scale : Scale) :
    Nat → Nat → Accumulator → Action (State σ) Outcome
  | 0, _, a => return a.outcome
  | left + 1, iteration, a => do
    b.checkShutdown
    let (invocation, duration) ← b.runTimed scale
    let sample := Sample.of scale iteration duration invocation
    b.logged [.debug (tookText name sample)]
    match ← b.judge a sample with
    | .abort outcome => return outcome
    | .goOn a =>
      if mode = .load then
        let next ← Action.ofBreach (nextCount iteration)
        if next < scale.iterations then onEngine b.engine.restart
      runIterations b name mode scale left (iteration + 1) a

-- A load benchmark starts each scale with a fresh server.
def prepareScale (b : Bench σ) : Mode → Action (State σ) Unit
  | .query => return
  | .load => do
    if ← b.isRunning then onEngine b.engine.stop
    onEngine b.engine.resetState
    onEngine b.engine.start

def runScale (b : Bench σ) (name : String) (mode : Mode) (scale : Scale) :
    Action (State σ) Outcome := do
  b.prepareScale mode
  b.runIterations name mode scale scale.iterations 0 (.new scale)

def reportOutcome (b : Bench σ) (name : String) : Outcome → Action (State σ) Unit
  | .completed summary => b.report (.summary name summary)
  | .failed scale failures reason => b.report (.failure name scale failures reason.message)

def runScales (b : Bench σ) (name : String) (mode : Mode) :
    List Scale → Action (State σ) (List Outcome)
  | [] => return []
  | scale :: rest => do
    let outcome ← b.runScale name mode scale
    b.reportOutcome name outcome
    return outcome :: (← b.runScales name mode rest)

def announcement (m : Benchmark) : String :=
  s!"Running {m.mode.name} benchmark '{m.name}' over {m.catalog.scales.length} scales"

-- A query benchmark starts the server only if none is running.
def prepareBenchmark (b : Bench σ) : Mode → Action (State σ) Unit
  | .load => return
  | .query => do
    if !(← b.isRunning) then onEngine b.engine.start

def runBenchmark (b : Bench σ) (m : Benchmark) : Action (State σ) (List Outcome) := do
  b.logged [.info (announcement m)]
  b.prepareBenchmark m.mode
  b.runScales m.name m.mode m.catalog.scales

def runAll (b : Bench σ) : List Benchmark → Action (State σ) (List Outcome)
  | [] => return []
  | m :: rest => do
    let outcomes ← b.runBenchmark m
    return outcomes ++ (← b.runAll rest)

-- The reports are finished also when the server does not stop.
def finish (b : Bench σ) (graceful : Bool) : Action (State σ) Unit := do
  let running ← b.isRunning
  let stopped ← Action.attempt
    (if graceful && running then onEngine b.engine.stop else pure ())
  b.report .finalize
  Action.ofExcept stopped

end Bench

end EngineBench
