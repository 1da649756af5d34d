import EngineBench.Bench.Benchmark

namespace EngineBench

-- A step on a state, which is there also after the step failed.
abbrev Action (σ α : Type) := EStateM Abort σ α

namespace Action

variable {σ α : Type}

def fail (f : Fault) : Action σ α :=
  throw (.fault f)

def ofExcept : Except Fault α → Action σ α
  | .ok a => pure a
  | .error f => fail f

def ofBreach : Except Breach α → Action σ α
  | .ok a => pure a
  | .error b => throw (.breach b)

-- Turns a fault into an answer. A breach is passed on.
def attempt (x : Action σ α) : Action σ (Except Fault α) := fun s =>
  match x s with
  | .ok a s => .ok (.ok a) s
  | .error (.fault f) s => .ok (.error f) s
  | .error (.breach b) s => .error (.breach b) s

-- What a step came to, without the state it left.
def answer (x : Action σ α) (s : σ) : Except Abort α :=
  match x s with
  | .ok a _ => .ok a
  | .error e _ => .error e

-- The state after a step, also after one that failed.
def after (x : Action σ α) (s : σ) : σ :=
  match x s with
  | .ok _ s | .error _ s => s

-- A step that is made for what it does to the state, whatever comes of it.
def regardless (x : Action σ α) : Action σ Unit := fun s =>
  .ok () (x.after s)

end Action

-- What measuring needs of an engine. The server, the client, the clock and the signal live in one
-- state, so an engine may be real processes or a script.
structure Engine (σ : Type) where
  isRunning : σ → Bool
  resetState : Action σ Unit
  start : Action σ Unit
  stop : Action σ Unit
  runClient : Scale → Action σ Invocation
  -- How long the last client run took.
  elapsed : σ → Duration × σ
  -- Whether the run was asked to end.
  shutdownSeen : σ → Bool × σ
  log : Log → σ → σ
  print : String → σ → σ

namespace Engine

variable {σ : Type}

def restart (e : Engine σ) : Action σ Unit := do
  e.stop
  e.start

end Engine

end EngineBench
