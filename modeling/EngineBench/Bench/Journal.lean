import EngineBench.Bench.Measurement

namespace EngineBench

namespace Engine

variable {σ α : Type}

inductive Exchange
  | reset (answer : Except Abort Unit)
  | start (answer : Except Abort Unit)
  | stop (answer : Except Abort Unit)
  | run (scale : Scale) (answer : Except Abort Invocation)
  | elapsed (answer : Duration)
  | shutdownSeen (answer : Bool)

namespace Exchange

-- Readings of the clock and looks at the signal are no calls.
def isCall : Exchange → Bool
  | reset _ | start _ | stop _ | run .. => true
  | elapsed _ | shutdownSeen _ => false

end Exchange

structure Note where
  exchange : Exchange
  running : Bool

def noted (e : Engine σ) (exchange : Except Abort α → Exchange) (x : Action σ α) :
    Action (List Note × σ) α := fun (notes, s) =>
  match x s with
  | .ok a s' => .ok a (notes ++ [⟨exchange (.ok a), e.isRunning s⟩], s')
  | .error f s' => .error f (notes ++ [⟨exchange (.error f), e.isRunning s⟩], s')

def seen (e : Engine σ) (exchange : α → Exchange) (f : σ → α × σ) :
    List Note × σ → α × List Note × σ := fun (notes, s) =>
  ((f s).1, notes ++ [⟨exchange (f s).1, e.isRunning s⟩], (f s).2)

-- The journal is only written, so the engine does what it did without it.
def noting (e : Engine σ) : Engine (List Note × σ) where
  isRunning s := e.isRunning s.2
  resetState := e.noted .reset e.resetState
  start := e.noted .start e.start
  stop := e.noted .stop e.stop
  runClient scale := e.noted (.run scale) (e.runClient scale)
  elapsed := e.seen .elapsed e.elapsed
  shutdownSeen := e.seen .shutdownSeen e.shutdownSeen
  log records s := (s.1, e.log records s.2)
  print text s := (s.1, e.print text s.2)

end Engine

namespace Bench

open Engine

variable {σ α : Type}

def noting (b : Bench σ) : Bench (List Note × σ) where
  engine := b.engine.noting
  policy := b.policy

namespace State

def noted (notes : List Note) (s : State σ) : State (List Note × σ) :=
  { s with world := (notes, s.world) }

def calls (s : State (List Note × σ)) : List Note :=
  s.world.1.filter (·.exchange.isCall)

end State

-- All that is noted when a bench does something, whatever comes of that.
def notes (b : Bench σ) (act : Bench (List Note × σ) → Action (State (List Note × σ)) α)
    (s : State σ) : List Note :=
  ((act b.noting).after (s.noted [])).world.1

-- The calls a bench makes of its engine when it does something, whatever comes of that.
def calls (b : Bench σ) (act : Bench (List Note × σ) → Action (State (List Note × σ)) α)
    (s : State σ) : List Note :=
  ((act b.noting).after (s.noted [])).calls

def exchanges (b : Bench σ) (act : Bench (List Note × σ) → Action (State (List Note × σ)) α)
    (s : State σ) : List Exchange :=
  (b.calls act s).map (·.exchange)

end Bench

end EngineBench
