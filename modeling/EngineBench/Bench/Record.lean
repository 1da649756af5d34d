import EngineBench.Bench.Journal

namespace EngineBench

namespace Engine

variable {σ α : Type}

namespace Exchange

inductive Kind
  | reset | start | stop | run | elapsed | look
  deriving DecidableEq, Repr

def kind : Exchange → Kind
  | reset _ => .reset
  | start _ => .start
  | stop _ => .stop
  | run .. => .run
  | elapsed _ => .elapsed
  | shutdownSeen _ => .look

-- What a client that answered came to.
def result? : Exchange → Option Invocation
  | run _ (.ok r) => some r
  | _ => none

-- A look that found nothing.
def isPassed : Exchange → Bool
  | shutdownSeen false => true
  | _ => false

-- What the bench has to give up for: a call that was not answered, or a signal that was seen.
def failure? : Exchange → Option Abort
  | reset (.error e) | start (.error e) | stop (.error e) | run _ (.error e) => some e
  | shutdownSeen true => some (.fault .shutdown)
  | reset (.ok _) | start (.ok _) | stop (.ok _) | run _ (.ok _) => none
  | elapsed _ | shutdownSeen false => none

end Exchange

-- An exchange, between two states of the engine.
structure Moment (σ : Type) where
  exchange : Exchange
  before : σ
  after : σ

namespace Moment

def kinds (moments : List (Moment σ)) : List Exchange.Kind :=
  moments.map (·.exchange.kind)

-- What was asked for since a look last found nothing.
def sinceLook (moments : List (Moment σ)) : List Exchange.Kind :=
  moments.foldl (fun ks m => if m.exchange.isPassed then [] else ks ++ [m.exchange.kind]) []

def results (moments : List (Moment σ)) : List Invocation :=
  moments.filterMap (·.exchange.result?)

end Moment

def recorded (exchange : Except Abort α → Exchange) (x : Action σ α) :
    Action (List (Moment σ) × σ) α := fun (moments, s) =>
  match x s with
  | .ok a s' => .ok a (moments ++ [⟨exchange (.ok a), s, s'⟩], s')
  | .error f s' => .error f (moments ++ [⟨exchange (.error f), s, s'⟩], s')

def recording (e : Engine σ) : Engine (List (Moment σ) × σ) where
  isRunning w := e.isRunning w.2
  resetState := recorded .reset e.resetState
  start := recorded .start e.start
  stop := recorded .stop e.stop
  runClient scale := recorded (.run scale) (e.runClient scale)
  elapsed w := ((e.elapsed w.2).1, w.1, (e.elapsed w.2).2)
  shutdownSeen w :=
    let (seen, s) := e.shutdownSeen w.2
    (seen, w.1 ++ [⟨.shutdownSeen seen, w.2, s⟩], s)
  log records w := (w.1, e.log records w.2)
  print text w := (w.1, e.print text w.2)

end Engine

namespace Bench

open Engine

variable {σ α : Type}

def recording (b : Bench σ) : Bench (List (Moment σ) × σ) where
  engine := b.engine.recording
  policy := b.policy

namespace State

def recorded (moments : List (Moment σ)) (s : State σ) : State (List (Moment σ) × σ) :=
  { s with world := (moments, s.world) }

end State

-- The calls and looks that a bench makes when it does something, whatever comes of that.
def moments (b : Bench σ)
    (act : Bench (List (Moment σ) × σ) → Action (State (List (Moment σ) × σ)) α) (s : State σ) :
    List (Moment σ) :=
  ((act b.recording).after (s.recorded [])).world.1

end Bench

end EngineBench
