import EngineBench.Live.Control

namespace EngineBench

namespace Host

namespace Exchange

-- The process that was spawned.
def spawned? : Exchange → Option Pid
  | ⟨.spawn _, .ok pid⟩ => some pid
  | _ => none

-- The process that is no longer there: it has ended, or it was killed. Letting go of a process
-- kills it.
def over? : Exchange → Option Pid
  | ⟨.poll pid, .ok (some _)⟩ => some pid
  | ⟨.awaitExit pid _, .ready (.ok _)⟩ => some pid
  | ⟨.kill pid, .ok ()⟩ => some pid
  | ⟨.release pid, ()⟩ => some pid
  | _ => none

-- The process that has ended, as it was seen to.
def exited? : Exchange → Option Pid
  | ⟨.poll pid, .ok (some _)⟩ => some pid
  | ⟨.awaitExit pid _, .ready (.ok _)⟩ => some pid
  | _ => none

-- The path at which there was nothing, or nothing any more.
def gone? : Exchange → Option Path
  | ⟨.isThere path, false⟩ => some path
  | ⟨.remove path, .ok ()⟩ => some path
  | ⟨.remove path, .error .notFound⟩ => some path
  | _ => none

-- The path at which something was left that could not be removed, and why.
def unremoved? : Exchange → Option (Path × OsError)
  | ⟨.remove _, .error .notFound⟩ => none
  | ⟨.remove path, .error e⟩ => some (path, e)
  | _ => none

end Exchange

-- The processes that are there after one more exchange.
def aliveAfter (alive : List Pid) (x : Exchange) : List Pid :=
  (alive ++ x.spawned?.toList).filter fun pid => x.over? ≠ some pid

-- The processes that were spawned and have neither ended nor been killed. One that ended unseen
-- still counts.
def alive (exchanges : List Exchange) : List Pid :=
  exchanges.foldl aliveAfter []

end Host

namespace Session

variable {σ α : Type}

def noted (exchanges : List Host.Exchange) (s : Session σ) : Session (List Host.Exchange × σ) :=
  { s with world := (exchanges, s.world) }

-- What a host is asked when something is done in a session, whatever comes of that.
def exchanges (h : Host σ)
    (act : Host (List Host.Exchange × σ) → Action (Session (List Host.Exchange × σ)) α)
    (s : Session σ) : List Host.Exchange :=
  ((act h.noting).after (s.noted [])).world.1

end Session

namespace Control

variable {σ : Type}

inductive Order
  | start | stop | restart | reset
  deriving DecidableEq, Repr

def obey (h : Host σ) (c : Config) : Order → Action (Session σ) Unit
  | .start => start h c
  | .stop => stop h c
  | .restart => do
    stop h c
    start h c
  | .reset => resetState h c

-- An order that fails does not keep the later ones from being given.
def obeyAll (h : Host σ) (c : Config) : List Order → Action (Session σ) Unit
  | [] => return
  | order :: rest => do
    (obey h c order).regardless
    obeyAll h c rest

end Control

end EngineBench
