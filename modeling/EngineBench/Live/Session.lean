import EngineBench.Bench.Engine
import EngineBench.Live.Host
import EngineBench.Shutdown.Board

namespace EngineBench

-- A server process, and how it ended once that is known.
structure Server where
  pid : Pid
  status : Option ExitStatus
  deriving DecidableEq, Repr

-- The host's state, the server that is held, and who listens for the shutdown signal.
structure Session (σ : Type) where
  world : σ
  server : Option Server
  board : Shutdown.Board
  -- when the last client was started
  clientStart : Duration

namespace Session

variable {σ α : Type}

-- A session that holds no server, with a listener for the one who runs it.
def start (world : σ) : Session σ × Nat :=
  let (board, listener) := Shutdown.Board.new.newListener
  (⟨world, none, board, .zero⟩, listener)

def ask (h : Host σ) (r : Host.Request) : Action (Session σ) r.Answer := fun s =>
  let (a, world) := h.respond r s.world
  .ok a { s with world }

def note (h : Host σ) (r : Log.Record) : Action (Session σ) Unit :=
  modify fun s => { s with world := h.log [r] s.world }

-- Turns a refusal into a fault.
def allowed (toFault : OsError → Fault) : Except OsError α → Action (Session σ) α
  | .ok a => pure a
  | .error e => Action.fail (toFault e)

def interruptText : String :=
  "Received shutdown signal, shutting down...\n"

-- All who listen are told of an interrupt.
def alerted (h : Host σ) (s : Session σ) : Session σ :=
  if h.interrupted s.world then
    let (board, records) := s.board.signal
    { s with world := h.log records (h.print interruptText s.world), board }
  else s

-- An interrupt is heeded whatever else became of the wait in which it came.
def heed (h : Host σ) : Action (Session σ) Unit :=
  modify (alerted h)

-- What was waited for, or the timer that ran out.
def outcome {timer : Option Timer} : Awaited timer α → Action (Session σ) (Except Timer α)
  | .ready a => pure (.ok a)
  | .late t _ => pure (.error t)
  | .cancelled => Action.fail .shutdown

def settle (h : Host σ) {timer : Option Timer} (a : Awaited timer α) :
    Action (Session σ) (Except Timer α) := do
  heed h
  outcome a

-- A wait without a timer.
def settled (h : Host σ) (a : Awaited none α) : Action (Session σ) α := do
  heed h
  match a with
  | .ready a => return a
  | .cancelled => Action.fail .shutdown

def release (h : Host σ) (pid : Pid) (s : Session σ) : Session σ :=
  { s with world := (h.respond (.release pid) s.world).2 }

-- Lets go of a process when an activity is over, however it ended.
def releasing (h : Host σ) (pid : Pid) (x : Action (Session σ) α) : Action (Session σ) α := fun s =>
  match x s with
  | .ok a s => .ok a (s.release h pid)
  | .error e s => .error e (s.release h pid)

-- Lets go of a process when an activity fails.
def releasingOnFailure (h : Host σ) (pid : Pid) (x : Action (Session σ) α) :
    Action (Session σ) α := fun s =>
  match x s with
  | .ok a s => .ok a s
  | .error e s => .error e (s.release h pid)

-- Lets go of the server, if one is held.
def drop (h : Host σ) (s : Session σ) : Session σ :=
  match s.server with
  | none => s
  | some server => { s.release h server.pid with server := none }

end Session

namespace Timer

-- Moments are counted in seconds that fit a signed word of 64 bits.
def lastSecond : Nat := Nat.pow 2 63 - 1

def moment? (now limit : Duration) : Option Duration :=
  let t : Duration := ⟨now.nanos + limit.nanos⟩
  if t.wholeSecs ≤ lastSecond then some t else none

def after? (now limit : Duration) : Option Timer :=
  (moment? now limit).map fun t => ⟨limit, t⟩

-- A timer that must be possible.
def after (now limit : Duration) : Except Breach Timer :=
  match after? now limit with
  | some t => .ok t
  | none => .error .deadlineOverflow

end Timer

end EngineBench
