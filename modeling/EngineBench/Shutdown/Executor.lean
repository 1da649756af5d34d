import EngineBench.Fault
import EngineBench.Shutdown.Board

namespace EngineBench

namespace Shutdown

-- One poll that leaves a job unfinished: whether the poll itself signals, and whether someone else
-- does before the job can go on. A job that is polled before it can go on, because of a signal, is
-- unfinished still.
structure Unfinished where
  signals : Bool
  outside : Bool
  deriving DecidableEq, Repr

structure Job (α : Type) where
  unfinished : List Unfinished
  signals : Bool
  result : Except Fault α

inductive Task (α : Type)
  | append (value : α)
  | signal
  deriving DecidableEq, Repr

-- What is left to chance about one poll of a job: whether someone else signals right before it, and
-- whether the job's listener is looked at before the job is polled or else after it. If the poll
-- leaves the job unfinished, the job can go on when that many turns of the tasks have followed the
-- first one, or else when no task is left; and it is polled at once then, or else the listener is
-- looked at once more before.
structure Chance where
  hailed : Bool
  early : Bool
  turns : Option Nat
  atOnce : Bool
  deriving DecidableEq, Repr

namespace Chance

def usual : Chance := ⟨false, false, none, false⟩

end Chance

-- What the runtime and other threads leave to chance is data of the executor, so that whatever is
-- said of all executors is said of all chances.
structure Executor (α : Type) where
  board : Board
  queue : List (Task α)
  appended : List α
  -- for the next polls, one by one; what comes after them is as usual
  chances : List Chance

namespace Executor

variable {α : Type}

-- An executor and the number of a listener made at the start.
def new : Executor α × Nat :=
  let (board, witness) := Board.new.newListener
  (⟨board, [], [], []⟩, witness)

def signal (e : Executor α) : Executor α :=
  { e with board := e.board.signal.1 }

def signalIf (b : Bool) (e : Executor α) : Executor α :=
  if b then e.signal else e

def spawn (t : Task α) (e : Executor α) : Executor α :=
  { e with queue := e.queue ++ [t] }

def perform (e : Executor α) : Task α → Executor α
  | .append value => { e with appended := e.appended ++ [value] }
  | .signal => e.signal

def check (l : Nat) (e : Executor α) : Executor α × Bool :=
  let (board, seen) := e.board.check l
  ({ e with board }, seen)

-- So many tasks run before the job's listener is looked at.
def turn : Nat := 61

def takeTurn (e : Executor α) : Executor α :=
  (e.queue.take turn).foldl perform { e with queue := e.queue.drop turn }

-- Runs tasks for some turns, or until the listener sees a signal; it is looked at after each.
def runTasks (l : Nat) : Nat → Executor α → Executor α × Bool
  | 0, e => (e, false)
  | turns + 1, e =>
    let (e, cancelled) := e.takeTurn.check l
    if cancelled then (e, true) else runTasks l turns e

def chance (e : Executor α) : Chance :=
  e.chances.head?.getD .usual

def drawn (e : Executor α) : Executor α :=
  { e with chances := e.chances.tail }

-- How many turns of the tasks follow the first one before the job can go on.
def turnsLater (e : Executor α) : Nat :=
  match e.chance.turns with
  | none => (e.queue.length - 1) / turn
  | some turns => turns

def lookIf (b : Bool) (l : Nat) (e : Executor α) : Executor α × Bool :=
  if b then e.check l else (e, false)

-- What comes before the job in one poll, and whether it was cancelled by that.
def arrive (l : Nat) (e : Executor α) : Executor α × Bool :=
  (e.drawn.signalIf e.chance.hailed).lookIf e.chance.early l

-- A poll that leaves the job unfinished and all that happens until the job can go on, and whether
-- it was cancelled by then.
def pend (l : Nat) (step : Unfinished) (e : Executor α) : Executor α × Bool :=
  let now := e.chance
  let turns := e.turnsLater
  let (e, cancelled) := e.arrive l
  if cancelled then (e, true)
  else
    let (e, cancelled) := (e.signalIf step.signals).lookIf (!now.early) l
    if cancelled then (e, true)
    else
      let (e, cancelled) := e.runTasks l turns
      if cancelled then (e, true)
      else (e.takeTurn.signalIf step.outside).lookIf (!now.atOnce) l

-- The poll that finishes a job gives its result, whatever that poll signals, unless the listener is
-- looked at before and sees a signal.
def poll (l : Nat) (job : Job α) : List Unfinished → Executor α → Executor α × Except Fault α
  | [], e =>
    let (e, cancelled) := e.arrive l
    if cancelled then (e, .error .shutdown) else (e.signalIf job.signals, job.result)
  | step :: steps, e =>
    let (e, cancelled) := e.pend l step
    if cancelled then (e, .error .shutdown) else poll l job steps e

-- Each run has a listener of its own, so a signal sent earlier does not touch it.
def executeInPlace (job : Job α) (e : Executor α) : Executor α × Except Fault α :=
  let (board, l) := e.board.newListener
  let (e, result) := poll l job job.unfinished { e with board }
  ({ e with board := e.board.dropListener l }, result)

end Executor

end Shutdown

end EngineBench
