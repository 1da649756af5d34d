import EngineBench.Shutdown.Executor
import EngineBench.Shutdown.Move

namespace EngineBench

namespace Shutdown

variable {α : Type}

namespace Task

def value? : Task α → Option α
  | append value => some value
  | signal       => none

end Task

-- Whatever is done with the board between two runs is a move.
inductive Deed (α : Type)
  | run (job : Job α)
  | spawn (task : Task α)
  | move (m : Move)

namespace Deed

def isRun : Deed α → Bool
  | run _ => true
  | _     => false

def task? : Deed α → Option (Task α)
  | spawn t => some t
  | _       => none

end Deed

namespace Executor

-- The executor after some of its tasks were run that send no signal.
def past (n : Nat) (e : Executor α) : Executor α :=
  { e with
    queue    := e.queue.drop n
    appended := e.appended ++ (e.queue.take n).filterMap Task.value? }

-- How many tasks have their turn before a job that is unfinished can go on.
def tasksDue (e : Executor α) : Nat :=
  (e.turnsLater + 1) * turn

-- The executor when a job that was left unfinished can go on, if it is not cancelled.
def next (e : Executor α) : Executor α :=
  e.drawn.past e.tasksDue

-- The executor when a job is about to be finished, if it was not cancelled by then.
def waited (unfinished : List Unfinished) (e : Executor α) : Executor α :=
  unfinished.foldl (fun e _ => e.next) e

-- A signal is sent from one poll of a job on until the job can go on: right before that poll, by
-- it, by a task that has its turn, or by someone else.
def Disturbs (step : Unfinished) (e : Executor α) : Prop :=
  e.chance.hailed = true ∨ step.signals = true ∨ .signal ∈ e.queue.take e.tasksDue ∨
    step.outside = true

-- A signal is sent while a job is unfinished.
inductive Interrupts : List Unfinished → Executor α → Prop
  | done  : e.chance.hailed = true → Interrupts [] e
  | now   : e.Disturbs step → Interrupts (step :: steps) e
  | later : Interrupts steps e.next → Interrupts (step :: steps) e

-- The listener is not looked at from the signals sent in this time until the job can go on.
structure Unseen (e : Executor α) (step : Unfinished) : Prop where
  hailed : e.chance.hailed = false
  poll   : step.signals = true → e.chance.early = true ∧ e.turnsLater = 0
  task   : .signal ∉ e.queue.take (e.turnsLater * turn)
  atOnce : e.chance.atOnce = true

-- The poll that can first see a signal is the one that finds the job ready to be finished.
inductive Ties : List Unfinished → Executor α → Prop
  | done  : e.chance.hailed = true → Ties [] e
  | last  : e.Disturbs step → e.Unseen step → Ties [step] e
  | later : ¬e.Disturbs step → Ties steps e.next → Ties (step :: steps) e

-- A signal is sent by what is done with the executor.
inductive Sends (e : Executor α) : Deed α → Prop
  | move     : Sends e (.move .signal)
  | waiting  : Interrupts job.unfinished e → Sends e (.run job)
  | finished : job.signals = true → Sends e (.run job)

-- Some tasks were run, first come, first served. The others are still there.
def Advances (e e' : Executor α) : Prop :=
  ∃ ran, e.queue = ran ++ e'.queue ∧ e'.appended = e.appended ++ ran.filterMap Task.value?

def act (e : Executor α) : Deed α → Executor α
  | .run job => (e.executeInPlace job).1
  | .spawn t => e.spawn t
  | .move m  => { e with board := e.board.move m }

-- The executor holds on to the first handle.
def Allows (e : Executor α) : Deed α → Prop
  | .run _ | .spawn _ => True
  | .move m           => e.board.Allows m ∧ m ≠ .dropHandle 0

-- A course of deeds, each of which was allowed when it was done.
inductive Reaches (e : Executor α) : List (Deed α) → Executor α → Prop
  | refl : Reaches e [] e
  | act  : Reaches e ds e₁ → e₁.Allows d → Reaches e (ds ++ [d]) (e₁.act d)

-- A signal is sent in a course of deeds.
inductive Sent : List (Deed α) → Executor α → Prop
  | now   : e.Sends d → Sent (d :: ds) e
  | later : Sent ds (e.act d) → Sent (d :: ds) e

-- An executor at the start, whatever its chances will be. Its first listener stays.
def start (chances : List Chance) : Executor α :=
  { (new (α := α)).1 with chances }

end Executor

end Shutdown

end EngineBench
