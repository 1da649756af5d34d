import EngineBench.Duration
import EngineBench.Log
import EngineBench.OsError
import EngineBench.Path

namespace EngineBench

abbrev Pid := Nat

-- An open file, by the number the host gave it.
abbrev FileHandle := Nat

-- A limit and the moment at which it is over.
structure Timer where
  limit : Duration
  deadline : Duration
  deriving DecidableEq, Repr

-- How waiting ended. Only a wait with a timer can be late, and any wait may be cut short once an
-- interrupt has come, be it in this wait or in an earlier one.
inductive Awaited (timer : Option Timer) (α : Type)
  | ready (a : α)
  | late (t : Timer) (h : timer = some t)
  | cancelled

namespace Host

-- Collected output is read line by line, up to a line that is no text, and thrown away.
inductive Output
  | collected
  | nowhere
  | file (handle : FileHandle)
  deriving DecidableEq, Repr

structure Command where
  program : Path
  args : List String
  dir : Path
  -- Whether the process reads what it is fed; otherwise it has nothing to read.
  fed : Bool
  output : Output
  deriving DecidableEq, Repr

inductive Food
  | file (handle : FileHandle)
  | text (s : String)
  deriving DecidableEq, Repr

inductive Request
  | isThere (path : Path)
  | remove (path : Path)
  | openInput (path : Path)
  | createOutput (path : Path)
  | length (path : Path)
  | spawn (command : Command)
  -- Looks whether a process has ended, without waiting.
  | poll (pid : Pid)
  | kill (pid : Pid)
  -- Lets go of a process: it is killed if it has not ended.
  | release (pid : Pid)
  | now
  | sleep (d : Duration)
  -- Writes to a process what it is to read, and closes; the answer counts the bytes.
  | feed (pid : Pid) (food : Food) (timer : Option Timer)
  | awaitExit (pid : Pid) (timer : Option Timer)
  deriving DecidableEq, Repr

namespace Request

@[reducible] def Answer : Request → Type
  | isThere _ => Bool
  | remove _ => Except OsError Unit
  | openInput _ => Awaited none (Except OsError FileHandle)
  | createOutput _ => Except OsError FileHandle
  | length _ => Except OsError Nat
  | spawn _ => Except OsError Pid
  | poll _ => Except OsError (Option ExitStatus)
  | kill _ => Except OsError Unit
  | release _ => Unit
  | now => Duration
  | sleep _ => Awaited none Unit
  | feed _ _ timer => Awaited timer (Except OsError Nat)
  | awaitExit _ timer => Awaited timer (Except OsError ExitStatus)

end Request

end Host

-- What a live engine needs of the system it runs on. Nothing is assumed of its answers but what
-- their types say.
structure Host (σ : Type) where
  respond : (r : Host.Request) → σ → r.Answer × σ
  -- Whether an interrupt came while the last wait lasted. The wait may have had its end in the same
  -- turn, so this says nothing of how it ended.
  interrupted : σ → Bool
  log : Log → σ → σ
  print : String → σ → σ

namespace Host

-- A request with its answer.
structure Exchange where
  request : Request
  answer : request.Answer

-- The same host, with a list of all exchanges.
def noting {σ : Type} (h : Host σ) : Host (List Exchange × σ) where
  respond r s :=
    let (a, world) := h.respond r s.2
    (a, s.1 ++ [⟨r, a⟩], world)
  interrupted s := h.interrupted s.2
  log records s := (s.1, h.log records s.2)
  print text s := (s.1, h.print text s.2)

end Host

end EngineBench
