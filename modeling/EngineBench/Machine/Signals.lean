import EngineBench.Machine.State

namespace EngineBench

namespace Machine

namespace Signal

def interrupt : Nat := 2

def kill : Nat := 9

def brokenPipe : Nat := 13

-- Signals that nobody minds.
def harmless : List Nat := [17, 18, 23, 28]

-- Signals that hold a process up.
def halting : List Nat := [19, 20, 21, 22]

-- The names of signals as a shell has them, without their first letters; the end of the shell
-- itself counts as one.
def names : List (Nat × String) :=
  (0, "EXIT") :: ExitStatus.signalNames.map fun (n, name) => (n, (name.drop 3).toString)

-- The number of a signal that is given by number.
def ofNumber? (s : String) : Option Nat :=
  s.toNat?.filter (· < 65)

-- The number of a signal, at least `least`, that is given by number or by name.
def ofName? (least : Nat) (s : String) : Option Nat :=
  (ofNumber? s).orElse fun _ =>
    (names.find? fun (n, name) => least ≤ n && name = s.toUpper).map (·.1)

def nameOf (signal : Nat) : String :=
  (names.lookup signal).getD (toString signal)

end Signal

namespace Interpreter

-- Whether a shell has said what a signal is to do.
def minds (s : Interpreter) (signal : Nat) : Bool :=
  s.traps.any (·.1 = signal)

def noting (signal : Nat) (s : Interpreter) : Interpreter :=
  if s.traps.lookup signal = some "" then s
  else { s with pending := s.pending ++ [signal] }

def awaitsJobs (s : Interpreter) : Bool :=
  match s.frames with
  | .awaitJobs .. :: _ => true
  | _ => false

end Interpreter

-- Sends a signal to a process on the machine.
def deliver (signal : Nat) (p : Process) (m : Machine) : Machine :=
  if signal = 0 then m
  else if signal = Signal.kill then m.finish p.pid (.signal signal)
  else match p.activity with
    | .shell s =>
      if s.minds signal then
        let wait := if s.awaitsJobs then none else p.wait
        m.put { p with activity := .shell (s.noting signal), wait }
      else byDefault
    | _ => byDefault
where
  byDefault : Machine :=
    if signal ∈ Signal.harmless then m
    else if signal ∈ Signal.halting then m.put { p with activity := .stopped }
    else m.finish p.pid (.signal signal)

-- Sends a signal to whoever has that number, if somebody has.
def signal? (signal : Nat) (pid : Pid) (m : Machine) : Option Machine :=
  if pid = outside then
    some (if signal = Signal.interrupt then { m with interrupted := true } else m)
  else (m.find? pid).map fun p => m.deliver signal p

end Machine

end EngineBench
