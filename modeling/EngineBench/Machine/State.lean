import EngineBench.Files.Edit
import EngineBench.Live.Host
import EngineBench.Shell.Expansion

namespace EngineBench

namespace Machine

inductive Stream
  | node (id : NodeId)
  | pipeRead (id : Nat)
  | pipeWrite (id : Nat)
  -- nothing to read, and what is written is gone
  | nowhere
  -- the error stream that all share
  | aside
  -- output that someone outside the machine reads
  | collected (id : Nat)
  deriving DecidableEq, Repr

-- What a stream is open for.
inductive Use
  | reading | writing | appending
  deriving DecidableEq, Repr

-- An open stream; processes that share it share the place in it.
structure Opening where
  stream : Stream
  offset : Nat
  use : Use
  deriving DecidableEq, Repr

abbrev OpeningId := Nat

structure Pipe where
  content : ByteArray
  -- So many bytes at the front of the content have been read.
  taken : Nat
  -- Whether someone outside the machine still holds the writing end.
  heldOutside : Bool

namespace Pipe

-- The bytes that wait to be read, but no more than `most` of them.
def next (most : Nat) (p : Pipe) : ByteArray :=
  p.content.extract p.taken (p.taken + most)

def take (n : Nat) (p : Pipe) : Pipe :=
  { p with taken := p.taken + n }

def add (bytes : ByteArray) (p : Pipe) : Pipe :=
  { p with content := p.content.extract p.taken p.content.size ++ bytes, taken := 0 }

end Pipe

-- Output that is read outside line by line. A line that is no text is the last one read.
structure Output where
  -- The line that has not been ended yet.
  line : ByteArray
  -- When reading ends, once that is known.
  until? : Option Nat

-- The open streams of a process by number.
abbrev Descriptors := List (Nat × OpeningId)

-- Variables to be given back, with the values they had.
abbrev Saved := List (String × Option String)

-- What a shell has left to do.
inductive Frame
  -- The status is that of the last command whose output went into the words.
  | exec (c : Shell.Command) (captured : Option Nat)
  | onSuccess (c : Shell.Command)
  | onFailure (c : Shell.Command)
  | invert
  | choose (yes no : Shell.Command)
  | loopTest (untilTrue : Bool) (test body : Shell.Command) (last : Nat)
  | loopBody (untilTrue : Bool) (test body : Shell.Command)
  | eachNext (name : String) (values : List String) (body : Shell.Command)
  | restore (fds : Descriptors)
  | giveBack (saved : Saved)
  -- the end of a function, and the end of a file that was read in
  | returnTo (params : List String) (locals : Saved)
  | scriptEnd
  | gather (child : Pid) (opening : OpeningId) (read : String) (c : Shell.Command)
  | await (pids : List Pid)
  | awaitJobs (pids : List Pid) (reported : Option Pid)
  | readLine (names : List String) (separators : List Char) (plain : Bool) (opening : OpeningId)
      (read : String)
  | resume (status : Nat)
  | leave (status : Nat)

structure Interpreter where
  frames : List Frame
  env : Shell.Env
  functions : List (String × Shell.Command)
  -- what to do at a signal, and at the end under the number zero
  traps : List (Nat × String)
  pending : List Nat
  stopsAtFailure : Bool
  -- whether its last command takes its place
  yields : Bool

inductive Activity
  | shell (s : Interpreter)
  | tool (name : String) (args : List String) (read : String)
  | sleeper (due : Nat)
  | stopped

-- What a process waits for.
inductive Wait
  | children (pids : List Pid)
  | data (opening : OpeningId)
  deriving DecidableEq, Repr

structure Process where
  pid : Pid
  parent : Pid
  -- not before this moment does it take its next step
  wake : Nat
  wait : Option Wait
  activity : Activity
  fds : Descriptors
  cwd : NodeId
  vars : List (String × String)

-- What appeared on the terminal, in order.
inductive Said
  | logged (r : Log.Record)
  | printed (s : String)
  | aside (bytes : ByteArray)

end Machine

-- Time is in nanoseconds.
structure Machine where
  files : Files
  home : NodeId
  vars : List (String × String)
  now : Nat
  live : List Machine.Process
  ended : List (Pid × ExitStatus)
  openings : Array Machine.Opening
  pipes : Array Machine.Pipe
  outputs : Array Machine.Output
  inputs : List (Pid × Nat)
  nextPid : Pid
  interrupted : Bool
  said : List Machine.Said

namespace Machine

-- The process that is not on the machine: the one that uses it.
def outside : Pid := 2

def firstPid : Pid := 1000

-- The clock does not begin at zero.
def firstMoment : Nat := 3600000000000

def status? (m : Machine) (pid : Pid) : Option ExitStatus :=
  m.ended.lookup pid

def opening? (m : Machine) (o : OpeningId) : Option Opening :=
  m.openings[o]?

def open_ (s : Stream) (use : Use) (m : Machine) : Machine × OpeningId :=
  ({ m with openings := m.openings.push ⟨s, 0, use⟩ }, m.openings.size)

def setOpening (o : OpeningId) (v : Opening) (m : Machine) : Machine :=
  { m with openings := m.openings.setIfInBounds o v }

-- A pipe with its reading end and its writing end.
def addPipe (heldOutside : Bool) (m : Machine) : Machine × OpeningId × OpeningId :=
  let pipe := m.pipes.size
  let m := { m with pipes := m.pipes.push ⟨.empty, 0, heldOutside⟩ }
  let (m, r) := m.open_ (.pipeRead pipe) .reading
  let (m, w) := m.open_ (.pipeWrite pipe) .writing
  (m, r, w)

-- A stream to which output is written that is read outside.
def addOutput (m : Machine) : Machine × OpeningId :=
  let output := m.outputs.size
  { m with outputs := m.outputs.push ⟨.empty, none⟩ }.open_ (.collected output) .writing

-- A stream from which a text is read.
def addText (bytes : ByteArray) (m : Machine) : Machine × OpeningId :=
  let pipe := m.pipes.size
  { m with pipes := m.pipes.push ⟨bytes, 0, false⟩ }.open_ (.pipeRead pipe) .reading

def find? (m : Machine) (pid : Pid) : Option Process :=
  m.live.find? (·.pid = pid)

def without (pid : Pid) (m : Machine) : Machine :=
  { m with live := m.live.filter (·.pid ≠ pid) }

def put (p : Process) (m : Machine) : Machine :=
  { m with live := m.live.map fun q => if q.pid = p.pid then p else q }

def addProcess (p : Process) (m : Machine) : Machine :=
  { m with live := m.live ++ [p], nextPid := m.nextPid + 1 }

-- Ends a process, unless it has ended before.
def finish (pid : Pid) (status : ExitStatus) (m : Machine) : Machine :=
  match m.find? pid with
  | none => m
  | some _ => { m.without pid with ended := (pid, status) :: m.ended }

def say (s : Said) (m : Machine) : Machine :=
  { m with said := m.said ++ [s] }

end Machine

end EngineBench
