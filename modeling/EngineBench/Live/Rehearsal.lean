import EngineBench.Live.Binary
import EngineBench.Live.Host

namespace EngineBench

-- A host for rehearsals. Its files are a socket that is there or not, and its processes do as they
-- are told, unless they are stubborn: then they end only by being killed.
structure Rehearsal where
  clock : Duration
  spawned : Nat
  socket : Bool
  -- why the socket is not removed
  refusal : Option OsError
  stubborn : Bool
  deriving DecidableEq, Repr

namespace Rehearsal

def blank : Rehearsal where
  clock := .zero
  spawned := 0
  socket := false
  refusal := none
  stubborn := false

def remove (s : Rehearsal) : Except OsError Unit × Rehearsal :=
  match s.socket, s.refusal with
  | false, _ => (.error .notFound, s)
  | true, some e => (.error e, s)
  | true, none => (.ok (), { s with socket := false })

-- A server makes the socket as soon as it is spawned.
def spawn (command : Host.Command) (s : Rehearsal) : Except OsError Pid × Rehearsal :=
  (.ok s.spawned, { s with spawned := s.spawned + 1, socket := s.socket || !command.fed })

def awaitExit (s : Rehearsal) (timer : Option Timer) :
    Awaited timer (Except OsError ExitStatus) :=
  if h : s.stubborn ∧ timer.isSome then .late (timer.get h.right) (Option.some_get h.right).symm
  else .ready (.ok (.code 0))

def respond : (r : Host.Request) → Rehearsal → r.Answer × Rehearsal
  | .isThere _, s => (s.socket, s)
  | .remove _, s => s.remove
  | .openInput _, s => (.ready (.ok 0), s)
  | .createOutput _, s => (.ok 0, s)
  | .length _, s => (.ok 0, s)
  | .spawn command, s => s.spawn command
  | .poll _, s => (.ok none, s)
  | .kill _, s => (.ok (), s)
  | .release _, s => ((), s)
  | .now, s => (s.clock, s)
  | .sleep d, s => (.ready (), { s with clock := ⟨s.clock.nanos + d.nanos⟩ })
  | .feed .., s => (.ready (.ok 0), s)
  | .awaitExit _ timer, s => (s.awaitExit timer, s)

def host : Host Rehearsal where
  respond := respond
  interrupted _ := false
  log _ s := s
  print _ s := s

-- A place where everything is where it is looked for.
def place : Surroundings where
  isThere _ := true
  isFile _ := true
  resolve := .ok
  readText _ := .error .notFound
  which := .ok
  override _ := none

end Rehearsal

end EngineBench
