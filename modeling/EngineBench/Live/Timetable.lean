import EngineBench.Live.Journal

namespace EngineBench

-- A server that ends at some instant or never, while its socket comes and goes.
structure Timetable where
  -- when the server ends, and how
  exit? : Option (Duration × ExitStatus)
  -- whether the socket is there at an instant
  socket : Duration → Bool

namespace Timetable

-- How the server has ended, if it has.
def ended? (tt : Timetable) (t : Duration) : Option ExitStatus :=
  match tt.exit? with
  | some (exit, status) => if exit ≤ t then some status else none
  | none => none

-- What is decided by one look at the server.
def verdict? (tt : Timetable) (path : Path) (timer : Timer) (t : Duration) :
    Option (Except Fault Unit) :=
  match tt.ended? t with
  | some status => some (.error (Server.notReady (.exitedEarly status)))
  | none =>
    if tt.socket t then some (.ok ())
    else if timer.deadline ≤ t then
      some (.error (Server.notReady (.noSocket path timer.limit)))
    else none

-- A host that shows one process by its timetable. It refuses everything else.
def respond (tt : Timetable) : (r : Host.Request) → Duration → r.Answer × Duration
  | .isThere _, t => (tt.socket t, t)
  | .remove _, t => (.error .denied, t)
  | .openInput _, t => (.ready (.error .denied), t)
  | .createOutput _, t => (.error .denied, t)
  | .length _, t => (.error .denied, t)
  | .spawn _, t => (.error .denied, t)
  | .poll _, t => (.ok (tt.ended? t), t)
  | .kill _, t => (.error .denied, t)
  | .release _, t => ((), t)
  | .now, t => (t, t)
  | .sleep d, t => (.ready (), ⟨t.nanos + d.nanos⟩)
  | .feed .., t => (.ready (.error .denied), t)
  | .awaitExit .., t => (.ready (.error .denied), t)

def host (tt : Timetable) : Host Duration where
  respond := tt.respond
  interrupted _ := false
  log _ t := t
  print _ t := t

end Timetable

namespace Host

variable {σ : Type}

-- Looking takes no time, nor does telling, and a pause takes at least as long as it was asked to.
-- An interrupt may come, as long as it cuts no pause short.
structure Follows (h : Host σ) (clock : σ → Duration) (pid : Pid) (path : Path) (tt : Timetable) :
    Prop where
  now     : ∀ w, (h.respond .now w).1 = clock w ∧ clock (h.respond .now w).2 = clock w
  poll    : ∀ w, (h.respond (.poll pid) w).1 = .ok (tt.ended? (clock w)) ∧
    clock (h.respond (.poll pid) w).2 = clock w
  isThere : ∀ w, (h.respond (.isThere path) w).1 = tt.socket (clock w) ∧
    clock (h.respond (.isThere path) w).2 = clock w
  sleep   : ∀ d w, (h.respond (.sleep d) w).1 = .ready () ∧
    (clock w).nanos + d.nanos ≤ (clock (h.respond (.sleep d) w).2).nanos
  log     : ∀ records w, clock (h.log records w) = clock w
  print   : ∀ text w, clock (h.print text w) = clock w

namespace Exchange

-- The instant that the clock showed.
def clock? : Exchange → Option Duration
  | ⟨.now, t⟩ => some t
  | _ => none

-- How long a pause was asked for.
def slept? : Exchange → Option Duration
  | ⟨.sleep d, _⟩ => some d
  | _ => none

-- The process that was looked at.
def polled? : Exchange → Option Pid
  | ⟨.poll pid, _⟩ => some pid
  | _ => none

end Exchange

end Host

-- A pause, and the instant of the look before it.
structure Pause where
  start : Duration
  length : Duration
  deriving DecidableEq, Repr

end EngineBench
