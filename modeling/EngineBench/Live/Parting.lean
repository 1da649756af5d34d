import EngineBench.Live.Client
import EngineBench.Live.Server
import EngineBench.Live.Timetable

namespace EngineBench

-- An instant, and when and how a server has ended by itself until then, if it has.
structure Instant where
  now : Duration
  exit? : Option (Duration × ExitStatus)

namespace Instant

def EndedBy (m : Instant) (t : Duration) : Prop :=
  ∃ exit status, m.exit? = some (exit, status) ∧ exit ≤ t

-- Time goes on, an end is for good, and no end of the past comes out later.
structure Before (m m' : Instant) : Prop where
  onward : m.now ≤ m'.now
  stays  : ∀ t, m.EndedBy t → m'.EndedBy t
  known  : ∀ t, t ≤ m.now → m'.EndedBy t → m.EndedBy t

end Instant

namespace Host

variable {σ : Type}

namespace Request

-- Whether the host may take its time to answer.
def waits : Request → Bool
  | sleep _ => true
  | openInput _ => true
  | feed .. => true
  | awaitExit .. => true
  | _ => false

def timer? : Request → Option Timer
  | feed _ _ timer => timer
  | awaitExit _ timer => timer
  | _ => none

end Request

-- A host on which no wait for a process is cut short, and on which a wait with a timer tells
-- whether the server has ended.
structure Attends (h : Host σ) (view : σ → Instant) (server : Pid) : Prop where
  now     : ∀ w, (h.respond .now w).1 = (view w).now ∧ view (h.respond .now w).2 = view w
  later   : ∀ r w, (view w).Before (view (h.respond r w).2)
  log     : ∀ records w, view (h.log records w) = view w
  print   : ∀ text w, view (h.print text w) = view w
  -- the server still has its number when another process is spawned
  fresh   : ∀ command w, (h.respond (.spawn command) w).1 ≠ .ok server
  fed     : ∀ pid food timer w, (h.respond (.feed pid food timer) w).1 ≠ .cancelled
  awaited : ∀ pid timer w, (h.respond (.awaitExit pid timer) w).1 ≠ .cancelled
  ended   : ∀ timer w status,
    (h.respond (.awaitExit server (some timer)) w).1 = .ready (.ok status) →
    let m := view (h.respond (.awaitExit server (some timer)) w).2
    m.EndedBy m.now
  late    : ∀ timer w t ht, (h.respond (.awaitExit server (some timer)) w).1 = .late t ht →
    let m := view (h.respond (.awaitExit server (some timer)) w).2
    timer.deadline ≤ m.now ∧ ¬m.EndedBy timer.deadline

-- Waits end with their timers, and nothing else takes time.
structure Punctual (h : Host σ) (view : σ → Instant) : Prop where
  prompt : ∀ r w, r.waits = false → (view (h.respond r w).2).now = (view w).now
  inTime : ∀ r timer w, r.timer? = some timer → (view w).now ≤ timer.deadline →
    (view (h.respond r w).2).now ≤ timer.deadline

namespace Exchange

def command? : Exchange → Option Command
  | ⟨.spawn command, _⟩ => some command
  | _ => none

-- The process that was fed, and what it was fed.
def offered? : Exchange → Option (Pid × Food)
  | ⟨.feed pid food _, _⟩ => some (pid, food)
  | _ => none

-- How long a process was waited for at most.
def limit? (pid : Pid) : Exchange → Option Duration
  | ⟨.awaitExit pid' (some timer), _⟩ => if pid' = pid then some timer.limit else none
  | _ => none

-- The refusals that make a stop fail, and the faults they lead to.
inductive Foils (server : Pid) : Exchange → Fault → Prop
  | launch : Foils server ⟨.spawn command, .error e⟩ (.launch Role.client.name (.refused e))
  | client : pid ≠ server →
    Foils server ⟨.awaitExit pid timer, .ready (.error e)⟩ (.cannotWait .client e)
  | server : Foils server ⟨.awaitExit server timer, .ready (.error e)⟩ (.cannotWait .server e)
  | kill : Foils server ⟨.kill server, .error e⟩ (.cannotKill e)
  | killed : Foils server ⟨.awaitExit server none, .ready (.error e)⟩ (.cannotKill e)
  | socket : e ≠ .notFound → Foils server ⟨.remove path, .error e⟩ (.cannotRemove path e)

end Exchange

end Host

-- When and how a server and the client that tells it to end will end, if they will.
structure Parting where
  server : Option (Duration × ExitStatus)
  client : Option (Duration × ExitStatus)

namespace Parting

-- The server was there before, and the client is spawned last.
def serverPid : Pid := 0

def clientPid : Pid := 1

def exit? (p : Parting) (pid : Pid) : Option (Duration × ExitStatus) :=
  if pid = serverPid then p.server else p.client

def instant (p : Parting) (t : Duration) : Instant :=
  ⟨t, p.server.filter (·.1 ≤ t)⟩

-- A wait is late for the timer it has.
theorem own (timer : Timer) : some timer = some timer :=
  rfl

-- A process that has ended is found so even if the timer was over before.
def awaitEnd (exit? : Option (Duration × ExitStatus)) (timer : Timer) (t : Duration) :
    Awaited (some timer) (Except OsError ExitStatus) × Duration :=
  let last := Duration.max t timer.deadline
  match exit? with
  | some (exit, status) =>
    if exit ≤ last then (.ready (.ok status), Duration.max t exit)
    else (.late timer (own timer), last)
  | none => (.late timer (own timer), last)

-- A process that is waited for without a timer has been killed.
def awaitExit (p : Parting) (pid : Pid) (t : Duration) : (timer : Option Timer) →
    Awaited timer (Except OsError ExitStatus) × Duration
  | some timer => awaitEnd (p.exit? pid) timer t
  | none => (.ready (.ok (.signal 9)), t)

-- The client does not read its command, and the server takes its socket away when it ends.
def respond (p : Parting) : (r : Host.Request) → Duration → r.Answer × Duration
  | .isThere _, t => ((p.instant t).exit?.isNone, t)
  | .remove _, t => (if (p.instant t).exit?.isNone then .ok () else .error .notFound, t)
  | .openInput _, t => (.ready (.error .denied), t)
  | .createOutput _, t => (.error .denied, t)
  | .length _, t => (.error .denied, t)
  | .spawn _, t => (.ok clientPid, t)
  | .poll pid, t => (.ok (((p.exit? pid).filter (·.1 ≤ t)).map (·.2)), t)
  | .kill _, t => (.ok (), t)
  | .release _, t => ((), t)
  | .now, t => (t, t)
  | .sleep d, t => (.ready (), ⟨t.nanos + d.nanos⟩)
  | .feed .., t => (.ready (.error .brokenPipe), t)
  | .awaitExit pid timer, t => p.awaitExit pid t timer

-- Waits for these two last until they end or the timer is over, and nothing but a pause takes time
-- besides.
def host (p : Parting) : Host Duration where
  respond := p.respond
  interrupted _ := false
  log _ t := t
  print _ t := t

end Parting

end EngineBench
