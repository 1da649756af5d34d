import EngineBench.Live.Sink

namespace EngineBench

-- How a client goes about its work, which is laid down beforehand.
structure Manner where
  -- what it writes as soon as it is there, and what it writes at its end
  early : List UInt8
  rest  : List UInt8
  -- what becomes of feeding it, unless it neither reads its input nor closes it
  taken : Option (Except OsError Nat)
  -- how it ends, unless it never does
  fate  : Option ExitStatus

inductive Condition
  | running
  | ended (exit : Duration) (status : ExitStatus)
  | killed
  deriving DecidableEq, Repr

namespace Condition

def exit? : Condition → Option (Duration × ExitStatus)
  | ended exit status => some (exit, status)
  | _ => none

def kill : Condition → Condition
  | running => killed
  | condition => condition

end Condition

-- A place where clients work one at a time.
structure Workshop where
  now       : Duration
  sink      : List UInt8
  handle    : Option FileHandle
  -- those who are still to come
  coming    : List Manner
  -- the number of the latest one, and how it goes about its work
  pid       : Pid
  manner    : Manner
  condition : Condition
  -- whether it writes to the sink, and what it has written
  toSink    : Bool
  written   : List UInt8
  fed?      : Option Duration
  -- whether a signal came in the latest wait
  hailed    : Bool

namespace Workshop

-- A workshop to which nobody has come yet.
def opened (coming : List Manner) : Workshop where
  now := .zero
  sink := []
  handle := none
  coming := coming
  pid := 0
  manner := ⟨[], [], none, none⟩
  condition := .killed
  toSink := false
  written := []
  fed? := none
  hailed := false

def scene (w : Workshop) : Scene where
  now := w.now
  sink := w.sink
  handle := w.handle
  output pid := if pid = w.pid then w.written else []
  runs pid := pid = w.pid ∧ w.condition = .running
  writes pid := (pid = w.pid ∧ w.condition = .running) ∧ w.toSink
  fed? pid := if pid = w.pid then w.fed? else none
  exit? pid := if pid = w.pid then w.condition.exit? else none

-- Whatever is waited for takes a nanosecond at least.
def tick (w : Workshop) : Workshop :=
  { w with now := ⟨w.now.nanos + 1⟩ }

-- Nothing has come yet of what is asked next.
def calm (w : Workshop) : Workshop :=
  { w with hailed := false }

-- A wait that comes to nothing. Without a timer, nothing but a signal ends it.
def inVain {α : Type} (w : Workshop) : (timer : Option Timer) → Awaited timer α × Workshop
  | none => (.cancelled, { w.tick with hailed := true })
  | some timer =>
    (.late timer (Parting.own timer), { w with now := Duration.max w.tick.now timer.deadline })

def write (w : Workshop) (bytes : List UInt8) : Workshop :=
  { w with
    written := w.written ++ bytes
    sink := if w.toSink then w.sink ++ bytes else w.sink }

-- The next one comes.
def employ (w : Workshop) (manner : Manner) (coming : List Manner) (output : Host.Output) :
    Workshop :=
  let w := { w with
    coming, manner
    pid := w.pid + 1
    condition := .running
    toSink := w.handle.map Host.Output.file = some output
    written := []
    fed? := none }
  w.write manner.early

def spawn (w : Workshop) (command : Host.Command) : Except OsError Pid × Workshop :=
  match w.coming with
  | manner :: coming =>
    if w.condition = .running then (.error .textBusy, w)
    else (.ok (w.pid + 1), w.employ manner coming command.output)
  | [] => (.error .notFound, w)

def feed (w : Workshop) (timer : Option Timer) : Awaited timer (Except OsError Nat) × Workshop :=
  if w.condition = .running then
    match w.manner.taken with
    | some taken => (.ready taken, { w.tick with fed? := some w.tick.now })
    | none => w.inVain timer
  else (.ready (.error .brokenPipe), w)

def awaitExit (w : Workshop) (timer : Option Timer) :
    Awaited timer (Except OsError ExitStatus) × Workshop :=
  match w.condition with
  | .running =>
    match w.manner.fate with
    | some status =>
      (.ready (.ok status),
        { w.tick.write w.manner.rest with condition := .ended w.tick.now status })
    | none => w.inVain timer
  | .ended _ status => (.ready (.ok status), w)
  | .killed => (.ready (.error .invalidArgument), w)

def kill (w : Workshop) : Workshop :=
  { w with condition := w.condition.kill }

def poll (w : Workshop) : Option ExitStatus :=
  w.condition.exit?.map (·.2)

def respond (workloads : List Path) (sink : Path) :
    (r : Host.Request) → Workshop → r.Answer × Workshop
  | .isThere path, w => (workloads.contains path, w)
  | .remove _, w => (.error .denied, w)
  | .openInput path, w =>
    (.ready (if workloads.contains path then .ok (workloads.idxOf path) else .error .notFound), w)
  | .createOutput path, w =>
    if path = sink then
      (.ok workloads.length, { w with sink := [], handle := some workloads.length })
    else (.error .denied, w)
  | .length path, w => (if path = sink then .ok w.sink.length else .error .notFound, w)
  | .spawn command, w => w.spawn command
  | .poll pid, w => (if pid = w.pid then .ok w.poll else .error .invalidArgument, w)
  | .kill pid, w => (.ok (), if pid = w.pid then w.kill else w)
  | .release pid, w => ((), if pid = w.pid then w.kill else w)
  | .now, w => (w.now, w)
  | .sleep d, w => (.ready (), { w with now := ⟨w.now.nanos + d.nanos⟩ })
  | .feed pid _ timer, w =>
    if pid = w.pid then w.feed timer else (.ready (.error .brokenPipe), w)
  | .awaitExit pid timer, w =>
    if pid = w.pid then w.awaitExit timer else (.ready (.error .invalidArgument), w)

-- A host with some workloads and one sink.
def host (workloads : List Path) (sink : Path) : Host Workshop where
  respond r w := respond workloads sink r w.calm
  interrupted := hailed
  log _ w := w
  print _ w := w

end Workshop

end EngineBench
