import EngineBench.Live.Config
import EngineBench.Live.Session

namespace EngineBench

namespace Client

open Session

variable {σ : Type}

def command (c : Config) (output : Host.Output) : Host.Command where
  program := c.clientBin
  args := c.clientArgs
  dir := c.engineDir
  fed := true
  output := output

def spawn (h : Host σ) (c : Config) (output : Host.Output) : Action (Session σ) Pid := do
  allowed (fun e => .launch Role.client.name (.refused e))
    (← ask h (.spawn (command c output)))

def awaitExit (h : Host σ) (pid : Pid) (timer : Option Timer) :
    Action (Session σ) (Except Timer ExitStatus) := do
  match ← settle h (← ask h (.awaitExit pid timer)) with
  | .error t => return .error t
  | .ok status => return .ok (← allowed (.cannotWait .client) status)

-- What becomes of feeding a workload. A client may stop reading before its end, and tells by its
-- exit status what that means.
def feedWorkload (h : Host σ) : Except OsError Nat → Action (Session σ) Unit
  | .ok bytes => note h (.trace s!"Wrote {bytes} bytes of workload to the client")
  | .error .brokenPipe => note h (.debug "Client stopped reading its workload early")
  | .error e => Action.fail (.cannotFeed e)

-- Feeds a client and waits for its end, both within the time of one timer.
def exchange (h : Host σ) (pid : Pid) (input : FileHandle) (timer : Option Timer) :
    Action (Session σ) (Except Timer ExitStatus) := do
  match ← settle h (← ask h (.feed pid (.file input) timer)) with
  | .error t => return .error t
  | .ok fed =>
    feedWorkload h fed
    awaitExit h pid timer

def sinkLength (h : Host σ) (c : Config) : Action (Session σ) Nat := do
  allowed (.cannotReadSink c.sinkPath) (← ask h (.length c.sinkPath))

def timerFor (h : Host σ) (c : Config) : Action (Session σ) (Option Timer) := do
  match c.clientTimeout with
  | none => return none
  | some limit => return Timer.after? (← ask h .now) limit

def lateText (path : Path) (t : Timer) : String :=
  s!"Client running '{path}' did not finish within {t.limit}, killing it"

def serve (h : Host σ) (c : Config) (path : Path) (input : FileHandle) (pid : Pid) :
    Action (Session σ) Invocation := do
  match ← exchange h pid input (← timerFor h c) with
  | .ok status =>
    return { exitCode := status.code?, bytesWritten := ← sinkLength h c, timedOut := false }
  | .error t =>
    note h (.warn (lateText path t))
    return { exitCode := none, bytesWritten := ← sinkLength h c, timedOut := true }

-- Runs a client over a workload, with its output in the sink. The workload is opened before the
-- sink is emptied.
def run (h : Host σ) (c : Config) (workload : Path) : Action (Session σ) Invocation := do
  let path := c.workloadPath workload
  let opened ← settled h (← ask h (.openInput path))
  let input ← allowed (.cannotOpenWorkload path) opened
  let sink ← allowed (.cannotCreateSink c.sinkPath) (← ask h (.createOutput c.sinkPath))
  note h (.trace s!"Running client with workload '{path}'")
  let pid ← spawn h c (.file sink)
  releasing h pid (serve h c path input pid)

def judge (h : Host σ) (command : String) (status : ExitStatus) : Action (Session σ) Unit :=
  if status.success then return
  else note h (.warn s!"Client sending '{command}' exited with {status}")

def offer (h : Host σ) (command : String) (pid : Pid) (timer : Option Timer) :
    Action (Session σ) (Except Timer Unit) := do
  match ← settle h (← ask h (.feed pid (.text (command ++ "\n")) timer)) with
  | .error t => return .error t
  | .ok fed =>
    if let .error e := fed then
      note h (.debug s!"Client stopped reading before the command was written: {e.message}")
    match ← awaitExit h pid timer with
    | .error t => return .error t
    | .ok status =>
      judge h command status
      return .ok ()

-- Sends one command line through a client of its own.
def send (h : Host σ) (c : Config) (command : String) (timer : Option Timer) :
    Action (Session σ) (Except Timer Unit) := do
  note h (.trace s!"Sending '{command}' to the server")
  let pid ← spawn h c .nowhere
  releasing h pid (offer h command pid timer)

end Client

end EngineBench
