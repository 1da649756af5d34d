import EngineBench.Live.Client
import EngineBench.Live.Server

namespace EngineBench

namespace Control

open Session

variable {σ : Type}

def isRunning (s : Session σ) : Bool :=
  s.server.isSome

-- Removes the file the server persists its state to. A file that is not there counts as
-- removed.
def resetState (h : Host σ) (c : Config) : Action (Session σ) Unit := do
  if isRunning (← get) then
    note h (.warn
      s!"Deleting '{c.statePath}' while the server is running, it may write it again")
  match ← ask h (.remove c.statePath) with
  | .ok () => note h (.info s!"Deleted persisted state '{c.statePath}'")
  | .error .notFound => note h (.debug s!"No persisted state at '{c.statePath}'")
  | .error e => Action.fail (.staleState c.statePath e.message)

def start (h : Host σ) (c : Config) : Action (Session σ) Unit := do
  if isRunning (← get) then
    note h (.warn "Server is already running, not starting another")
  else
    let server ← Server.launch h c
    modify fun s => { s with server := some server }

def sendToken (h : Host σ) (c : Config) (timer : Timer) : Action (Session σ) Unit := do
  match ← Client.send h c c.shutdownToken (some timer) with
  | .ok () => return
  | .error t =>
    note h (.warn
      s!"Client sending '{c.shutdownToken}' did not exit within {t.limit}, killing it")

-- The time between now and the end of a timer, or none.
def timeLeft (now : Duration) (t : Timer) : Duration :=
  ⟨t.deadline.nanos - now.nanos⟩

def endServer (h : Host σ) (c : Config) (timer : Timer) (server : Server) :
    Action (Session σ) Unit := do
  let left := timeLeft (← ask h .now) timer
  let server ← Server.awaitExitFor h left server
  match server.status with
  | some status => note h (.debug s!"Server exited with {status}")
  | none =>
    note h (.warn s!"Server did not exit within {c.stopTimeout} of '{c.shutdownToken}'")
    let _ ← Server.terminate h server
  Server.removeSocket h c

-- One timer covers both the client that sends the token and the server that ends.
def stopServer (h : Host σ) (c : Config) (server : Server) : Action (Session σ) Unit := do
  note h (.info "Stopping the server")
  let timer ← Action.ofBreach (Timer.after (← ask h .now) c.stopTimeout)
  sendToken h c timer
  endServer h c timer server

-- Whatever ends a stop, the server is no longer held after it.
def stop (h : Host σ) (c : Config) : Action (Session σ) Unit := do
  match (← get).server with
  | none => note h (.debug "Server is not running, nothing to stop")
  | some server =>
    modify fun s => { s with server := none }
    releasing h server.pid (stopServer h c server)

def runClient (h : Host σ) (c : Config) (scale : Scale) : Action (Session σ) Invocation := do
  let now ← ask h .now
  modify fun s => { s with clientStart := now }
  Client.run h c scale.workload

def elapsed (h : Host σ) (s : Session σ) : Duration × Session σ :=
  let (now, world) := h.respond .now s.world
  (⟨now.nanos - s.clientStart.nanos⟩, { s with world })

-- Whether the listener with that number has been told to shut down.
def shutdownSeen (listener : Nat) (s : Session σ) : Bool × Session σ :=
  let (board, seen) := s.board.check listener
  (seen, { s with board })

-- The engine that a host and a configuration make.
def engine (h : Host σ) (c : Config) (listener : Nat) : Engine (Session σ) where
  isRunning := isRunning
  resetState := resetState h c
  start := start h c
  stop := stop h c
  runClient := runClient h c
  elapsed := elapsed h
  shutdownSeen := shutdownSeen listener
  log records s := { s with world := h.log records s.world }
  print text s := { s with world := h.print text s.world }

end Control

end EngineBench
