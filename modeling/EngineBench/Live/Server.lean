import EngineBench.Live.Config
import EngineBench.Live.Session

namespace EngineBench

namespace Server

open Session

variable {σ : Type}

def firstPause : Nat := 10000000

def longestPause : Nat := 500000000

-- How long a pause may be, which is never nothing.
structure Backoff where
  nanos : Nat
  pos : 0 < nanos

namespace Backoff

theorem first_pos : 0 < firstPause := by decide

theorem next_pos (b : Backoff) : 0 < min (2 * b.nanos) longestPause := by
  have h := b.pos
  simp only [longestPause]
  omega

def first : Backoff := ⟨firstPause, first_pos⟩

-- Twice as long each time, up to a limit.
def next (b : Backoff) : Backoff := ⟨min (2 * b.nanos) longestPause, b.next_pos⟩

-- Never past the time that is left.
def pause (b : Backoff) (left : Nat) : Nat :=
  min b.nanos left

theorem pause_pos {b : Backoff} {left : Nat} (h : 0 < left) : 0 < b.pause left := by
  have hb := b.pos
  simp only [pause]
  omega

end Backoff

def removeIfThere (h : Host σ) (path : Path) : Action (Session σ) Unit := do
  match ← ask h (.remove path) with
  | .ok () | .error .notFound => return
  | .error e => Action.fail (.cannotRemove path e)

def notReady (reason : LaunchFault) : Fault :=
  .launch Role.server.name reason

-- One look at the server: it has ended, or it is ready, or neither yet.
def look (h : Host σ) (pid : Pid) (socket : Path) : Action (Session σ) Bool := do
  match ← allowed .cannotPoll (← ask h (.poll pid)) with
  | some status => Action.fail (notReady (.exitedEarly status))
  | none => ask h (.isThere socket)

-- Looks after the server at `now`, and again after each pause until the timer is over. A pause
-- takes at least as long as it was asked to.
def awaitReady (h : Host σ) (pid : Pid) (socket : Path) (timer : Timer) (b : Backoff) (now : Nat) :
    Action (Session σ) Unit := do
  if ← look h pid socket then
    note h (.info "Server ready")
  else if _late : timer.deadline.nanos ≤ now then
    Action.fail (notReady (.noSocket socket timer.limit))
  else
    let d := b.pause (timer.deadline.nanos - now)
    settled h (← ask h (.sleep ⟨d⟩))
    let clock ← ask h .now
    awaitReady h pid socket timer b.next (max (now + d) clock.nanos)
termination_by timer.deadline.nanos - now
decreasing_by
  have : 0 < b.pause (timer.deadline.nanos - now) := Backoff.pause_pos (by omega)
  omega

def command (c : Config) : Host.Command where
  program := c.serverBin
  args := c.serverArgs
  dir := c.engineDir
  fed := false
  output := .collected

def untilReady (h : Host σ) (c : Config) (pid : Pid) : Action (Session σ) Unit := do
  note h (.trace "Waiting for the server to start")
  let now ← ask h .now
  let timer ← Action.ofBreach (Timer.after now c.readyTimeout)
  awaitReady h pid c.socketPath timer .first now.nanos

-- Starts a server and waits until it is ready. A socket left over from before is removed first.
def launch (h : Host σ) (c : Config) : Action (Session σ) Server := do
  if ← ask h (.isThere c.socketPath) then
    note h (.debug s!"Removing leftover server socket '{c.socketPath}'")
    removeIfThere h c.socketPath
  note h (.info s!"Starting the server '{c.serverBin}'")
  let pid ← allowed (fun e => notReady (.refused e)) (← ask h (.spawn (command c)))
  releasingOnFailure h pid (untilReady h c pid)
  return ⟨pid, none⟩

-- Waits for the server to end, at most until the timer is over.
def awaitExit (h : Host σ) (timer : Option Timer) (server : Server) :
    Action (Session σ) Server := do
  match server.status with
  | some _ => return server
  | none =>
    match ← settle h (← ask h (.awaitExit server.pid timer)) with
    | .error _ => return server
    | .ok status =>
      return { server with status := some (← allowed (.cannotWait .server) status) }

-- Waits for the server to end, at most for a while.
def awaitExitFor (h : Host σ) (limit : Duration) (server : Server) :
    Action (Session σ) Server := do
  let now ← ask h .now
  awaitExit h (Timer.after? now limit) server

-- Kills the server and waits for its end, unless that has been waited for before.
def terminate (h : Host σ) (server : Server) : Action (Session σ) Server := do
  note h (.warn "Killing the server")
  match server.status with
  | some _ => return server
  | none =>
    allowed .cannotKill (← ask h (.kill server.pid))
    let status ← settled h (← ask h (.awaitExit server.pid none))
    return { server with status := some (← allowed .cannotKill status) }

def removeSocket (h : Host σ) (c : Config) : Action (Session σ) Unit :=
  removeIfThere h c.socketPath

end Server

end EngineBench
