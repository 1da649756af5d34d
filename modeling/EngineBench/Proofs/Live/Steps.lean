import EngineBench.Live.Control
import EngineBench.Proofs.Action

namespace EngineBench

namespace Host.Request

def isSpawn : Request → Bool
  | spawn _ => true
  | _ => false

end Host.Request

namespace Session

variable {σ τ α β : Type}

def spawned (h : Host σ) (command : Host.Command) (refused : OsError → Fault) :
    Action (Session σ) Pid := do
  allowed refused (← ask h (.spawn command))

-- Spawns a process for an activity, and lets go of it when the activity is over.
def lending (h : Host σ) (command : Host.Command) (refused : OsError → Fault)
    (f : Pid → Action (Session σ) α) : Action (Session σ) α := do
  let pid ← spawned h command refused
  releasing h pid (f pid)

-- Spawns a process that is to be kept if what comes next does not fail.
def keeping (h : Host σ) (command : Host.Command) (refused : OsError → Fault)
    (f : Pid → Action (Session σ) Unit) : Action (Session σ) Server := do
  let pid ← spawned h command refused
  releasingOnFailure h pid (f pid)
  return ⟨pid, none⟩

section

variable {h : Host σ} {pid : Pid} {x : Action (Session σ) α} {s : Session σ}
  {Q : α → Session σ → Prop} {E : Abort → Session σ → Prop}

theorem releasing_ends (hx : x.Ends s (fun a s' => Q a (s'.release h pid))
    (fun e s' => E e (s'.release h pid))) : (releasing h pid x).Ends s Q E := by
  simp only [Action.Ends, releasing] at *
  cases hr : x s <;> simpa only [hr] using hx

theorem releasingOnFailure_ends (hx : x.Ends s Q (fun e s' => E e (s'.release h pid))) :
    (releasingOnFailure h pid x).Ends s Q E := by
  simp only [Action.Ends, releasingOnFailure] at *
  cases hr : x s <;> simpa only [hr] using hx

end

-- What is done in sessions is made of requests, records, interrupts that are heeded and processes
-- that are lent. A relation between what is done in two sessions that is passed on by sequences,
-- and holds of every step but a breach, holds of all that is done without one.
structure RelatesFaults (R : (α : Type) → Action (Session τ) α → Action (Session σ) α → Prop)
    (h₁ : Host τ) (h₂ : Host σ) : Prop where
  pure      : ∀ {α : Type} (a : α), R α (pure a) (pure a)
  bind      : ∀ {α β : Type} {x y f g}, R α x y → (∀ a, R β (f a) (g a)) →
    R β (x >>= f) (y >>= g)
  fail      : ∀ {α : Type} f, R α (Action.fail f) (Action.fail f)
  running   : ∀ {α : Type} {x x' y y'}, R α x x' → R α y y' →
    R α (get >>= fun s => if Control.isRunning s then x else y)
      (get >>= fun s => if Control.isRunning s then x' else y')
  clock     : ∀ t, R Unit (modify fun s => { s with clientStart := t })
    (modify fun s => { s with clientStart := t })
  ask       : ∀ r, r.isSpawn = false → R r.Answer (ask h₁ r) (ask h₂ r)
  note      : ∀ record, R Unit (note h₁ record) (note h₂ record)
  heed      : R Unit (heed h₁) (heed h₂)
  lending   : ∀ {α : Type} command refused {f : Pid → Action (Session τ) α}
    {g : Pid → Action (Session σ) α}, (∀ pid, R α (f pid) (g pid)) →
    R α (lending h₁ command refused f) (lending h₂ command refused g)

structure Relates (R : (α : Type) → Action (Session τ) α → Action (Session σ) α → Prop)
    (h₁ : Host τ) (h₂ : Host σ) : Prop extends RelatesFaults R h₁ h₂ where
  throw : ∀ {α : Type} e, R α (throw e) (throw e)
  fail f := throw (.fault f)

variable {R : (α : Type) → Action (Session τ) α → Action (Session σ) α → Prop} {h₁ : Host τ}
  {h₂ : Host σ}

namespace RelatesFaults

variable (h : RelatesFaults R h₁ h₂)

include h

theorem allowed (toFault : OsError → Fault) :
    (x : Except OsError α) → R α (Session.allowed toFault x) (Session.allowed toFault x)
  | .ok _    => h.pure _
  | .error _ => h.fail _

theorem settle {timer : Option Timer} (x : Awaited timer α) :
    R (Except Timer α) (Session.settle h₁ x) (Session.settle h₂ x) := by
  refine h.bind h.heed fun _ => ?_
  cases x
  case ready     => exact h.pure _
  case late      => exact h.pure _
  case cancelled => exact h.fail _

theorem settled (x : Awaited none α) : R α (Session.settled h₁ x) (Session.settled h₂ x) := by
  refine h.bind h.heed fun _ => ?_
  cases x
  case ready      => exact h.pure _
  case late _ hn  => cases hn
  case cancelled  => exact h.fail _

end RelatesFaults

theorem Relates.ofBreach (h : Relates R h₁ h₂) :
    (x : Except Breach α) → R α (Action.ofBreach x) (Action.ofBreach x)
  | .ok _    => h.pure _
  | .error _ => h.throw _

end Session

namespace Server

open Session

variable {σ : Type}

-- What is done before a server is spawned.
def clear (h : Host σ) (c : Config) : Action (Session σ) Unit := do
  if ← ask h (.isThere c.socketPath) then
    note h (.debug s!"Removing leftover server socket '{c.socketPath}'")
    removeIfThere h c.socketPath
  note h (.info s!"Starting the server '{c.serverBin}'")

theorem launch_eq (h : Host σ) (c : Config) : launch h c = (do
    clear h c
    keeping h (command c) (fun e => notReady (.refused e)) (untilReady h c)) := by
  simp only [launch, clear, keeping, spawned, bind_assoc]
  congr 1
  funext present
  cases present <;> simp only [reduceIte, bind_assoc, Bool.false_eq_true]

end Server

open Session (Relates RelatesFaults)

variable {σ τ α β : Type} {R : (α : Type) → Action (Session τ) α → Action (Session σ) α → Prop}
  {h₁ : Host τ} {h₂ : Host σ} (h : RelatesFaults R h₁ h₂) (c : Config)

include h

namespace Server

theorem removeIfThere_relates (path : Path) :
    R Unit (removeIfThere h₁ path) (removeIfThere h₂ path) := by
  refine h.bind (h.ask _ rfl) fun answer => ?_
  split
  case h_1 => exact h.pure _
  case h_2 => exact h.pure _
  case h_3 => exact h.fail _

theorem look_relates (pid : Pid) (socket : Path) :
    R Bool (look h₁ pid socket) (look h₂ pid socket) := by
  refine h.bind (h.ask _ rfl) fun answer => h.bind (h.allowed _ _) fun status => ?_
  cases status
  case none   => exact h.ask (.isThere socket) rfl
  case some s => exact h.fail _

theorem awaitReady_relates (pid : Pid) (socket : Path) (timer : Timer) (b : Backoff) (now : Nat) :
    R Unit (awaitReady h₁ pid socket timer b now) (awaitReady h₂ pid socket timer b now) := by
  induction b, now using awaitReady.induct timer
  case case1 b now hi =>
    rw [awaitReady, awaitReady]
    refine h.bind (look_relates h _ _) fun ready => Action.related_ite (h.note _) ?_
    split
    case isTrue  => exact h.fail _
    case isFalse hl =>
      exact h.bind (h.ask _ rfl) fun _ => h.bind (h.settled _) fun _ =>
        h.bind (h.ask _ rfl) fun clock => hi hl clock

omit h in
theorem untilReady_relates (h : Relates R h₁ h₂) (c : Config) (pid : Pid) :
    R Unit (untilReady h₁ c pid) (untilReady h₂ c pid) :=
  h.bind (h.note _) fun _ => h.bind (h.ask _ rfl) fun _ => h.bind (h.ofBreach _) fun timer =>
    awaitReady_relates h.toRelatesFaults pid c.socketPath timer .first _

theorem clear_relates : R Unit (clear h₁ c) (clear h₂ c) := by
  have hs := h.note (.info s!"Starting the server '{c.serverBin}'")
  refine h.bind (h.ask _ rfl) fun present => Action.related_ite ?_ hs
  exact h.bind (h.note _) fun _ => h.bind (removeIfThere_relates h _) fun _ => hs

theorem awaitExit_relates (timer : Option Timer) (server : Server) :
    R Server (awaitExit h₁ timer server) (awaitExit h₂ timer server) := by
  simp only [awaitExit]
  cases server.status
  case some => exact h.pure _
  case none =>
    refine h.bind (h.ask _ rfl) fun _ => h.bind (h.settle _) fun exit => ?_
    cases exit
    case error => exact h.pure _
    case ok    => exact h.bind (h.allowed _ _) fun _ => h.pure _

theorem awaitExitFor_relates (limit : Duration) (server : Server) :
    R Server (awaitExitFor h₁ limit server) (awaitExitFor h₂ limit server) :=
  h.bind (h.ask _ rfl) fun _ => awaitExit_relates h _ server

theorem terminate_relates (server : Server) :
    R Server (terminate h₁ server) (terminate h₂ server) := by
  refine h.bind (h.note _) fun _ => ?_
  cases server.status
  case some => exact h.pure _
  case none =>
    exact h.bind (h.ask _ rfl) fun _ => h.bind (h.allowed _ _) fun _ =>
      h.bind (h.ask _ rfl) fun _ => h.bind (h.settled _) fun _ =>
      h.bind (h.allowed _ _) fun _ => h.pure _

end Server

namespace Client

theorem awaitExit_relates (pid : Pid) (timer : Option Timer) :
    R (Except Timer ExitStatus) (awaitExit h₁ pid timer) (awaitExit h₂ pid timer) := by
  refine h.bind (h.ask _ rfl) fun _ => h.bind (h.settle _) fun exit => ?_
  cases exit
  case error => exact h.pure _
  case ok    => exact h.bind (h.allowed _ _) fun _ => h.pure _

theorem feedWorkload_relates (fed : Except OsError Nat) :
    R Unit (feedWorkload h₁ fed) (feedWorkload h₂ fed) := by
  unfold feedWorkload
  split
  case h_1 => exact h.note _
  case h_2 => exact h.note _
  case h_3 => exact h.fail _

theorem exchange_relates (pid : Pid) (input : FileHandle) (timer : Option Timer) :
    R (Except Timer ExitStatus) (exchange h₁ pid input timer) (exchange h₂ pid input timer) := by
  refine h.bind (h.ask _ rfl) fun _ => h.bind (h.settle _) fun fed => ?_
  cases fed
  case error => exact h.pure _
  case ok    => exact h.bind (feedWorkload_relates h _) fun _ => awaitExit_relates h pid timer

theorem sinkLength_relates : R Nat (sinkLength h₁ c) (sinkLength h₂ c) :=
  h.bind (h.ask _ rfl) fun _ => h.allowed _ _

theorem timerFor_relates : R (Option Timer) (timerFor h₁ c) (timerFor h₂ c) := by
  unfold timerFor
  cases c.clientTimeout
  case none => exact h.pure _
  case some => exact h.bind (h.ask _ rfl) fun _ => h.pure _

theorem serve_relates (path : Path) (input : FileHandle) (pid : Pid) :
    R Invocation (serve h₁ c path input pid) (serve h₂ c path input pid) := by
  refine h.bind (timerFor_relates h c) fun timer =>
    h.bind (exchange_relates h pid input timer) fun exit => ?_
  cases exit
  case ok    => exact h.bind (sinkLength_relates h c) fun _ => h.pure _
  case error =>
    exact h.bind (h.note _) fun _ => h.bind (sinkLength_relates h c) fun _ => h.pure _

theorem run_relates (workload : Path) : R Invocation (run h₁ c workload) (run h₂ c workload) :=
  h.bind (h.ask _ rfl) fun _ => h.bind (h.settled _) fun _ => h.bind (h.allowed _ _) fun input =>
    h.bind (h.ask _ rfl) fun _ => h.bind (h.allowed _ _) fun _ => h.bind (h.note _) fun _ =>
    h.lending _ _ fun pid => serve_relates h c _ input pid

theorem judge_relates (command : String) (status : ExitStatus) :
    R Unit (judge h₁ command status) (judge h₂ command status) :=
  Action.related_ite (h.pure _) (h.note _)

theorem offer_relates (command : String) (pid : Pid) (timer : Option Timer) :
    R (Except Timer Unit) (offer h₁ command pid timer) (offer h₂ command pid timer) := by
  refine h.bind (h.ask _ rfl) fun _ => h.bind (h.settle _) fun fed => ?_
  cases fed
  case error => exact h.pure _
  case ok fed =>
    -- A client that did not take its command is waited for as well.
    cases fed
    case' error => refine h.bind (h.note _) fun _ => ?_
    all_goals
      refine h.bind (awaitExit_relates h pid timer) fun exit => ?_
      cases exit
      case error => exact h.pure _
      case ok    => exact h.bind (judge_relates h _ _) fun _ => h.pure _

theorem send_relates (command : String) (timer : Option Timer) :
    R (Except Timer Unit) (send h₁ c command timer) (send h₂ c command timer) :=
  h.bind (h.note _) fun _ => h.lending _ _ fun pid => offer_relates h command pid timer

end Client

namespace Control

theorem resetState_relates : R Unit (resetState h₁ c) (resetState h₂ c) := by
  refine h.running (h.bind (h.note _) fun _ => ?_) ?_
  all_goals
    refine h.bind (h.ask _ rfl) fun _ => ?_
    split
    case h_1 => exact h.note _
    case h_2 => exact h.note _
    case h_3 => exact h.fail _

theorem sendToken_relates (timer : Timer) :
    R Unit (sendToken h₁ c timer) (sendToken h₂ c timer) := by
  refine h.bind (Client.send_relates h c _ _) fun sent => ?_
  cases sent
  case ok    => exact h.pure _
  case error => exact h.note _

theorem endServer_relates (timer : Timer) (server : Server) :
    R Unit (endServer h₁ c timer server) (endServer h₂ c timer server) := by
  have hr := Server.removeIfThere_relates h c.socketPath
  refine h.bind (h.ask _ rfl) fun _ =>
    h.bind (Server.awaitExitFor_relates h _ server) fun server => ?_
  cases server.status
  case some => exact h.bind (h.note _) fun _ => hr
  case none =>
    exact h.bind (h.note _) fun _ => h.bind (Server.terminate_relates h server) fun _ => hr

omit h in
theorem stopServer_relates (h : Relates R h₁ h₂) (c : Config) (server : Server) :
    R Unit (stopServer h₁ c server) (stopServer h₂ c server) :=
  h.bind (h.note _) fun _ => h.bind (h.ask _ rfl) fun _ => h.bind (h.ofBreach _) fun timer =>
    h.bind (sendToken_relates h.toRelatesFaults c timer) fun _ =>
      endServer_relates h.toRelatesFaults c timer server

theorem runClient_relates (scale : Scale) :
    R Invocation (runClient h₁ c scale) (runClient h₂ c scale) :=
  h.bind (h.ask _ rfl) fun now => h.bind (h.clock now) fun _ =>
    Client.run_relates h c scale.workload

end Control

end EngineBench
