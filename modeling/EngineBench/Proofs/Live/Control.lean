import EngineBench.Live.Journal
import EngineBench.Proofs.Bench.RunningServer
import EngineBench.Proofs.Live.Steps

namespace EngineBench

variable {σ α : Type} {h : Host σ}

-- An activity that neither takes a server nor lets go of the one that is held.
abbrev Action.KeepsServer (x : Action (Session σ) α) : Prop :=
  x.Keeps Session.server

namespace Session

theorem alerted_server (s : Session σ) : (alerted h s).server = s.server := by
  unfold alerted
  split <;> rfl

theorem note_keeps (r : Log.Record) : (note h r).KeepsServer :=
  .of_after fun _ => rfl

theorem ask_keeps (r : Host.Request) : (ask h r).KeepsServer :=
  .of_after fun _ => rfl

theorem spawned_keeps (command : Host.Command) (refused : OsError → Fault) :
    (spawned h command refused).KeepsServer := by
  refine .bind (ask_keeps _) fun answer => ?_
  cases answer
  case ok    => exact .pure _
  case error => exact .fail _

theorem releasing_keeps {x : Action (Session σ) α} (hx : x.KeepsServer) (pid : Pid) :
    (releasing h pid x).KeepsServer := by
  intro held s hs
  have hr : (releasing h pid x).Ends s (fun _ s' => s'.server = held)
      (fun _ s' => s'.server = held) :=
    releasing_ends ((hx held).ends hs)
  exact hr.after

theorem releasingOnFailure_keeps {x : Action (Session σ) α} (hx : x.KeepsServer) (pid : Pid) :
    (releasingOnFailure h pid x).KeepsServer := by
  intro held s hs
  have hr : (releasingOnFailure h pid x).Ends s (fun _ s' => s'.server = held)
      (fun _ s' => s'.server = held) :=
    releasingOnFailure_ends ((hx held).ends hs)
  exact hr.after

theorem keeps_relates (h : Host σ) :
    Relates (fun _ x (_ : Action (Session σ) _) => x.KeepsServer) h h where
  pure          := .pure
  bind          := .bind
  throw _       := .of_after fun _ => rfl
  running hx hy := .bind .get fun _ => .ite hx hy
  clock _       := .of_after fun _ => rfl
  ask r _       := ask_keeps r
  note          := note_keeps
  heed          := .of_after alerted_server
  lending command refused _ _ hf :=
    .bind (spawned_keeps command refused) fun pid => releasing_keeps (hf pid) pid

end Session

open Session

namespace Control

theorem launch_keeps (c : Config) : (Server.launch h c).KeepsServer := by
  rw [Server.launch_eq]
  refine .bind (Server.clear_relates (keeps_relates h).toRelatesFaults c) fun _ => ?_
  refine .bind (spawned_keeps _ _) fun pid => .bind (releasingOnFailure_keeps ?ready pid) ?kept
  case ready => exact Server.untilReady_relates (keeps_relates h) c pid
  case kept => exact fun _ => .pure _

theorem resetState_keeps (c : Config) : (resetState h c).KeepsServer :=
  resetState_relates (keeps_relates h).toRelatesFaults c

theorem stopServer_keeps (c : Config) (server : Server) : (stopServer h c server).KeepsServer :=
  stopServer_relates (keeps_relates h) c server

theorem runClient_keeps (c : Config) (scale : Scale) : (runClient h c scale).KeepsServer :=
  runClient_relates (keeps_relates h).toRelatesFaults c scale

theorem start_running (h : Host σ) (c : Config) {s : Session σ} (hr : isRunning s) :
    start h c s = note h (.warn "Server is already running, not starting another") s :=
  (Action.get_bind _ s).trans (congrFun (if_pos hr) s)

theorem start_none (h : Host σ) (c : Config) {s : Session σ} (hs : s.server = none) :
    start h c s = (do
      let server ← Server.launch h c
      modify fun s => { s with server := some server } : Action (Session σ) Unit) s := by
  have hr : ¬isRunning s := by simp [isRunning, hs]
  exact (Action.get_bind _ s).trans (congrFun (if_neg hr) s)

theorem stop_none (h : Host σ) (c : Config) {s : Session σ} (hs : s.server = none) :
    stop h c s = note h (.debug "Server is not running, nothing to stop") s := by
  refine (Action.get_bind _ s).trans ?_
  simp only [hs]

theorem stop_some (h : Host σ) (c : Config) {s : Session σ} {server : Server}
    (hs : s.server = some server) :
    stop h c s = releasing h server.pid (stopServer h c server) { s with server := none } := by
  refine (Action.get_bind _ s).trans ?_
  simp only [hs]
  rfl

-- A start that fails leaves alone which server is held.
theorem start_ends (c : Config) (s : Session σ) :
    (start h c).Ends s (fun _ s' => isRunning s' = true) (fun _ s' => s'.server = s.server) := by
  refine .get_bind ?_
  split
  case isTrue hr =>
    exact ((note_keeps _).ends s).imp (fun _ _ hs => (congrArg Option.isSome hs).trans hr)
      (fun _ _ hs => hs)
  case isFalse =>
    refine .bind (((launch_keeps c).ends s).imp (fun _ _ hs => hs) (fun _ _ hs => hs)) ?_
    exact fun _ _ _ => rfl

-- Whatever comes of a stop, no server is held after it.
theorem stop_ends (c : Config) (s : Session σ) :
    (stop h c).Ends s (fun _ s' => s'.server = none) (fun _ s' => s'.server = none) := by
  refine .get_bind ?_
  split
  case h_1 hs =>
    exact ((note_keeps _).ends s).imp (fun _ _ hn => hn.trans hs) (fun _ _ hn => hn.trans hs)
  case h_2 server _ =>
    have hr := releasing_keeps (h := h) (stopServer_keeps (h := h) c server) server.pid
    exact hr.ends { s with server := none }

theorem obeyAll_preserves {c : Config} {I : Session σ → Prop} (hs : (start h c).Preserves I)
    (ht : (stop h c).Preserves I) (hr : (resetState h c).Preserves I) (orders : List Order) :
    (obeyAll h c orders).Preserves I := by
  induction orders
  case nil => exact .pure _
  case cons order rest hi =>
    refine .bind (.regardless ?_) fun _ => hi
    cases order
    case start   => exact hs
    case stop    => exact ht
    case restart => exact .bind ht fun _ => hs
    case reset   => exact hr

theorem engine_lawful (h : Host σ) (c : Config) (listener : Nat) :
    (engine h c listener).Lawful where
  start_ok h' := (start_ends c _).of_ok h'
  runClient scale := (runClient_keeps c scale).map Option.isSome
  elapsed _ := rfl
  shutdownSeen _ := rfl
  log _ _ := rfl
  print _ _ := rfl
  stop_ok h' := congrArg Option.isSome ((stop_ends c _).of_ok h')
  resetState := (resetState_keeps c).map Option.isSome

end Control

namespace Bench

-- Over the whole life of a bench clients and stops find a running server, resets and starts find
-- none. This needs a lawful engine, and the live engine is one.
theorem live_finds_server :
    (∀ {σ : Type} (b : Bench σ), b.engine.Lawful → ∀ (errands : List Errand) (finish : Option Bool)
      (s : State σ), ∀ n ∈ b.calls (·.live errands finish) s, n.Safe) ∧
    ∀ {σ : Type} (h : Host σ) (c : Config) (listener : Nat) (policy : FailurePolicy)
      (errands : List Errand) (finish : Option Bool) (s : State (Session σ)),
      ∀ n ∈ (⟨Control.engine h c listener, policy⟩ : Bench _).calls (·.live errands finish) s,
        n.Safe :=
  ⟨fun _ he => live_calls_safe he,
    fun h c listener _ => live_calls_safe (Control.engine_lawful h c listener)⟩

-- The second start fails here, so the next run finds no server.
theorem live_finds_server_tiers :
    let s : State Script :=
      ⟨{ Script.blank false with starts := [none, some .shutdown] }, [], []⟩
    ∀ n ∈ (⟨Script.engine, .record⟩ : Bench Script).calls
      (·.live [.one (.tiers .load), .all [.tiers .query, .tiers .load]] (some true)) s, n.Safe :=
  live_finds_server.left _ Script.engine_lawful _ _ _

end Bench

end EngineBench
