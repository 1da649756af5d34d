import EngineBench.Bench.Script
import EngineBench.Proofs.Action

namespace EngineBench

namespace Engine

variable {σ : Type}

-- A server that was started stays as long as nobody stops it. Nothing is asked of a start that
-- fails.
structure Steady (e : Engine σ) : Prop where
  start_ok     : e.start s = .ok () s' → e.isRunning s' = true
  runClient    : ∀ scale, (e.runClient scale).Keeps e.isRunning
  elapsed      : ∀ s, e.isRunning (e.elapsed s).2 = e.isRunning s
  shutdownSeen : ∀ s, e.isRunning (e.shutdownSeen s).2 = e.isRunning s
  log          : ∀ records s, e.isRunning (e.log records s) = e.isRunning s
  print        : ∀ text s, e.isRunning (e.print text s) = e.isRunning s

-- Nothing is asked of a stop that fails either.
structure Lawful (e : Engine σ) : Prop extends Steady e where
  stop_ok    : e.stop s = .ok () s' → e.isRunning s' = false
  resetState : e.resetState.Keeps e.isRunning

end Engine

namespace Script

-- A script without lines: every call succeeds.
def blank (running : Bool) : Script where
  running   := running
  resets    := []
  starts    := []
  stops     := []
  takes     := []
  durations := []
  fallback  := .zero
  board     := .new
  listener  := none
  calls     := []
  records   := []
  printed   := ""

theorem answer_ok {call : Bool → Call} {line : Option Fault} {r : Bool} {s s' : Script}
    (h : answer call line r s = .ok () s') : s'.running = r := by
  cases line
  case none   => cases h; rfl
  case some f => cases h

theorem answer_keeps (call : Bool → Call) (line : Option Fault) (s : Script) :
    ((answer call line s.running).after s).running = s.running := by
  cases line <;> rfl

theorem resetState_keeps : resetState.Keeps running :=
  .of_after fun s => answer_keeps .reset s.resets.head?.join { s with resets := s.resets.tail }

section

variable {s : Script} {scale : Scale}

-- The line that answers the next client, and the script after that.
def take (s : Script) : Take :=
  s.takes.head?.getD .success

def taken (s : Script) (scale : Scale) : Script :=
  let s' := { s.note (.run scale) with takes := s.takes.tail }
  if s.take.signals then s'.signal else s'

theorem runClient_ok (h : s.take.fault = none) :
    runClient scale s = .ok s.take.invocation (s.taken scale) := by
  have h : (s.takes.head?.getD .success).fault = none := h
  simp only [runClient, Action.get_bind, h]
  rfl

theorem runClient_error {f : Fault} (h : s.take.fault = some f) :
    runClient scale s = .error (.fault f) (s.taken scale) := by
  have h : (s.takes.head?.getD .success).fault = some f := h
  simp only [runClient, Action.get_bind, h]
  rfl

theorem taken_calls (s : Script) (scale : Scale) :
    (s.taken scale).calls = s.calls ++ [.run scale] := by
  simp only [taken]
  split <;> rfl

theorem runClient_after (scale : Scale) (s : Script) :
    (runClient scale).after s = s.taken scale := by
  cases h : s.take.fault
  case none   => exact Action.after_ok (runClient_ok h)
  case some f => exact Action.after_error (runClient_error h)

end

theorem runClient_keeps (scale : Scale) : (runClient scale).Keeps running := by
  refine .of_after fun s => ?_
  rw [runClient_after, taken]
  split <;> rfl

theorem stop_answers (s : Script) (p : Breach) (s' : Script) :
    engine.stop s ≠ .error (.breach p) s' := by
  change answer .stop s.stops.head?.join false { s with stops := s.stops.tail } ≠ _
  cases s.stops.head?.join <;> nofun

theorem engine_lawful : engine.Lawful where
  start_ok h := answer_ok h
  runClient := runClient_keeps
  elapsed _ := rfl
  shutdownSeen s := by
    simp only [engine, shutdownSeen]
    cases s.listener <;> rfl
  log _ _ := rfl
  print _ _ := rfl
  stop_ok h := answer_ok h
  resetState := resetState_keeps

end Script

-- A small benchmark of either mode, with two scales.
def Benchmark.tiers (mode : Mode) : Benchmark where
  name    := "tiers"
  mode    := mode
  catalog := ⟨[⟨"small", ⟨"small.txt"⟩, 3, by decide⟩, ⟨"large", ⟨"large.txt"⟩, 2, by decide⟩]⟩

end EngineBench
