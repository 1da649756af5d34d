import EngineBench.Live.Rehearsal
import EngineBench.Proofs.Bench.Reports
import EngineBench.Proofs.Live.Processes
import EngineBench.Suite.Run

namespace EngineBench

open Engine (Note noted)
open Host (Exchange alive)

namespace Reporter

variable {reports : List Report}

end Reporter

namespace Bench

variable {σ α : Type}

-- What comes after the benchmarks.
def close (b : Bench σ) (outcomes : Except Fault (List Outcome)) :
    Action (State σ) (List Outcome) := do
  if let .error f ← (b.finish (Suite.isGraceful outcomes)).attempt then
    b.logged [Suite.uncleanStop f]
  Action.ofExcept outcomes

section

variable {τ : Type} {R : (α : Type) → Action (State τ) α → Action (State σ) α → Prop}
  {b₁ : Bench τ} {b₂ : Bench σ} (h : Relates R b₁ b₂)
  (hf : ∀ {α : Type} f, R α (Action.fail f) (Action.fail f))
  (ha : ∀ {α : Type} {x y}, R α x y → R (Except Fault α) x.attempt y.attempt)

include h hf

theorem Relates.ofExcept : (r : Except Fault α) → R α (Action.ofExcept r) (Action.ofExcept r)
  | .ok a    => h.pure a
  | .error f => hf f

include ha

theorem Relates.close (outcomes : Except Fault (List Outcome)) :
    R (List Outcome) (b₁.close outcomes) (b₂.close outcomes) := by
  refine h.bind (ha (h.bind h.isRunning fun _ => ?stop)) fun finished => ?outcomes
  case stop =>
    exact h.bind (ha (Action.related_ite h.stop (h.pure _))) fun stopped =>
      h.bind (h.report _) fun _ => h.ofExcept hf stopped
  case outcomes =>
    cases finished
    case ok    => exact h.ofExcept hf outcomes
    case error => exact h.bind (h.logged _) fun _ => h.ofExcept hf outcomes

theorem Relates.measure {ms : List Benchmark}
    (hs : ∀ scale ∈ (Errand.all ms).scales, RelatesScales.Fits R scale) :
    R (List Outcome) (Suite.measure b₁ ms) (Suite.measure b₂ ms) :=
  h.bind (ha (h.runAll hs)) (h.close hf ha)

end

end Bench

namespace Suite

variable {σ : Type}

-- The bench a suite is run on, and the state in which the run begins.
def bench (h : Host σ) (o : Options) (c : Config) (world : σ) : Bench (Session σ) :=
  ⟨Control.engine h c (Session.start world).2, o.failurePolicy⟩

end Suite

end EngineBench
