import EngineBench.Proofs.Bench.Calls
import EngineBench.Proofs.Measure.Accumulator

namespace EngineBench

namespace Bench

open Engine

variable {σ : Type}

def betweenIterations (b : Bench σ) (mode : Mode) (scale : Scale) (iteration : Nat) :
    Action (State σ) Unit :=
  if mode = .load then do
    let next ← Action.ofBreach (nextCount iteration)
    if next < scale.iterations then onEngine b.engine.restart
  else return

def iterate (b : Bench σ) (name : String) (mode : Mode) (scale : Scale) (iteration : Nat)
    (a : Accumulator) : Action (State σ) Verdict := do
  b.checkShutdown
  let (invocation, duration) ← b.runTimed scale
  let sample := Sample.of scale iteration duration invocation
  b.logged [.debug (tookText name sample)]
  let verdict ← b.judge a sample
  if let .goOn _ := verdict then b.betweenIterations mode scale iteration
  return verdict

-- A client, and the verdict on it.
def trial (b : Bench σ) (name : String) (scale : Scale) (iteration : Nat) (a : Accumulator) :
    Action (State σ) Verdict := do
  b.checkShutdown
  let (invocation, duration) ← b.runTimed scale
  let sample := Sample.of scale iteration duration invocation
  b.logged [.debug (tookText name sample)]
  b.judge a sample

variable {b : Bench σ} {name : String} {mode : Mode} {scale : Scale} {left iteration : Nat}
  {a : Accumulator}

theorem iterate_eq :
    b.iterate name mode scale iteration a =
      (b.trial name scale iteration a >>= fun
        | .abort outcome => pure (.abort outcome)
        | .goOn a => do
          b.betweenIterations mode scale iteration
          return .goOn a) := by
  simp only [iterate, trial, bind_assoc]
  congr 1; funext _
  congr 1; funext p
  congr 1; funext _
  congr 1; funext verdict
  cases verdict <;> simp

theorem runIterations_succ :
    b.runIterations name mode scale (left + 1) iteration a =
      (b.iterate name mode scale iteration a >>= fun
        | .abort outcome => pure outcome
        | .goOn a => b.runIterations name mode scale left (iteration + 1) a) := by
  simp only [runIterations, iterate, bind_assoc]
  congr 1; funext _
  congr 1; funext p
  congr 1; funext _
  congr 1; funext verdict
  cases verdict
  case abort => simp
  case goOn =>
    simp only [betweenIterations]
    split
    case isFalse => simp
    case isTrue =>
      simp only [bind_assoc]
      congr 1; funext next
      split <;> simp

namespace Verdict

-- A verdict is about the scale at hand, and only the third policy aborts, at the first client that
-- did not succeed.
def Fits (policy : FailurePolicy) (a : Accumulator) (s : Sample) : Verdict → Prop
  | goOn a' => a'.scale = a.scale ∧ (policy = .abortScale → s.succeeded)
  | abort o => o.scale = a.scale ∧ policy = .abortScale ∧ ¬s.succeeded

end Verdict

theorem record_scale {a' : Accumulator} {s : Sample} (h : a.record s = .ok a') :
    a'.scale = a.scale := by
  obtain ⟨_, _, _, rfl⟩ := Accumulator.record_eq_ok_iff.mp h
  rfl

theorem exclude_scale {a' : Accumulator} (h : a.exclude = .ok a') : a'.scale = a.scale := by
  obtain ⟨_, rfl⟩ := Accumulator.exclude_eq_ok_iff.mp h
  rfl

theorem ofBreach_ends {α : Type} (x : Except Breach α) (s : σ) :
    (Action.ofBreach x).Ends s (fun a _ => x = .ok a) (fun _ _ => True) := by
  cases x
  case error => trivial
  case ok    => rfl

theorem excluded_ends (a : Accumulator) (s : Sample) (t : State σ) :
    (b.excluded a s).Ends t (fun a' _ => a'.scale = a.scale) (fun _ _ => True) :=
  .bind .any fun _ t _ => (ofBreach_ends _ t).imp (fun _ _ => exclude_scale) (fun _ _ h => h)

theorem judge_ends (a : Accumulator) (s : Sample) (t : State σ) :
    (b.judge a s).Ends t (fun v _ => v.Fits b.policy a s) (fun _ _ => True) := by
  simp only [judge, judgeFailure]
  split
  case isTrue hs =>
    exact (ofBreach_ends _ t).bind fun a' _ h => .pure ⟨record_scale h, fun _ => hs⟩
  case isFalse hs =>
    cases hp : b.policy
    case record =>
      exact .bind .any fun _ t _ => (ofBreach_ends _ t).bind fun a' _ h =>
        .pure ⟨record_scale h, fun hn => absurd hn (by decide)⟩
    case exclude =>
      exact .bind .any fun _ t _ => (excluded_ends a s t).bind fun a' _ h =>
        .pure ⟨h, fun hn => absurd hn (by decide)⟩
    case abortScale =>
      exact .bind .any fun _ t _ => (excluded_ends a s t).bind fun a' _ h =>
        .pure ⟨h, rfl, hs⟩

end Bench

end EngineBench
