import EngineBench.Bench.Stage
import EngineBench.Proofs.Bench.Iteration

namespace EngineBench

namespace Accumulator

-- What has been counted in the iterations of a scale so far.
structure Counts (scale : Scale) (iteration : Nat) (a : Accumulator) : Prop where
  scale    : a.scale = scale
  recorded : a.recorded ≤ iteration
  failed   : a.failed ≤ iteration

namespace Counts

variable {scale : Scale} {iteration : Nat} {a : Accumulator} {s : Sample}

theorem new (scale : Scale) : (Accumulator.new scale).Counts scale 0 :=
  ⟨rfl, Nat.le_refl 0, Nat.le_refl 0⟩

theorem record (hc : a.Counts scale iteration) (hi : iteration < maxCount)
    (hs : s.label = scale.label) : ∃ a', a.record s = .ok a' ∧ a'.Counts scale (iteration + 1) := by
  have hr := Nat.lt_of_le_of_lt hc.recorded hi
  have hf := Nat.lt_of_le_of_lt hc.failed hi
  refine ⟨_, record_eq_ok_iff.mpr ⟨hc.scale ▸ hs, hr, .inr hf, rfl⟩, hc.scale,
    Nat.succ_le_succ hc.recorded, Nat.add_le_add hc.failed ?_⟩
  split <;> omega

theorem exclude (hc : a.Counts scale iteration) (hi : iteration < maxCount) :
    ∃ a', a.exclude = .ok a' ∧ a'.Counts scale (iteration + 1) :=
  ⟨_, exclude_eq_ok_iff.mpr ⟨Nat.lt_of_le_of_lt hc.failed hi, rfl⟩, hc.scale,
    Nat.le_succ_of_le hc.recorded, Nat.succ_le_succ hc.failed⟩

end Counts

end Accumulator

namespace Action

variable {σ α β : Type}

theorem ofBreach_map (x : Except Breach α) (g : α → β) :
    (do return g (← Action.ofBreach x) : Action σ β) = Action.ofBreach (x.map g) := by
  cases x <;> rfl

end Action

namespace Bench

namespace Verdict

-- A verdict that goes on counts one more iteration.
def Counts (scale : Scale) (iteration : Nat) : Verdict → Prop
  | goOn a  => a.Counts scale iteration
  | abort _ => True

end Verdict

variable {σ τ α β : Type}

def logAll (b : Bench σ) : List Log → Action (State σ) Unit
  | []              => return
  | records :: rest => do
    b.logged records
    b.logAll rest

-- A verdict needs nothing of the engine but its log, and it is reached while counts fit.
theorem exists_judge_eq (policy : FailurePolicy) (a : Accumulator) (s : Sample) :
    ∃ (logs : List Log) (r : Except Breach Verdict),
      (∀ {σ : Type} (b : Bench σ), b.policy = policy →
        b.judge a s = (b.logAll logs >>= fun _ => Action.ofBreach r)) ∧
      ∀ scale iteration, a.Counts scale iteration → iteration < maxCount → s.label = scale.label →
        ∃ v, r = .ok v ∧ v.Counts scale (iteration + 1) := by
  let reason := FailureReason.aborted a.scale.workload s.failure
  by_cases hs : s.succeeded
  case pos =>
    refine ⟨[], (a.record s).map .goOn, fun b _ => ?sound,
      fun scale iteration hc hi hl => ?soundStep⟩
    case sound =>
      simp only [judge, if_pos hs, Action.ofBreach_map, logAll, pure_bind]
    case soundStep =>
      obtain ⟨a', hr, hc⟩ := hc.record hi hl
      exact ⟨.goOn a', by rw [hr]; rfl, hc⟩
  case neg =>
    cases policy
    case record =>
      refine ⟨[[.warn s!"{reason.message}, recording the sample anyway"]],
        (a.record s).map .goOn, fun b hp => ?recorded,
        fun scale iteration hc hi hl => ?recordedStep⟩
      case recorded =>
        simp only [judge, if_neg hs, judgeFailure, hp, Action.ofBreach_map, logAll, bind_assoc,
          pure_bind]
        rfl
      case recordedStep =>
        obtain ⟨a', hr, hc⟩ := hc.record hi hl
        exact ⟨.goOn a', by rw [hr]; rfl, hc⟩
    case exclude =>
      refine ⟨[[.warn s!"{reason.message}, excluding the sample"], [Accumulator.exclusion s]],
        a.exclude.map .goOn, fun b hp => ?excluded, fun scale iteration hc hi _ => ?excludedStep⟩
      case excluded =>
        simp only [judge, if_neg hs, judgeFailure, hp, excluded, bind_assoc, Action.ofBreach_map,
          logAll, pure_bind]
        rfl
      case excludedStep =>
        obtain ⟨a', hr, hc⟩ := hc.exclude hi
        exact ⟨.goOn a', by rw [hr]; rfl, hc⟩
    case abortScale =>
      refine ⟨[[.error "scale_tunnel_runner::harness" s!"{reason.message}, aborting the scale"],
        [Accumulator.exclusion s]], a.exclude.map fun a => .abort (.failed a.scale a.failed reason),
        fun b hp => ?aborted, fun scale iteration hc hi _ => ?abortedStep⟩
      case aborted =>
        simp only [judge, if_neg hs, judgeFailure, hp, excluded, bind_assoc, Action.ofBreach_map,
          logAll, pure_bind]
        rfl
      case abortedStep =>
        obtain ⟨a', hr, _⟩ := hc.exclude hi
        exact ⟨_, congrArg (Except.map _) hr, trivial⟩

theorem onEngine_restart (b : Bench σ) : onEngine b.engine.restart = (do
    onEngine b.engine.stop
    onEngine b.engine.start) := by
  funext s
  simp only [Engine.restart, bind, EStateM.bind, onEngine]
  cases b.engine.stop s.world <;> rfl

-- What two benches do while no client runs is related if each of their steps is and if sequences
-- pass it on.
structure RelatesIdle (R : (α : Type) → Action (State τ) α → Action (State σ) α → Prop)
    (b₁ : Bench τ) (b₂ : Bench σ) : Prop where
  pure       : ∀ {α : Type} (a : α), R α (pure a) (pure a)
  bind       : ∀ {α β : Type} {x y f g}, R α x y → (∀ a, R β (f a) (g a)) →
    R β (x >>= f) (y >>= g)
  logged     : ∀ records, R Unit (b₁.logged records) (b₂.logged records)
  isRunning  : R Bool b₁.isRunning b₂.isRunning
  resetState : R Unit (onEngine b₁.engine.resetState) (onEngine b₂.engine.resetState)
  start      : R Unit (onEngine b₁.engine.start) (onEngine b₂.engine.start)
  stop       : R Unit (onEngine b₁.engine.stop) (onEngine b₂.engine.stop)

namespace RelatesScales

-- Breaches are related as well.
def Breaches (R : (α : Type) → Action (State τ) α → Action (State σ) α → Prop) : Prop :=
  ∀ (α : Type) p, R α (throw (.breach p)) (throw (.breach p))

-- The iterations of a scale fit a machine word, unless it does not matter if they do.
def Fits (R : (α : Type) → Action (State τ) α → Action (State σ) α → Prop) (scale : Scale) : Prop :=
  Breaches R ∨ scale.iterations ≤ maxCount

end RelatesScales

open RelatesScales (Breaches Fits)

-- So is what they do while a scale is run, if that is so of their trials.
structure RelatesScales (R : (α : Type) → Action (State τ) α → Action (State σ) α → Prop)
    (b₁ : Bench τ) (b₂ : Bench σ) : Prop extends RelatesIdle R b₁ b₂ where
  trial_bind : ∀ {β : Type} {name : String} {scale : Scale} {iteration : Nat} {a : Accumulator}
    {f : Verdict → Action (State τ) β} {g : Verdict → Action (State σ) β},
    (Breaches R ∨ iteration < maxCount ∧ a.Counts scale iteration) →
    (∀ v, Breaches R ∨ v.Counts scale (iteration + 1) → R β (f v) (g v)) →
    R β (b₁.trial name scale iteration a >>= f) (b₂.trial name scale iteration a >>= g)

-- And so is what they do in a whole run, if that is so of their reports as well.
structure Relates (R : (α : Type) → Action (State τ) α → Action (State σ) α → Prop)
    (b₁ : Bench τ) (b₂ : Bench σ) : Prop extends RelatesScales R b₁ b₂ where
  report : ∀ r, R Unit (b₁.report r) (b₂.report r)

variable {R : (α : Type) → Action (State τ) α → Action (State σ) α → Prop} {b₁ : Bench τ}
  {b₂ : Bench σ} {name : String} {mode : Mode} {scale : Scale} {iteration : Nat} {a : Accumulator}

theorem RelatesScales.ofBreach_bind {f : α → Action (State τ) β} {g : α → Action (State σ) β}
    {r : Except Breach α} (hr : Breaches R ∨ ∃ a, r = .ok a)
    (hf : ∀ a, r = .ok a → R β (f a) (g a)) :
    R β (Action.ofBreach r >>= f) (Action.ofBreach r >>= g) := by
  cases r
  case ok a    => exact hf a rfl
  case error p =>
    refine hr.elim (fun hb => hb β p) fun ⟨_, ha⟩ => ?_
    cases ha

namespace RelatesIdle

variable (h : RelatesIdle R b₁ b₂)

include h

theorem logAll (logs : List Log) : R Unit (b₁.logAll logs) (b₂.logAll logs) := by
  induction logs
  case nil                  => exact h.pure ()
  case cons records rest hi => exact h.bind (h.logged records) fun _ => hi

theorem restart : R Unit (onEngine b₁.engine.restart) (onEngine b₂.engine.restart) := by
  rw [onEngine_restart, onEngine_restart]
  exact h.bind h.stop fun _ => h.start

theorem betweenIterations (hf : Breaches R ∨ iteration < maxCount) :
    R Unit (b₁.betweenIterations mode scale iteration)
      (b₂.betweenIterations mode scale iteration) := by
  have hn : Breaches R ∨ ∃ next, nextCount iteration = .ok next :=
    hf.imp_right fun hi => ⟨_, nextCount_eq_ok_iff.mpr ⟨hi, rfl⟩⟩
  exact Action.related_ite (RelatesScales.ofBreach_bind hn fun _ _ =>
    Action.related_ite h.restart (h.pure ())) (h.pure ())

theorem prepareScale : R Unit (b₁.prepareScale mode) (b₂.prepareScale mode) := by
  cases mode
  case query => exact h.pure ()
  case load =>
    have hd : R Unit (onEngine b₁.engine.resetState >>= fun _ => onEngine b₁.engine.start)
        (onEngine b₂.engine.resetState >>= fun _ => onEngine b₂.engine.start) :=
      h.bind h.resetState fun _ => h.start
    exact h.bind h.isRunning fun _ => Action.related_ite (h.bind h.stop fun _ => hd) hd

theorem prepareBenchmark : R Unit (b₁.prepareBenchmark mode) (b₂.prepareBenchmark mode) := by
  cases mode
  case load  => exact h.pure ()
  case query => exact h.bind h.isRunning fun _ => Action.related_ite h.start (h.pure ())

theorem prepare (m : Benchmark) : R Unit (b₁.prepare m) (b₂.prepare m) :=
  h.bind (h.logged _) fun _ => h.prepareBenchmark

end RelatesIdle

-- Benches of one policy reach the same verdicts where they have the same clients. A client is not
-- run without a look at the signal.
theorem RelatesScales.of_clients (h : RelatesIdle R b₁ b₂) (hp : b₁.policy = b₂.policy)
    (hc : ∀ scale, R (Invocation × Duration) (b₁.checkShutdown >>= fun _ => b₁.runTimed scale)
      (b₂.checkShutdown >>= fun _ => b₂.runTimed scale)) : RelatesScales R b₁ b₂ where
  toRelatesIdle := h
  trial_bind {β name scale iteration a f g} hi hf := by
    simp only [trial, bind_assoc]
    rw [← bind_assoc, ← bind_assoc]
    refine h.bind (hc scale) fun p => h.bind (h.logged _) fun _ => ?_
    obtain ⟨logs, r, hj, hr⟩ := exists_judge_eq b₂.policy a (.of scale iteration p.2 p.1)
    have hv : Breaches R ∨ ∃ v, r = .ok v ∧ v.Counts scale (iteration + 1) :=
      hi.imp_right fun h => hr scale iteration h.right h.left rfl
    rw [hj b₁ hp, hj b₂ rfl, bind_assoc, bind_assoc]
    refine h.bind (h.logAll logs) fun _ => ?_
    refine RelatesScales.ofBreach_bind (hv.imp_right fun h => h.imp fun _ => And.left) ?_
    refine fun v he => hf v (hv.imp_right fun hv => ?_)
    obtain ⟨v', he', hc⟩ := hv
    cases he.symm.trans he'
    exact hc

namespace RelatesScales

variable (h : RelatesScales R b₁ b₂)

include h

theorem iterate_bind {f : Verdict → Action (State τ) β} {g : Verdict → Action (State σ) β}
    (hi : Breaches R ∨ iteration < maxCount ∧ a.Counts scale iteration)
    (hf : ∀ v, Breaches R ∨ v.Counts scale (iteration + 1) → R β (f v) (g v)) :
    R β (b₁.iterate name mode scale iteration a >>= f)
      (b₂.iterate name mode scale iteration a >>= g) := by
  rw [iterate_eq, iterate_eq, bind_assoc, bind_assoc]
  refine h.trial_bind hi fun v hv => ?_
  cases v
  case abort outcome => simpa only [pure_bind] using hf (.abort outcome) hv
  case goOn a =>
    simp only [bind_assoc, pure_bind]
    exact h.bind (h.betweenIterations (hi.imp_right (·.left))) fun _ => hf (.goOn a) hv

-- The counts fit as long as no more iterations were made than the scale has.
theorem runIterations (hs : Fits R scale) {left : Nat} (hl : iteration + left = scale.iterations)
    (ha : Breaches R ∨ a.Counts scale iteration) :
    R Outcome (b₁.runIterations name mode scale left iteration a)
      (b₂.runIterations name mode scale left iteration a) := by
  induction left generalizing iteration a
  case zero => exact h.pure _
  case succ left hd =>
    rw [runIterations_succ, runIterations_succ]
    have hi : Breaches R ∨ iteration < maxCount ∧ a.Counts scale iteration := by
      refine hs.elim .inl fun hs => ha.imp_right fun ha => ⟨?_, ha⟩
      omega
    refine h.iterate_bind hi fun verdict hv => ?_
    cases verdict
    case abort  => exact h.pure _
    case goOn a => exact hd (by omega) hv

theorem runScale (hs : Fits R scale) :
    R Outcome (b₁.runScale name mode scale) (b₂.runScale name mode scale) :=
  h.bind h.prepareScale fun _ => h.runIterations hs (Nat.zero_add _) (.inr (.new scale))

end RelatesScales

namespace Relates

variable (h : Relates R b₁ b₂)

include h

theorem reportOutcome :
    (o : Outcome) → R Unit (b₁.reportOutcome name o) (b₂.reportOutcome name o)
  | .completed _ | .failed .. => h.report _

theorem runScales {scales : List Scale} (hs : ∀ scale ∈ scales, Fits R scale) :
    R (List Outcome) (b₁.runScales name mode scales) (b₂.runScales name mode scales) := by
  induction scales
  case nil => exact h.pure _
  case cons scale rest hi =>
    have ⟨hs, hr⟩ := List.forall_mem_cons.mp hs
    exact h.bind (h.runScale hs) fun outcome => h.bind (h.reportOutcome outcome) fun _ =>
      h.bind (hi hr) fun _ => h.pure _

theorem runBenchmark {m : Benchmark} (hs : ∀ scale ∈ m.catalog.scales, Fits R scale) :
    R (List Outcome) (b₁.runBenchmark m) (b₂.runBenchmark m) :=
  h.bind (h.logged _) fun _ => h.bind h.prepareBenchmark fun _ => h.runScales hs

theorem runAll {ms : List Benchmark}
    (hs : ∀ scale ∈ (Errand.all ms).scales, Fits R scale) :
    R (List Outcome) (b₁.runAll ms) (b₂.runAll ms) := by
  induction ms
  case nil => exact h.pure _
  case cons m rest hi =>
    have ⟨hs, hr⟩ := List.forall_mem_append.mp hs
    exact h.bind (h.runBenchmark hs) fun _ => h.bind (hi hr) fun _ => h.pure _

theorem perform {errand : Errand} (hs : ∀ scale ∈ errand.scales, Fits R scale) :
    R (List Outcome) (b₁.perform errand) (b₂.perform errand) := by
  cases errand
  case one m  => exact h.runBenchmark hs
  case all ms => exact h.runAll hs

end Relates

end Bench

end EngineBench
