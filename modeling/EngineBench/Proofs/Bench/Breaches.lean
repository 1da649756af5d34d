import EngineBench.Proofs.Bench.FailFast
import EngineBench.Proofs.Measure.Summary

namespace EngineBench

open Accumulator (Step)
open Engine

variable {σ : Type}

-- Calls that end in an answer or with a fault.
structure Engine.NeverBreaches (e : Engine σ) : Prop where
  resetState : e.resetState.NeverBreaches
  start      : e.start.NeverBreaches
  stop       : e.stop.NeverBreaches
  runClient  : ∀ scale, (e.runClient scale).NeverBreaches

-- Only a call comes to a breach; a look at the signal fails with a fault.
theorem Engine.Exchange.isCall_of_breach {x : Exchange} {p : Breach}
    (h : x.failure? = some (.breach p)) : x.isCall := by
  cases x
  case elapsed           => cases h
  case shutdownSeen seen => cases seen <;> cases h
  all_goals rfl

namespace Script

theorem answer_never_breaches (call : Bool → Call) (line : Option Fault) (running : Bool) :
    (answer call line running).NeverBreaches := by
  cases line
  case none   => exact .of_ok fun _ => ⟨_, _, rfl⟩
  case some f => exact .bind (.of_ok fun _ => ⟨_, _, rfl⟩) fun _ => .fail f

theorem runClient_never_breaches (scale : Scale) : (runClient scale).NeverBreaches := by
  intro s
  cases h : s.take.fault
  case none   => rw [Action.Ends, runClient_ok h]; trivial
  case some f => rw [Action.Ends, runClient_error h]; exact ⟨f, rfl⟩

theorem engine_never_breaches : engine.NeverBreaches where
  resetState _ := answer_never_breaches _ _ _ _
  start _      := answer_never_breaches _ _ _ _
  stop _       := answer_never_breaches _ _ _ _
  runClient    := runClient_never_breaches

end Script

namespace Accumulator

-- One more iteration of a scale: its number, its sample and its failure can all be counted.
structure Takes (scale : Scale) (iteration : Nat) (a : Accumulator) : Prop where
  next    : nextCount iteration = .ok (iteration + 1)
  record  : ∀ d r, ∃ a', a.record (.of scale iteration d r) = .ok a' ∧
    a'.Counts scale (iteration + 1)
  exclude : ∃ a', a.exclude = .ok a' ∧ a'.Counts scale (iteration + 1)

variable {scale : Scale} {iteration : Nat} {a : Accumulator} {steps : List Step}

theorem Counts.takes (hc : a.Counts scale iteration) (hi : iteration < maxCount) :
    a.Takes scale iteration where
  next       := nextCount_eq_ok_iff.mpr ⟨hi, rfl⟩
  record _ _ := hc.record hi rfl
  exclude    := hc.exclude hi

theorem Holds.counts (ha : a.Holds scale steps) : a.Counts scale steps.length where
  scale    := ha.scale
  recorded := ha.recorded ▸ Step.samples_length_le steps
  failed   := ha.failed ▸ Step.failures_le steps

-- There is no summary without a sample.
theorem Holds.recorded_pos (ha : a.Holds scale steps) {sum : Summary}
    (hs : a.summary? = some sum) : 0 < a.recorded := by
  have hn : Step.samples steps ≠ [] := fun hn => by cases (ha.summary_none_iff.mpr hn).symm.trans hs
  exact ha.recorded ▸ List.length_pos_iff.mpr hn

end Accumulator

namespace Bench

-- Where the loop of a scale stands after some iterations that went on, and what it has counted.
inductive Reaches (b : Bench σ) (name : String) (mode : Mode) (scale : Scale) (s : State σ) :
    Nat → Accumulator → State σ → Prop
  | prepared : b.prepareScale mode s = .ok () t → Reaches b name mode scale s 0 (.new scale) t
  | iterated : Reaches b name mode scale s iteration a t → iteration < scale.iterations →
    b.iterate name mode scale iteration a t = .ok (.goOn a') t' →
    Reaches b name mode scale s (iteration + 1) a' t'

variable {b : Bench σ} {name : String} {mode : Mode} {scale : Scale} {s t : State σ}
  {iteration : Nat} {a : Accumulator}

namespace Verdict

-- A verdict that goes on is one step further.
def Advances (policy : FailurePolicy) (a : Accumulator) : Verdict → Prop
  | goOn a' => ∃ step, a.apply step = .ok a'
  | abort _ => policy = .abortScale

end Verdict

theorem excluded_advances (a : Accumulator) (s : Sample) (t : State σ) :
    (b.excluded a s).Ends t (fun a' _ => a.apply (.exclude s) = .ok a') (fun _ _ => True) :=
  .bind .any fun _ t _ => ofBreach_ends _ t

theorem judge_advances (a : Accumulator) (s : Sample) (t : State σ) :
    (b.judge a s).Ends t (fun v _ => v.Advances b.policy a) (fun _ _ => True) := by
  simp only [judge, judgeFailure]
  split
  case isTrue => exact (ofBreach_ends _ t).bind fun a' _ h => .pure ⟨.record s, h⟩
  case isFalse =>
    cases b.policy
    case record =>
      exact .bind .any fun _ t _ => (ofBreach_ends _ t).bind fun a' _ h => .pure ⟨.record s, h⟩
    case exclude =>
      exact .bind .any fun _ t _ => (excluded_advances a s t).bind fun a' _ h =>
        .pure ⟨.exclude s, h⟩
    case abortScale =>
      exact .bind .any fun _ t _ => (excluded_advances a s t).bind fun _ _ _ => .pure rfl

theorem iterate_advances (a : Accumulator) (t : State σ) :
    (b.iterate name mode scale iteration a).Ends t (fun v _ => v.Advances b.policy a)
      (fun _ _ => True) := by
  refine .bind .any fun _ t _ => .bind .any fun p t _ => .bind .any fun _ t _ => ?_
  refine (judge_advances a _ t).bind fun v t hv => ?_
  cases v
  case abort => exact .pure hv
  case goOn  => exact .bind .any fun _ _ _ => .pure hv

namespace Reaches

-- From there on the run of the scale is the rest of its loop.
theorem runScale_eq (h : b.Reaches name mode scale s iteration a t) :
    ∃ left, iteration + left = scale.iterations ∧
      b.runScale name mode scale s = b.runIterations name mode scale left iteration a t := by
  induction h
  case prepared h => exact ⟨scale.iterations, Nat.zero_add _, Action.bind_ok h⟩
  case iterated hl h hi =>
    obtain ⟨left, he, hr⟩ := hi
    cases left
    case zero      => omega
    case succ left =>
      rw [runIterations_succ, Action.bind_ok h] at hr
      exact ⟨left, by omega, hr⟩

theorem holds (h : b.Reaches name mode scale s iteration a t) :
    ∃ steps : List Step, steps.length = iteration ∧ a.Holds scale steps := by
  induction h
  case prepared => exact ⟨[], rfl, .new scale⟩
  case iterated a _ a' _ _ _ h hi =>
    obtain ⟨steps, hl, ha⟩ := hi
    have ⟨step, hs⟩ : Verdict.Advances b.policy a (.goOn a') := (iterate_advances a _).of_ok h
    refine ⟨steps ++ [step], by simp [hl], ?_⟩
    cases step
    case record s =>
      obtain ⟨_, _, _, rfl⟩ := Accumulator.record_eq_ok_iff.mp hs
      exact ha.record s
    case exclude s =>
      obtain ⟨_, rfl⟩ := Accumulator.exclude_eq_ok_iff.mp hs
      exact ha.exclude s

end Reaches

-- Nothing but calls of the engine and the counts could breach, and the counts fit.
theorem runScale_never_breaches (he : b.engine.NeverBreaches)
    (hi : scale.iterations ≤ maxCount) : (b.runScale name mode scale).NeverBreaches := by
  have hr {α : Type} {x : Action σ α} (hx : x.NeverBreaches) : (onEngine x).NeverBreaches :=
    fun s => onEngine_ends (hx s.world)
  have hc (scale : Scale) : (b.checkShutdown >>= fun _ => b.runTimed scale).NeverBreaches := by
    refine .bind (.bind (.of_ok fun _ => ⟨_, _, rfl⟩) fun _ => ?looked) fun _ => fun s => ?timed
    case looked => exact .ite (.fail _) (.of_ok fun _ => ⟨_, _, rfl⟩)
    case timed =>
      exact runTimed_ends_of (he.runClient scale s.world) (fun _ _ h => h) (fun _ _ h => h)
  have hb : RelatesScales (fun _ x (_ : Action (State σ) _) => x.NeverBreaches) b b := .of_clients {
    pure _     := .of_ok fun _ => ⟨_, _, rfl⟩
    bind       := .bind
    logged _   := .of_ok fun _ => ⟨_, _, rfl⟩
    isRunning  := .of_ok fun _ => ⟨_, _, rfl⟩
    resetState := hr he.resetState
    start      := hr he.start
    stop       := hr he.stop
  } rfl hc
  exact hb.runScale (.inr hi)

-- A scale that is cut off was cut off by what its record ends with.
theorem runScale_bears (b : Bench σ) (hi : scale.iterations ≤ maxCount) (s : State σ) :
    (b.runScale name mode scale).Ends s
      (fun _ _ => Fine (b.moments (·.runScale name mode scale) s))
      (fun e _ => FailedWith e (b.moments (·.runScale name mode scale) s)) :=
  (runScale_over (recording_over b)).ends_after
    ((FailsFast.relates b).runScale (.inr hi) (s.recorded []) (List.forall_mem_nil _))

-- A scale whose iterations a machine word can count breaches nothing of its own: a breach is one
-- that a call of the engine came to, so with a script there is none. Wherever the loop stands, one
-- more iteration can be counted, whatever its client does, and no mean is taken of no samples.
theorem runScale_breaches_nothing (hi : scale.iterations ≤ maxCount) (name : String) (mode : Mode) :
    (∀ {σ : Type} (b : Bench σ) (s : State σ),
      (∀ p, (b.runScale name mode scale).answer s = .error (.breach p) →
        ∃ m ∈ b.moments (·.runScale name mode scale) s,
          m.exchange.isCall ∧ m.exchange.failure? = some (.breach p)) ∧
      ∀ iteration a t, b.Reaches name mode scale s iteration a t →
        (∃ left, iteration + left = scale.iterations ∧
          b.runScale name mode scale s = b.runIterations name mode scale left iteration a t) ∧
        a.Counts scale iteration ∧
        (iteration < scale.iterations → a.Takes scale iteration) ∧
        ∀ sum, a.summary? = some sum → sum.samples = a.recorded ∧ a.recorded.toUInt64 ≠ 0) ∧
    ∀ policy (s : State Script) p,
      ((⟨Script.engine, policy⟩ : Bench Script).runScale name mode scale).answer s ≠
        .error (.breach p) := by
  refine ⟨fun b s => ⟨fun p hp => ?breach, fun iteration a t hr => ?point⟩, ?script⟩
  case script =>
    exact fun policy s p => (runScale_never_breaches Script.engine_never_breaches hi).answer s p
  case breach =>
    cases hx : b.runScale name mode scale s
    case ok        => cases (Action.answer_ok hx).symm.trans hp
    case error e _ =>
      cases (Action.answer_error hx).symm.trans hp
      obtain ⟨fine, m, hm, _, hf⟩ := (runScale_bears b hi s).of_error hx
      exact ⟨m, by simp [hm], Exchange.isCall_of_breach hf, hf⟩
  case point =>
    obtain ⟨left, hl, hx⟩ := hr.runScale_eq
    obtain ⟨steps, rfl, ha⟩ := hr.holds
    refine ⟨⟨left, hl, hx⟩, ha.counts, fun hn => ha.counts.takes (by omega), fun sum hs => ?_⟩
    have hp := ha.recorded_pos hs
    have hm : a.recorded ≤ maxCount := by
      have hc := ha.counts.recorded
      omega
    refine ⟨(ha.summary_sums hs).samples.trans ha.recorded.symm, fun hz => ?_⟩
    have hz : a.recorded % Nat.pow 2 64 = 0 := congrArg UInt64.toNat hz
    rw [Nat.mod_eq_of_lt (Nat.lt_of_le_of_lt hm (by decide))] at hz
    omega

-- A scale with as many iterations as there can be, of which the first fails.
theorem runScale_breaches_nothing_longest :
    let scale : Scale := ⟨"small", ⟨"small.txt"⟩, maxCount, by decide⟩
    let b : Bench Script := ⟨Script.engine, .record⟩
    let s : State Script :=
      ⟨{ Script.blank true with takes := [⟨⟨some 7, 0, false⟩, none, false⟩] }, [], []⟩
    scale.iterations ≤ maxCount ∧
      (∀ p, (b.runScale "tiers" .load scale).answer s ≠ .error (.breach p)) ∧
      ∃ a t, b.Reaches "tiers" .load scale s 1 a t ∧ a.Counts scale 1 ∧ a.Takes scale 1 := by
  intro scale b s
  have hi : scale.iterations ≤ maxCount := Nat.le_refl _
  have ⟨hb, hs⟩ := runScale_breaches_nothing hi "tiers" .load
  have ⟨v, t, h⟩ : ∃ v t, (b.prepareScale .load >>= fun _ =>
      b.iterate "tiers" .load scale 0 (.new scale)) s = .ok v t :=
    Action.exists_ok (by decide +kernel)
  have ⟨_, t₀, h₀, h₁⟩ := Action.bind_eq_ok.mp h
  have hv : v.Advances b.policy (.new scale) := (iterate_advances _ t₀).of_ok h₁
  cases v
  case abort => cases hv
  case goOn a =>
    have hr : b.Reaches "tiers" .load scale s 1 a t := .iterated (.prepared h₀) scale.runs h₁
    have ⟨_, hc, ht, _⟩ := (hb b s).right 1 a t hr
    exact ⟨hi, hs .record s, a, t, hr, hc, ht (by decide)⟩

end Bench

end EngineBench
