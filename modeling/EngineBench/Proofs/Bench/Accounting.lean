import EngineBench.Bench.Account
import EngineBench.Proofs.Bench.FailFast
import EngineBench.Proofs.Bench.LoadProtocol

namespace EngineBench

open Engine
open Invocation (failures)

namespace Accumulator

variable {a a' : Accumulator} {s : Sample} {r : Invocation} {rs : List Invocation} {scale : Scale}
  {policy : FailurePolicy}

theorem record_counts (h : a.record s = .ok a') :
    a'.scale = a.scale ∧ a'.recorded = a.recorded + 1 ∧
      a'.failed = a.failed + (if s.succeeded then 0 else 1) ∧ a'.extremes.isSome := by
  obtain ⟨_, _, _, rfl⟩ := record_eq_ok_iff.mp h
  exact ⟨rfl, rfl, rfl, rfl⟩

-- What has been counted after some clients of a scale that was not aborted.
structure Tallies (policy : FailurePolicy) (scale : Scale) (rs : List Invocation)
    (a : Accumulator) : Prop where
  scale    : a.scale = scale
  recorded : policy = .record → a.recorded = rs.length
  excluded : policy ≠ .record → a.recorded + failures rs = rs.length
  failed   : a.failed = failures rs
  extremes : a.extremes.isSome ↔ 0 < a.recorded
  passed   : policy = .abortScale → failures rs = 0

namespace Tallies

theorem failures_concat (rs : List Invocation) (r : Invocation) :
    failures (rs ++ [r]) = failures rs + (if r.succeeded then 0 else 1) := by
  cases h : r.succeeded <;> simp [failures, h]

theorem new (scale : Scale) : (Accumulator.new scale).Tallies policy scale [] :=
  ⟨rfl, fun _ => rfl, fun _ => rfl, rfl, by simp [Accumulator.new], fun _ => rfl⟩

theorem record (ha : a.Tallies policy scale rs) (h : a.record s = .ok a')
    (hs : s.invocation.succeeded ∨ policy = .record) :
    a'.Tallies policy scale (rs ++ [s.invocation]) := by
  have ⟨hc, hr, hf, he⟩ := record_counts h
  have hn := failures_concat rs s.invocation
  have hf : a'.failed = a.failed + if s.invocation.succeeded then 0 else 1 := hf
  refine ⟨hc.trans ha.scale, fun hp => ?recorded, fun hp => ?excluded, ?failed, ?extremes,
    fun hp => ?passed⟩
  case recorded => simp [hr, ha.recorded hp]
  case excluded =>
    have hs := hs.resolve_right hp
    have hl := ha.excluded hp
    simp [hs] at hn
    simp
    omega
  case failed => rw [hn, hf, ha.failed]
  case extremes => simp [he, hr]
  case passed =>
    have hs := hs.resolve_right (by rw [hp]; decide)
    simpa [hn, hs] using ha.passed hp

theorem exclude (ha : a.Tallies policy scale rs) (h : a.exclude = .ok a') (hs : ¬r.succeeded)
    (hp : policy = .exclude) : a'.Tallies policy scale (rs ++ [r]) := by
  have hl := ha.excluded (by rw [hp]; decide)
  have hn := failures_concat rs r
  simp only [hs, Bool.false_eq_true, if_false] at hn
  rw [(exclude_eq_ok_iff.mp h).right]
  refine ⟨ha.scale, fun h => ?recorded, fun _ => ?excluded, ?failed, ha.extremes, fun h => ?passed⟩
  case recorded => rw [hp] at h; cases h
  case excluded => simp; omega
  case failed => rw [hn, ← ha.failed]
  case passed => rw [hp] at h; cases h

theorem counts (ha : a.Tallies policy scale rs) : a.Counts scale rs.length := by
  have hf : failures rs ≤ rs.length := List.countP_le_length
  refine ⟨ha.scale, ?_, ha.failed ▸ hf⟩
  by_cases hp : policy = .record
  case pos => exact Nat.le_of_eq (ha.recorded hp)
  case neg => exact ha.excluded hp ▸ Nat.le_add_right ..

theorem summary_tells (ha : a.Tallies policy scale rs) {sum : Summary}
    (h : a.summary? = some sum) : 0 < a.recorded ∧ sum.Tells scale a.recorded (failures rs) := by
  have ⟨_, he, hs⟩ := Option.map_eq_some_iff.mp h
  refine ⟨ha.extremes.mp (by rw [he]; rfl), ?_⟩
  subst hs
  exact ⟨ha.scale, rfl, ha.failed⟩

theorem no_summary (ha : a.Tallies policy scale rs) (h : a.summary? = none) : a.recorded = 0 := by
  have he := Option.map_eq_none_iff.mp h
  have hn : ¬0 < a.recorded := mt ha.extremes.mpr (by simp [he])
  omega

-- After the last client the outcome tells what was counted.
theorem outcome (ha : a.Tallies policy scale rs) (hl : rs.length = scale.iterations) :
    Accounts scale policy rs a.outcome := by
  have hi := scale.runs
  simp only [Accumulator.outcome]
  cases hs : a.summary?
  case none =>
    have hr := ha.no_summary hs
    cases hp : policy
    case record =>
      have hn := ha.recorded hp
      omega
    case exclude =>
      have hn := ha.excluded (by rw [hp]; decide)
      rw [ha.scale, ha.failed, show failures rs = scale.iterations by omega]
      exact .exhausted hl (by omega) rfl
    case abortScale =>
      have hn := ha.excluded (by rw [hp]; decide)
      have hf := ha.passed hp
      omega
  case some sum =>
    have ⟨hr, ht⟩ := ha.summary_tells hs
    cases hp : policy
    case record =>
      have hn := ha.recorded hp
      exact .recorded hl (hl ▸ hn ▸ ht)
    case exclude =>
      have hn := ha.excluded (by rw [hp]; decide)
      have he : a.recorded = scale.iterations - failures rs := by omega
      exact .excluded hl (by omega) (he ▸ ht)
    case abortScale =>
      have hn := ha.excluded (by rw [hp]; decide)
      have hf := ha.passed hp
      have he : a.recorded = scale.iterations := by omega
      exact .passed hl hf (he ▸ hf ▸ ht)

end Tallies

end Accumulator

-- The cause that is given for a sample that did not succeed.
theorem Sample.fails (s : Sample) (h : ¬s.succeeded) :
    s.invocation.Fails s.iteration s.failure.message := by
  have hi : s.invocation.succeeded = false := by simpa [succeeded] using h
  simp only [failure]
  split
  case isTrue ht => exact .timedOut ht
  case isFalse ht =>
    have ht : s.invocation.timedOut = false := by simpa using ht
    split
    case h_1 code hc =>
      refine .exited ht hc fun h0 => ?_
      simp [Invocation.succeeded, ht, hc, h0] at hi
    case h_2 hc => exact .signalled ht hc

namespace Bench

variable {σ α : Type} {b : Bench σ} {a : Accumulator} {rs : List Invocation} {scale : Scale}
  {policy : FailurePolicy} {t : State (List Note × σ)} {name : String} {mode : Mode}

namespace Verdict

-- A verdict that goes on has counted the client; one that aborts accounts for it and those before.
def Tallies (policy : FailurePolicy) (scale : Scale) (rs : List Invocation) (r : Invocation) :
    Verdict → Prop
  | goOn a  => a.Tallies policy scale (rs ++ [r])
  | abort o => Accounts scale policy (rs ++ [r]) o

end Verdict

theorem excluded_counts (a : Accumulator) (s : Sample) (t : State σ) :
    (b.excluded a s).Ends t (fun a' _ => a.exclude = .ok a') (fun _ _ => True) :=
  .bind .any fun _ t _ => ofBreach_ends _ t

theorem judge_tallies {s : Sample} {t : State σ} (ha : a.Tallies b.policy scale rs)
    (hi : s.iteration = rs.length) (hl : rs.length < scale.iterations) :
    (b.judge a s).Ends t (fun v _ => v.Tallies b.policy scale rs s.invocation)
      (fun _ _ => True) := by
  simp only [judge, judgeFailure]
  split
  case isTrue hs =>
    exact (ofBreach_ends _ t).bind fun a' _ h => .pure (ha.record h (.inl hs))
  case isFalse hs =>
    generalize b.policy = policy at *
    cases policy
    case record =>
      exact .bind .any fun _ t _ => (ofBreach_ends _ t).bind fun a' _ h =>
        .pure (ha.record h (.inr rfl))
    case exclude =>
      exact .bind .any fun _ t _ => (excluded_counts a s t).bind fun a' _ h =>
        .pure (ha.exclude h hs rfl)
    case abortScale =>
      refine .bind .any fun _ t _ => (excluded_counts a s t).bind fun a' _ h => .pure ?_
      have hf := ha.passed rfl
      have hc := hi ▸ s.fails hs
      rw [(Accumulator.exclude_eq_ok_iff.mp h).right, ha.scale, ha.failed, hf]
      exact .aborted hl hf hc rfl

def State.timings (t : State (List Note × σ)) : List Exchange :=
  Engine.timings t.world.1

theorem noted_untimed {exchange : Except Abort α → Exchange}
    (hc : ∀ a, (exchange a).isTiming = false) (x : Action σ α) :
    (onEngine (b.engine.noted exchange x)).Keeps State.timings := by
  refine .of_after fun t => ?_
  simp only [onEngine, noted, Action.after]
  cases x t.world.2 <;> simp [State.timings, Engine.timings, hc]

theorem restart_untimed : (onEngine b.noting.engine.restart).Keeps State.timings := by
  rw [onEngine_restart]
  exact .bind (noted_untimed (fun _ => rfl) _) fun _ => noted_untimed (fun _ => rfl) _

theorem checkShutdown_untimed : b.noting.checkShutdown.Keeps State.timings := by
  refine .bind (.of_after fun t => ?_) fun _ => .ite (.fail _) (.pure _)
  simp [observe, onEngine, Action.after, noting, Engine.noting, seen, State.timings,
    Engine.timings, Exchange.isTiming]

theorem logged_notes (records : Log) : (b.noting.logged records).Keeps fun t => t.world.1 :=
  .of_after fun _ => rfl

-- Nothing is asked of the engine for a verdict.
theorem judge_notes (a : Accumulator) (s : Sample) :
    (b.noting.judge a s).Keeps fun t => t.world.1 := by
  have hl (logs : List Log) : (b.noting.logAll logs).Keeps fun t => t.world.1 := by
    induction logs
    case nil                  => exact .pure ()
    case cons records rest hi => exact .bind (logged_notes records) fun _ => hi
  have ⟨logs, r, hj, _⟩ := exists_judge_eq b.policy a s
  rw [hj b.noting rfl]
  exact .bind (hl logs) fun _ => .ofBreach r

theorem betweenIterations_untimed (iteration : Nat) :
    (b.noting.betweenIterations mode scale iteration).Keeps State.timings :=
  .ite (.bind (.ofBreach _) fun _ => .ite restart_untimed (.pure _)) (.pure _)

theorem prepareScale_untimed : (b.noting.prepareScale mode).Keeps State.timings := by
  have hs : (onEngine b.noting.engine.start).Keeps State.timings := noted_untimed (fun _ => rfl) _
  have hd : (do onEngine b.noting.engine.resetState; onEngine b.noting.engine.start).Keeps
      State.timings :=
    .bind (noted_untimed (fun _ => rfl) _) fun _ => hs
  cases mode
  case query => exact .pure ()
  case load  =>
    exact .bind (.bind .get fun _ => .pure _) fun _ =>
      .ite (.bind (noted_untimed (fun _ => rfl) _) fun _ => hd) hd

-- A client that answers is timed once.
theorem runTimed_timed (scale : Scale) :
    (b.noting.runTimed scale).Ends t
      (fun take t' => t'.timings = t.timings ++ Exchange.timing scale take) (fun _ _ => True) := by
  have hr : (onEngine (b.noting.engine.runClient scale).attempt).Ends t
      (fun o t' => ∀ r, o = .ok r → t'.timings = t.timings ++ [.run scale (.ok r)])
      (fun _ _ => True) := by
    refine onEngine_ends (Q := fun o (w : List Note × σ) => ∀ r, o = .ok r →
      Engine.timings w.1 = t.timings ++ [.run scale (.ok r)]) (E := fun _ _ => True) (.attempt ?_)
    simp only [noting, Engine.noting, noted, Action.Ends]
    cases b.engine.runClient scale t.world.2
    case ok r s => simp [State.timings, Engine.timings, Exchange.isTiming]
    case error f s => cases f <;> simp
  refine hr.bind fun o t₁ h₁ => ?_
  have he : (observe b.noting.engine.elapsed).Ends t₁
      (fun d t' => t'.timings = t₁.timings ++ [.elapsed d]) (fun _ _ => True) := by
    simp [Action.Ends, observe, onEngine, noting, Engine.noting, seen, State.timings,
      Engine.timings, Exchange.isTiming]
  refine he.bind fun d t₂ h₂ => ?_
  cases o
  case error => trivial
  case ok r  => exact .pure (by rw [h₂, h₁ r rfl, List.append_assoc]; rfl)

theorem iterate_tallies (ha : a.Tallies b.policy scale rs) (hl : rs.length < scale.iterations) :
    (b.noting.iterate name mode scale rs.length a).Ends t
      (fun v t' => ∃ take, t'.timings = t.timings ++ Exchange.timing scale take ∧
        v.Tallies b.policy scale rs take.1) (fun _ _ => True) := by
  have hk {α : Type} {x : Action (State (List Note × σ)) α} (hx : x.Keeps State.timings)
      (t : State (List Note × σ)) :
      x.Ends t (fun _ t' => t'.timings = t.timings) (fun _ _ => True) :=
    (hx.ends t).imp_error fun _ _ _ => trivial
  refine (hk checkShutdown_untimed t).bind fun _ t₁ h₁ => ?_
  refine (runTimed_timed scale).bind fun take t₂ h₂ => ?_
  refine (hk ((logged_notes _).map Engine.timings) t₂).bind fun _ t₃ h₃ => ?_
  have hj := judge_tallies (b := b.noting) (s := .of scale rs.length take.2 take.1) (t := t₃)
    ha rfl hl
  refine ((hk ((judge_notes a _).map Engine.timings) t₃).and hj).bind fun v t₄ ⟨h₄, hv⟩ => ?_
  have ht : t₄.timings = t.timings ++ Exchange.timing scale take := by rw [h₄, h₃, h₂, h₁]
  cases v
  case abort => exact .pure ⟨take, ht, hv⟩
  case goOn  =>
    refine (hk (betweenIterations_untimed _) t₄).bind fun _ t₅ h₅ => ?_
    exact .pure ⟨take, h₅.trans ht, hv⟩

-- What a scale has come to after some clients: the takes that are in the journal, and an outcome
-- that accounts for them and those before.
def Accounted (policy : FailurePolicy) (scale : Scale) (rs : List Invocation)
    (t : State (List Note × σ)) (o : Outcome) (t' : State (List Note × σ)) : Prop :=
  ∃ takes : List (Invocation × Duration),
    t'.timings = t.timings ++ takes.flatMap (Exchange.timing scale) ∧
    Accounts scale policy (rs ++ takes.map Prod.fst) o

theorem runIterations_accounts {left : Nat} (ha : a.Tallies b.policy scale rs)
    (hl : rs.length + left = scale.iterations) :
    (b.noting.runIterations name mode scale left rs.length a).Ends t
      (Accounted b.policy scale rs t) (fun _ _ => True) := by
  induction left generalizing rs a t
  case zero => exact .pure ⟨[], by simp, by simpa using ha.outcome hl⟩
  case succ left hi =>
    rw [runIterations_succ]
    refine (iterate_tallies ha (by omega)).bind fun v t₁ ⟨take, ht, hv⟩ => ?_
    cases v
    case abort o => exact .pure ⟨[take], by simpa using ht, hv⟩
    case goOn a =>
      have hr := hi (t := t₁) hv (by simp; omega)
      rw [List.length_append] at hr
      refine hr.imp (fun o t₂ ⟨takes, ht', ho⟩ => ⟨take :: takes, ?calls, ?account⟩)
        (fun _ _ h => h)
      case calls => rw [ht', ht, List.flatMap_cons, List.append_assoc]
      case account => simpa using ho

theorem runScale_accounted :
    (b.noting.runScale name mode scale).Ends t (Accounted b.policy scale [] t)
      (fun _ _ => True) := by
  have hp : (b.noting.prepareScale mode).Keeps State.timings := prepareScale_untimed
  refine ((hp.ends t).imp_error fun _ _ _ => trivial).bind fun _ t₁ h₁ => ?_
  refine (runIterations_accounts (.new scale) (Nat.zero_add _)).imp
    (fun o t₂ ⟨takes, ht, ho⟩ => ⟨takes, h₁ ▸ ht, ho⟩) (fun _ _ h => h)

-- A scale in which nothing fails has an outcome. It accounts for the clients that were run, and
-- each of them was timed once.
theorem runScale_accounts {s : State σ} (hi : scale.iterations ≤ maxCount)
    (hf : Fine (b.moments (·.runScale name mode scale) s)) :
    ∃ (outcome : Outcome) (s' : State σ) (takes : List (Invocation × Duration)),
      b.runScale name mode scale s = .ok outcome s' ∧
      b.timings (·.runScale name mode scale) s = takes.flatMap (Exchange.timing scale) ∧
      Accounts scale b.policy (takes.map Prod.fst) outcome := by
  have hr : (b.recording.runScale name mode scale).Over (State.map Prod.snd)
      (b.runScale name mode scale) := runScale_over (recording_over b)
  have hb := hr.ends_after
    ((FailsFast.relates b).runScale (.inr hi) (s.recorded []) (List.forall_mem_nil _))
  have ⟨outcome, s', h⟩ : ∃ outcome s', b.runScale name mode scale s = .ok outcome s' := by
    cases h : b.runScale name mode scale s
    case ok outcome s' => exact ⟨outcome, s', rfl⟩
    case error e s'    => exact absurd hf (FailedWith.not_fine (hb.of_error h))
  have ⟨t, ht, _⟩ := (runScale_over b.noting_over).of_ok (t := s.noted []) h
  have ⟨takes, htk, ho⟩ := runScale_accounted.of_ok ht
  refine ⟨outcome, s', takes, h, ?_, ho⟩
  simp only [timings, notes, Action.after_ok ht]
  exact htk

-- The second of three clients exits with a code.
theorem runScale_accounts_exit :
    let scale : Scale := ⟨"small", ⟨"small.txt"⟩, 3, by decide⟩
    let b : Bench Script := ⟨Script.engine, .abortScale⟩
    let s : State Script :=
      ⟨{ Script.blank true with takes := [.success, ⟨⟨some 7, 0, false⟩, none, false⟩] }, [], []⟩
    scale.iterations ≤ maxCount ∧ Fine (b.moments (·.runScale "tiers" .load scale) s) ∧
      ∃ (outcome : Outcome) (s' : State Script) (takes : List (Invocation × Duration)),
        b.runScale "tiers" .load scale s = .ok outcome s' ∧
        b.timings (·.runScale "tiers" .load scale) s = takes.flatMap (Exchange.timing scale) ∧
        Accounts scale .abortScale (takes.map Prod.fst) outcome := by
  intro scale b s
  have hi : scale.iterations ≤ maxCount := by decide
  have hf : Fine (b.moments (·.runScale "tiers" .load scale) s) := by
    simp only [Fine]
    decide +kernel
  exact ⟨hi, hf, runScale_accounts hi hf⟩

end Bench

end EngineBench
