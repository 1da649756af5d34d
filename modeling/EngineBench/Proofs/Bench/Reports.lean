import EngineBench.Proofs.Bench.Laws
import EngineBench.Proofs.Bench.Stages

namespace EngineBench

open Engine

namespace Reporter

-- All collectors are told the same, one report after the other.
def told (reports : List Report) (r : Reporter) : Reporter :=
  r.map fun c => { c with past := c.past ++ reports }

variable {r : Reporter} {xs ys : List Report}

theorem told_nil : r.told [] = r := by
  simp [told]

theorem told_told : (r.told xs).told ys = r.told (xs ++ ys) := by
  simp [told]

theorem send_told (report : Report) : (r.send report).1 = r.told [report] := by
  simp [send, told, Collector.take, List.unzip_fst]

end Reporter

namespace Bench

variable {σ α : Type} {b : Bench σ} {name : String} {mode : Mode} {scale : Scale}

theorem reportOutcome_eq (b : Bench σ) (name : String) :
    (outcome : Outcome) → b.reportOutcome name outcome = b.report (.of name outcome)
  | .completed _ | .failed .. => rfl

-- A report is made, whatever the collectors do with it.
theorem exists_report_ok (b : Bench σ) (r : Report) (s : State σ) :
    ∃ s', b.report r s = .ok () s' ∧ s'.reporter = s.reporter.told [r] :=
  ⟨_, rfl, Reporter.send_told r⟩

-- Each stage begins when all stages before it are reported, and when the last one has ended it is
-- reported as well.
def Told (b : Bench σ) : Reporter → List (Stage σ) → Reporter → Prop
  | r, [], r'      => r' = r
  | r, g :: gs, r' => g.start.reporter = r ∧ b.Told (r.told (g.report? b).toList) gs r'

namespace Told

variable {r r₁ r₂ : Reporter} {g : Stage σ} {gs gs₁ gs₂ : List (Stage σ)}

theorem eq_told (h : b.Told r gs r₁) : r₁ = r.told (gs.filterMap (·.report? b)) := by
  induction gs generalizing r
  case nil => exact h.trans Reporter.told_nil.symm
  case cons g gs hi =>
    rw [hi h.right, Reporter.told_told]
    cases hg : g.report? b <;> simp [hg]

theorem append (h₁ : b.Told r gs₁ r₁) (h₂ : b.Told r₁ gs₂ r₂) : b.Told r (gs₁ ++ gs₂) r₂ := by
  induction gs₁ generalizing r
  case nil          => exact h₁ ▸ h₂
  case cons g gs hi => exact ⟨h₁.left, hi h₁.right⟩

theorem start_eq (h : b.Told r (gs₁ ++ g :: gs₂) r₂) :
    g.start.reporter = r.told (gs₁.filterMap (·.report? b)) := by
  induction gs₁ generalizing r
  case nil => exact h.left.trans Reporter.told_nil.symm
  case cons g' gs hi =>
    rw [hi h.right, Reporter.told_told]
    cases hg : g'.report? b <;> simp [hg]

end Told

namespace Stage

variable {m : Benchmark} {s s₁ : State σ}

theorem report?_prepare : (⟨m, none, s⟩ : Stage σ).report? b = none := by
  simp only [report?, act]
  cases h : b.prepare m s
  case ok    => rw [Action.bind_ok h]; rfl
  case error => rw [Action.bind_error h]

theorem report?_ok {outcome : Outcome} (h : b.runScale m.name m.mode scale s = .ok outcome s₁) :
    (⟨m, some scale, s⟩ : Stage σ).report? b = some (.of m.name outcome) := by
  simp only [report?, act]
  rw [Action.bind_ok h]
  rfl

theorem report?_error {e : Abort} (h : b.runScale m.name m.mode scale s = .error e s₁) :
    (⟨m, some scale, s⟩ : Stage σ).report? b = none := by
  simp only [report?, act]
  rw [Action.bind_error h]

end Stage

theorem runScales_told (m : Benchmark) (scales : List Scale) (s : State σ) :
    b.Told s.reporter (b.scaleStages m scales s)
      ((b.runScales m.name m.mode scales).after s).reporter := by
  induction scales generalizing s
  case nil => exact rfl
  case cons scale rest hi =>
    have hk : ((b.runScale m.name m.mode scale).after s).reporter = s.reporter :=
      Silent.runScale.after s
    refine ⟨rfl, ?_⟩
    cases h : b.runScale m.name m.mode scale s
    case error e s₁ =>
      have hs : (b.runScales m.name m.mode (scale :: rest)).after s = s₁ :=
        Action.after_error (Action.bind_error h)
      rw [Action.after_error h] at hk
      rw [hs, hk, Stage.report?_error h]
      exact Reporter.told_nil.symm
    case ok outcome s₁ =>
      have ⟨s₂, hr, ht⟩ := exists_report_ok b (.of m.name outcome) s₁
      rw [← reportOutcome_eq] at hr
      have hs : (b.runScales m.name m.mode (scale :: rest)).after s =
          (b.runScales m.name m.mode rest).after s₂ :=
        (Action.after_bind_ok h).trans <| (Action.after_bind_ok hr).trans Action.after_map
      rw [Action.after_ok h] at hk
      rw [hk] at ht
      rw [hs, Stage.report?_ok h]
      simp only [Action.after_ok hr]
      exact ht ▸ hi s₂

theorem runBenchmark_told (m : Benchmark) (s : State σ) :
    b.Told s.reporter (b.benchmarkStages m s) ((b.runBenchmark m).after s).reporter := by
  have hk := (Silent.prepare (b := b) m).after s
  refine ⟨rfl, ?_⟩
  rw [runBenchmark_eq, Stage.report?_prepare]
  cases h : b.prepare m s
  case error e s₁ =>
    rw [Action.after_error h] at hk
    rw [Action.after_error (Action.bind_error h), hk]
    exact Reporter.told_nil.symm
  case ok u s₁ =>
    rw [Action.after_ok h] at hk
    rw [Action.after_bind_ok h, Option.toList_none, Reporter.told_nil, ← hk]
    exact runScales_told m m.catalog.scales s₁

theorem runAll_told (ms : List Benchmark) (s : State σ) :
    b.Told s.reporter (b.allStages ms s) ((b.runAll ms).after s).reporter := by
  induction ms generalizing s
  case nil => exact rfl
  case cons m rest hi =>
    refine (runBenchmark_told m s).append ?_
    cases h : b.runBenchmark m s
    case error e s₁ =>
      have hs : (b.runAll (m :: rest)).after s = s₁ := Action.after_error (Action.bind_error h)
      rw [hs, Action.after_error h]
      exact rfl
    case ok outcomes s₁ =>
      have hs : (b.runAll (m :: rest)).after s = (b.runAll rest).after s₁ :=
        (Action.after_bind_ok h).trans Action.after_map
      rw [hs, Action.after_ok h]
      exact hi s₁

theorem serve_told (errands : List Errand) (s : State σ) :
    b.Told s.reporter (b.stages errands s) ((b.serve errands).after s).reporter := by
  induction errands generalizing s
  case nil => exact rfl
  case cons errand rest hi =>
    refine .append ?_ (hi ((b.perform errand).after s))
    cases errand
    case one m  => exact runBenchmark_told m s
    case all ms => exact runAll_told ms s

-- The last call of the engine.
def lastStop (b : Bench σ) (graceful : Bool) : Action (State σ) Unit := do
  if graceful && (← b.isRunning) then onEngine b.engine.stop

theorem finish_eq (b : Bench σ) (graceful : Bool) : b.finish graceful = (do
    let stopped ← (b.lastStop graceful).attempt
    b.report .finalize
    Action.ofExcept stopped) :=
  rfl

theorem Silent.lastStop (b : Bench σ) (graceful : Bool) : Silent (b.lastStop graceful) :=
  .bind Silent.isRunning fun _ => .ite (Silent.onEngine _) (.pure _)

theorem lastStop_answers (hs : ∀ w p w', b.engine.stop w ≠ .error (.breach p) w')
    {graceful : Bool} {s : State σ} (p : Breach) (s' : State σ) :
    b.lastStop graceful s ≠ .error (.breach p) s' := by
  intro h
  change (if graceful && b.engine.isRunning s.world then onEngine b.engine.stop else pure ()) s =
    _ at h
  split at h
  case isFalse => cases h
  case isTrue =>
    simp only [Bench.onEngine] at h
    cases he : b.engine.stop s.world <;> simp only [he] at h <;> cases h
    exact hs _ _ _ he

-- A stop that answers, even with a fault, does not keep the last report from being made.
theorem finish_cases (b : Bench σ) (graceful : Bool) (s : State σ) :
    (∃ stopped, (b.finish graceful).attempt s =
      .ok stopped ((b.report .finalize).after ((b.lastStop graceful).after s))) ∨
    ∃ p s', b.lastStop graceful s = .error (.breach p) s' ∧
      b.finish graceful s = .error (.breach p) s' := by
  obtain ⟨stopped, hs, _⟩ | ⟨p, hp⟩ := (b.lastStop graceful).attempt_cases s
  case inl =>
    have hf : b.finish graceful s = Action.ofExcept stopped _ := Action.bind_ok hs
    refine .inl ⟨stopped, ?_⟩
    simp only [Action.attempt, hf]
    cases stopped <;> rfl
  case inr =>
    refine .inr ⟨p, _, hp, ?_⟩
    exact finish_eq b graceful ▸ Action.bind_error (Action.attempt_breach hp)

theorem finish_reporter (hs : ∀ w p w', b.engine.stop w ≠ .error (.breach p) w') (graceful : Bool)
    (s : State σ) : ((b.finish graceful).after s).reporter = s.reporter.told [.finalize] := by
  obtain ⟨_, hf⟩ | ⟨p, _, hp, _⟩ := b.finish_cases graceful s
  case inl =>
    rw [← Action.after_attempt, Action.after_ok hf, ← (Silent.lastStop b graceful).after s]
    exact Reporter.send_told _
  case inr => exact absurd hp (lastStop_answers hs p _)

section

variable {m : Benchmark}

theorem outcome_scale (a : Accumulator) : a.outcome.scale = a.scale := by
  simp only [Accumulator.outcome, Accumulator.summary?]
  cases a.extremes <;> rfl

theorem iterate_scale (iteration : Nat) (a : Accumulator) (s : State σ) :
    (b.iterate name mode scale iteration a).Ends s
      (fun verdict _ => match verdict with
        | .abort outcome => outcome.scale = a.scale
        | .goOn a'       => a'.scale = a.scale)
      (fun _ _ => True) := by
  refine .bind .any fun _ s₁ _ => .bind .any fun p s₂ _ => .bind .any fun _ s₃ _ => ?_
  refine (judge_ends a _ s₃).bind fun verdict s₄ hv => ?_
  cases verdict
  case abort => exact .pure hv.left
  case goOn  => exact .bind .any fun _ _ _ => .pure hv.left

-- A scale is not mixed up with another one, whatever way it ends.
theorem runIterations_scale (left iteration : Nat) (a : Accumulator) (s : State σ) :
    (b.runIterations name mode scale left iteration a).Ends s
      (fun outcome _ => outcome.scale = a.scale) (fun _ _ => True) := by
  induction left generalizing iteration a s
  case zero => exact .pure (outcome_scale a)
  case succ left hi =>
    rw [runIterations_succ]
    refine (iterate_scale iteration a s).bind fun verdict s₁ hv => ?_
    cases verdict
    case abort  => exact .pure hv
    case goOn a => exact (hi _ a s₁).imp (fun _ _ h => h.trans hv) (fun _ _ h => h)

theorem runScale_scale (s : State σ) :
    (b.runScale name mode scale).Ends s (fun outcome _ => outcome.scale = scale)
      (fun _ _ => True) :=
  .bind .any fun _ s₁ _ => runIterations_scale _ 0 (.new scale) s₁

-- One outcome for each scale, the one that was reported.
theorem runScales_outcomes {scales : List Scale} {s s' : State σ} {outcomes : List Outcome}
    (h : b.runScales m.name m.mode scales s = .ok outcomes s') :
    outcomes.map (·.scale) = scales ∧
      (b.scaleStages m scales s).filterMap (·.report? b) = outcomes.map (Report.of m.name) := by
  induction scales generalizing s outcomes
  case nil => cases h; exact ⟨rfl, rfl⟩
  case cons scale rest hi =>
    have ⟨outcome, s₁, hr, h⟩ := Action.bind_eq_ok.mp h
    have ⟨_, s₂, hs, h⟩ := Action.bind_eq_ok.mp h
    have ⟨rest', s₃, h, hp⟩ := Action.bind_eq_ok.mp h
    cases hp
    have ⟨hc, hm⟩ := hi h
    refine ⟨List.cons_eq_cons.mpr ⟨(runScale_scale s).of_ok hr, hc⟩, ?_⟩
    simp only [scaleStages, hr, List.filterMap_cons, Stage.report?_ok hr, Action.after_ok hs, hm]
    rfl

theorem runBenchmark_outcomes {s s' : State σ} {outcomes : List Outcome}
    (h : b.runBenchmark m s = .ok outcomes s') :
    outcomes.map (·.scale) = m.catalog.scales ∧
      (b.benchmarkStages m s).filterMap (·.report? b) = outcomes.map (Report.of m.name) := by
  have ⟨_, s₁, hp, h⟩ := Action.bind_eq_ok.mp (runBenchmark_eq b m ▸ h)
  have ⟨hc, hm⟩ := runScales_outcomes h
  refine ⟨hc, ?_⟩
  simp only [benchmarkStages, hp, List.filterMap_cons, Stage.report?_prepare, hm]

theorem runAll_iff {ms : List Benchmark} {s s' : State σ} {outcomes : List Outcome} :
    b.runAll ms s = .ok outcomes s' ↔ ∃ parts, b.Runs ms s parts s' ∧ outcomes = parts.flatten := by
  constructor
  case mp =>
    intro h
    induction ms generalizing s outcomes
    case nil => cases h; exact ⟨[], .nil, rfl⟩
    case cons m rest hi =>
      have ⟨part, s₁, hb, h⟩ := Action.bind_eq_ok.mp h
      have ⟨outcomes', s₂, h, hp⟩ := Action.bind_eq_ok.mp h
      cases hp
      have ⟨parts, hr, ho⟩ := hi h
      exact ⟨part :: parts, .cons hb hr, ho ▸ rfl⟩
  case mpr =>
    intro ⟨parts, hr, ho⟩
    subst ho
    induction hr
    case nil => rfl
    case cons hb _ hi =>
      exact (Action.bind_ok hb).trans (Action.bind_ok hi)

end

-- The collectors learn of every scale that ended, before anything of the next one, and of no
-- other; at last they learn that the bench is finished, even if its server did not stop. What the
-- runs give back is what the collectors learned.
theorem reports_match_outcomes (hs : ∀ w p w', b.engine.stop w ≠ .error (.breach p) w')
    (errands : List Errand) (graceful : Bool) (s : State σ) :
    ((b.live errands (some graceful)).after s).reporter =
      s.reporter.told ((b.stages errands s).filterMap (·.report? b) ++ [.finalize]) ∧
    (∀ before g after, b.stages errands s = before ++ g :: after →
      g.start.reporter = s.reporter.told (before.filterMap (·.report? b)) ∧
      ((g.act b).after g.start).reporter = g.start.reporter) ∧
    b.calls (·.live errands (some graceful)) s = (b.stages errands s).flatMap (·.calls b) ++
      b.calls (·.finish graceful) ((b.serve errands).after s) ∧
    (∀ m s, (b.benchmarkStages m s).filterMap (·.scale) <+: m.catalog.scales) ∧
    (∀ m s outcomes s', b.runBenchmark m s = .ok outcomes s' →
      outcomes.map (·.scale) = m.catalog.scales ∧
      (b.benchmarkStages m s).filterMap (·.report? b) = outcomes.map (Report.of m.name)) ∧
    ∀ ms s outcomes s', b.runAll ms s = .ok outcomes s' ↔
      ∃ parts, b.Runs ms s parts s' ∧ outcomes = parts.flatten := by
  have ht := serve_told (b := b) errands s
  refine ⟨?finalized, ?stages, calls_live errands graceful s, benchmarkStages_scales,
    fun _ _ _ _ => runBenchmark_outcomes, fun _ _ _ _ => runAll_iff⟩
  case finalized =>
    have hf := finish_reporter hs graceful ((b.serve errands).after s)
    rw [ht.eq_told, Reporter.told_told] at hf
    exact (congrArg State.reporter (Action.after_bind_ok (serve_ok errands s))).trans hf
  case stages =>
    intro before g after hg
    exact ⟨(hg ▸ ht).start_eq, (Silent.act g).after g.start⟩

-- The last restart of the load fails here, so its second scale is not reported, and so does the
-- stop at the end.
theorem reports_match_outcomes_tiers :
    let b : Bench Script := ⟨Script.engine, .record⟩
    let s : State Script := ⟨{ Script.blank false with
      starts := [none, none, none, none, some .shutdown]
      stops  := [none, none, none, none, some .shutdown] }, [Collector.probe], []⟩
    let errands : List Errand := [.one (.tiers .load), .all [.tiers .query, .tiers .query]]
    let reports := (b.stages errands s).filterMap (·.report? b)
    ((b.live errands (some true)).after s).reporter = s.reporter.told (reports ++ [.finalize]) ∧
      reports.length = 5 := by
  intro b s errands reports
  have h := reports_match_outcomes (b := b) Script.stop_answers errands true s
  exact ⟨h.left, by decide +kernel⟩

end Bench

end EngineBench
