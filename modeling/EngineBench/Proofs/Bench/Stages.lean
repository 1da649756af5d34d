import EngineBench.Proofs.Bench.Over

namespace EngineBench

open Engine

namespace Bench

variable {σ α : Type} {b : Bench σ} {name : String} {mode : Mode} {scale : Scale}

-- Something is done without a report.
def Silent (x : Action (State σ) α) : Prop :=
  x.Keeps State.reporter

namespace Silent

theorem onEngine (x : Action σ α) : Silent (onEngine x) := by
  refine .of_after fun s => ?_
  simp only [Action.after, Bench.onEngine]
  cases x s.world <;> rfl

theorem observe (f : σ → α × σ) : Silent (observe f) :=
  onEngine _

theorem logged (records : Log) : Silent (b.logged records) :=
  onEngine _

theorem isRunning : Silent b.isRunning :=
  .of_after fun _ => rfl

theorem checkShutdown : Silent b.checkShutdown :=
  .bind (observe _) fun _ => .ite (.fail _) (.pure _)

theorem runTimed : Silent (b.runTimed scale) :=
  .bind (onEngine _) fun outcome => .bind (observe _) fun _ =>
    .bind (.ofExcept outcome) fun _ => .pure _

theorem relates (b : Bench σ) :
    RelatesScales (fun _ x (_ : Action (State σ) _) => Silent x) b b :=
  .of_clients {
    pure       := .pure
    bind       := .bind
    logged     := logged
    isRunning  := isRunning
    resetState := onEngine _
    start      := onEngine _
    stop       := onEngine _
  } rfl fun _ => .bind checkShutdown fun _ => runTimed

theorem runScale : Silent (b.runScale name mode scale) :=
  (relates b).runScale (.inl fun _ p => .ofBreach (.error p))

theorem prepare (m : Benchmark) : Silent (b.prepare m) :=
  (relates b).prepare m

theorem act (g : Stage σ) : Silent (g.act b) := by
  simp only [Stage.act]
  cases g.scale
  case none => exact .bind (prepare _) fun _ => .pure _
  case some => exact .bind runScale fun _ => .pure _

end Silent

theorem runBenchmark_eq (b : Bench σ) (m : Benchmark) :
    b.runBenchmark m = (b.prepare m >>= fun _ => b.runScales m.name m.mode m.catalog.scales) := by
  simp only [runBenchmark, prepare, bind_assoc]

theorem scaleStages_scales (m : Benchmark) (scales : List Scale) (s : State σ) :
    (b.scaleStages m scales s).filterMap (·.scale) <+: scales := by
  induction scales generalizing s
  case nil => exact List.prefix_rfl
  case cons scale rest hi =>
    simp only [scaleStages, List.filterMap_cons]
    cases b.runScale m.name m.mode scale s
    case error => exact List.prefix_append [scale] rest
    case ok    => exact List.cons_prefix_cons.mpr ⟨rfl, hi _⟩

theorem benchmarkStages_scales (m : Benchmark) (s : State σ) :
    (b.benchmarkStages m s).filterMap (·.scale) <+: m.catalog.scales := by
  simp only [benchmarkStages, List.filterMap_cons]
  cases b.prepare m s
  case error => exact List.nil_prefix
  case ok    => exact scaleStages_scales m m.catalog.scales _

namespace Stage

-- The calls that are made while the stage runs.
def calls (b : Bench σ) (g : Stage σ) : List Note :=
  b.calls (g.act ·) g.start

theorem calls_prepare (b : Bench σ) (m : Benchmark) (s : State σ) :
    (⟨m, none, s⟩ : Stage σ).calls b = b.calls (·.prepare m) s :=
  calls_map _ _ _

theorem calls_scale (b : Bench σ) (m : Benchmark) (scale : Scale) (s : State σ) :
    (⟨m, some scale, s⟩ : Stage σ).calls b = b.calls (·.runScale m.name m.mode scale) s :=
  calls_map _ _ _

end Stage

-- Reports are no calls.
theorem calls_reportOutcome (b : Bench σ) (name : String) (outcome : Outcome) (s : State σ) :
    b.calls (·.reportOutcome name outcome) s = [] := by
  cases outcome <;> rfl

theorem calls_runScales (m : Benchmark) (scales : List Scale) (s : State σ) :
    b.calls (·.runScales m.name m.mode scales) s =
      (b.scaleStages m scales s).flatMap (·.calls b) := by
  induction scales generalizing s
  case nil => rfl
  case cons scale rest hi =>
    have hx : (b.noting.runScale m.name m.mode scale).Over _ _ := runScale_over b.noting_over
    cases h : b.runScale m.name m.mode scale s
    case error e s₁ =>
      simp only [scaleStages, h, List.flatMap_singleton, Stage.calls_scale]
      exact calls_bind_error hx h
    case ok outcome s₁ =>
      have ⟨s₂, hr⟩ : ∃ s₂, b.reportOutcome m.name outcome s₁ = .ok () s₂ := by
        cases outcome <;> exact ⟨_, rfl⟩
      have hs (notes : List Note) : (b.noting.runScales m.name m.mode rest).Over _ _ :=
        runScales_over (b.noting_over_prepend notes) rest
      simp only [scaleStages, h, List.flatMap_cons, Stage.calls_scale, Action.after_ok hr, ← hi]
      refine (calls_bind_ok hx h fun notes => .bind
        (reportOutcome_over (b.noting_over_prepend notes) outcome) fun _ =>
          .bind (hs notes) fun _ => .pure _).trans ?_
      refine congrArg (_ ++ ·) <| (calls_bind_ok (reportOutcome_over b.noting_over outcome) hr
        fun notes => .bind (hs notes) fun _ => .pure _).trans ?_
      rw [calls_reportOutcome, calls_map]
      rfl

theorem calls_runBenchmark (m : Benchmark) (s : State σ) :
    b.calls (·.runBenchmark m) s = (b.benchmarkStages m s).flatMap (·.calls b) := by
  simp only [runBenchmark_eq]
  have hx := prepare_over b.noting_over m
  cases h : b.prepare m s
  case error e s₁ =>
    simp only [benchmarkStages, h, List.flatMap_singleton, Stage.calls_prepare]
    exact calls_bind_error hx h
  case ok u s₁ =>
    simp only [benchmarkStages, h, List.flatMap_cons, Stage.calls_prepare, ← calls_runScales]
    exact calls_bind_ok hx h fun notes => runScales_over (b.noting_over_prepend notes) _

theorem calls_runAll (ms : List Benchmark) (s : State σ) :
    b.calls (·.runAll ms) s = (b.allStages ms s).flatMap (·.calls b) := by
  induction ms generalizing s
  case nil => rfl
  case cons m rest hi =>
    have hx := runBenchmark_over b.noting_over m
    cases h : b.runBenchmark m s
    case error e s₁ =>
      simp only [allStages, h, List.append_nil, ← calls_runBenchmark]
      exact calls_bind_error hx h
    case ok outcomes s₁ =>
      simp only [allStages, h, List.flatMap_append, ← calls_runBenchmark, ← hi]
      refine (calls_bind_ok hx h fun notes => .bind
        (runAll_over (b.noting_over_prepend notes) rest) fun _ => .pure _).trans ?_
      exact congrArg (_ ++ ·) (calls_map _ _ _)

theorem calls_perform (errand : Errand) (s : State σ) :
    b.calls (·.perform errand) s = (b.errandStages errand s).flatMap (·.calls b) := by
  cases errand
  case one m  => exact calls_runBenchmark m s
  case all ms => exact calls_runAll ms s

-- Nothing is called outside the stages.
theorem calls_serve (errands : List Errand) (s : State σ) :
    b.calls (·.serve errands) s = (b.stages errands s).flatMap (·.calls b) := by
  induction errands generalizing s
  case nil => rfl
  case cons errand rest hi =>
    simp only [stages, List.flatMap_append, ← calls_perform, ← hi]
    exact calls_bind_ok (perform_over b.noting_over errand).regardless rfl
      fun notes => serve_over (b.noting_over_prepend notes) rest

theorem serve_ok (errands : List Errand) (s : State σ) :
    b.serve errands s = .ok () ((b.serve errands).after s) := by
  induction errands generalizing s
  case nil                 => rfl
  case cons errand rest hi => exact hi ((b.perform errand).after s)

theorem calls_live (errands : List Errand) (graceful : Bool) (s : State σ) :
    b.calls (·.live errands (some graceful)) s = (b.stages errands s).flatMap (·.calls b) ++
      b.calls (·.finish graceful) ((b.serve errands).after s) := by
  rw [← calls_serve]
  exact calls_bind_ok (serve_over b.noting_over errands) (serve_ok errands s)
    fun notes => (finish_over (b.noting_over_prepend notes) graceful).regardless

end Bench

end EngineBench
