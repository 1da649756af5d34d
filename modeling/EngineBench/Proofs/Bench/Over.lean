import EngineBench.Bench.Journal
import EngineBench.Proofs.Bench.Steps

namespace EngineBench

open Engine

namespace Action

variable {σ τ α β : Type}

-- The two end alike, and the map takes each state of the upper one to the state of the lower one.
def Over (φ : τ → σ) (x : Action τ α) (y : Action σ α) : Prop :=
  ∀ t, x.Ends t (fun a t' => y (φ t) = .ok a (φ t')) (fun e t' => y (φ t) = .error e (φ t'))

namespace Over

variable {φ : τ → σ} {x : Action τ α} {y : Action σ α} {t : τ} {s : σ}

theorem of_ok {a : α} (h : x.Over φ y) (hy : y (φ t) = .ok a s) :
    ∃ t', x t = .ok a t' ∧ φ t' = s := by
  have ht := h t
  simp only [Ends] at ht
  cases hx : x t <;> simp only [hx, hy] at ht <;> cases ht
  exact ⟨_, rfl, rfl⟩

theorem of_error {e : Abort} (h : x.Over φ y) (hy : y (φ t) = .error e s) :
    ∃ t', x t = .error e t' ∧ φ t' = s := by
  have ht := h t
  simp only [Ends] at ht
  cases hx : x t <;> simp only [hx, hy] at ht <;> cases ht
  exact ⟨_, rfl, rfl⟩

theorem after (h : x.Over φ y) : y.after (φ t) = φ (x.after t) := by
  have ht := h t
  simp only [Ends, Action.after] at *
  cases hx : x t <;> simp only [hx] at ht ⊢ <;> rw [ht]

theorem answer (h : x.Over φ y) : y.answer (φ t) = x.answer t := by
  have ht := h t
  simp only [Ends, Action.answer] at *
  cases hx : x t <;> simp only [hx] at ht ⊢ <;> rw [ht]

theorem ends {Q : α → σ → Prop} {E : Abort → σ → Prop} (h : x.Over φ y)
    (hx : x.Ends t (fun a t' => Q a (φ t')) (fun e t' => E e (φ t'))) : y.Ends (φ t) Q E := by
  have ht := h t
  simp only [Ends] at *
  cases hr : x t <;> simp only [hr] at ht hx <;> simpa only [ht] using hx

-- How the upper action ended, told of the lower one.
theorem ends_after {Q : α → τ → Prop} {E : Abort → τ → Prop} (h : x.Over φ y) (hx : x.Ends t Q E) :
    y.Ends (φ t) (fun a _ => Q a (x.after t)) (fun e _ => E e (x.after t)) := by
  refine h.ends ?_
  simp only [Ends, Action.after] at *
  cases hr : x t <;> simpa only [hr] using hx

theorem pure (a : α) : (Pure.pure a : Action τ α).Over φ (Pure.pure a) :=
  fun _ => rfl

theorem fail (f : Fault) : (Action.fail f : Action τ α).Over φ (Action.fail f) :=
  fun _ => rfl

theorem ofExcept :
    (a : Except Fault α) → (Action.ofExcept a : Action τ α).Over φ (Action.ofExcept a)
  | .ok _ | .error _ => fun _ => rfl

theorem bind {f : α → Action τ β} {g : α → Action σ β} (hx : x.Over φ y)
    (hf : ∀ a, (f a).Over φ (g a)) : (x >>= f).Over φ (y >>= g) := by
  intro t
  refine ((hx t).imp (fun _ _ h => h) (fun _ _ h => bind_error h)).bind fun a t' h => ?_
  rw [bind_ok h]
  exact hf a t'

theorem get_bind {f : τ → Action τ α} {g : σ → Action σ α} (h : ∀ t, (f t).Over φ (g (φ t))) :
    ((MonadState.get : Action τ τ) >>= f).Over φ ((MonadState.get : Action σ σ) >>= g) :=
  fun t => h t t

theorem attempt (hx : x.Over φ y) : x.attempt.Over φ y.attempt := by
  intro t
  have ht := hx t
  simp only [Ends, Action.attempt] at *
  cases h : x t <;> simp only [h] at ht ⊢
  case ok        => rw [ht]
  case error e _ => cases e <;> simp only [ht]

theorem regardless (hx : x.Over φ y) : x.regardless.Over φ y.regardless :=
  fun _ => congrArg (EStateM.Result.ok ()) hx.after

theorem ite {c : Prop} [Decidable c] {x' : Action τ α} {y' : Action σ α} (hx : x.Over φ y)
    (hx' : x'.Over φ y') : (if c then x else x').Over φ (if c then y else y') :=
  related_ite hx hx'

end Over

end Action

namespace Engine

variable {σ τ α : Type}

structure Over (φ : τ → σ) (e₁ : Engine τ) (e₂ : Engine σ) : Prop where
  isRunning    : ∀ w, e₂.isRunning (φ w) = e₁.isRunning w
  resetState   : e₁.resetState.Over φ e₂.resetState
  start        : e₁.start.Over φ e₂.start
  stop         : e₁.stop.Over φ e₂.stop
  runClient    : ∀ scale, (e₁.runClient scale).Over φ (e₂.runClient scale)
  elapsed      : ∀ w, e₂.elapsed (φ w) = ((e₁.elapsed w).1, φ (e₁.elapsed w).2)
  shutdownSeen : ∀ w, e₂.shutdownSeen (φ w) = ((e₁.shutdownSeen w).1, φ (e₁.shutdownSeen w).2)
  log          : ∀ records w, e₂.log records (φ w) = φ (e₁.log records w)
  print        : ∀ text w, e₂.print text (φ w) = φ (e₁.print text w)

theorem noted_over (e : Engine σ) (exchange : Except Abort α → Exchange) (x : Action σ α) :
    (e.noted exchange x).Over Prod.snd x := by
  intro w
  simp only [Action.Ends, noted]
  cases h : x w.2 <;> rfl

theorem noting_over (e : Engine σ) : e.noting.Over Prod.snd e where
  isRunning _    := rfl
  resetState     := e.noted_over _ _
  start          := e.noted_over _ _
  stop           := e.noted_over _ _
  runClient _    := e.noted_over _ _
  elapsed _      := rfl
  shutdownSeen _ := rfl
  log _ _        := rfl
  print _ _      := rfl

-- The same journal, with something noted before it.
def prepend (notes : List Note) (w : List Note × σ) : List Note × σ :=
  (notes ++ w.1, w.2)

theorem noted_over_prepend (e : Engine σ) (notes : List Note) (exchange : Except Abort α → Exchange)
    (x : Action σ α) : (e.noted exchange x).Over (prepend notes) (e.noted exchange x) := by
  intro w
  simp only [Action.Ends, noted, prepend]
  cases h : x w.2 <;> simp

theorem noting_over_prepend (e : Engine σ) (notes : List Note) :
    e.noting.Over (prepend notes) e.noting where
  isRunning _    := rfl
  resetState     := e.noted_over_prepend _ _ _
  start          := e.noted_over_prepend _ _ _
  stop           := e.noted_over_prepend _ _ _
  runClient _    := e.noted_over_prepend _ _ _
  elapsed _      := by simp [noting, seen, prepend]
  shutdownSeen _ := by simp [noting, seen, prepend]
  log _ _        := rfl
  print _ _      := rfl

end Engine

namespace Bench

variable {σ τ α β : Type}

structure Over (φ : τ → σ) (b₁ : Bench τ) (b₂ : Bench σ) : Prop where
  engine : b₁.engine.Over φ b₂.engine
  policy : b₁.policy = b₂.policy

theorem noting_over (b : Bench σ) : b.noting.Over Prod.snd b :=
  ⟨b.engine.noting_over, rfl⟩

theorem noting_over_prepend (b : Bench σ) (notes : List Note) :
    b.noting.Over (prepend notes) b.noting :=
  ⟨b.engine.noting_over_prepend notes, rfl⟩

namespace State

def map (φ : τ → σ) (s : State τ) : State σ :=
  { s with world := φ s.world }

end State

open State (map)

variable {φ : τ → σ} {b₁ : Bench τ} {b₂ : Bench σ} {name : String} {mode : Mode} {scale : Scale}

theorem onEngine_over {x : Action τ α} {y : Action σ α} (h : x.Over φ y) :
    (onEngine x).Over (map φ) (onEngine y) := by
  intro s
  have hs := h s.world
  simp only [Action.Ends, onEngine, map] at *
  cases hx : x s.world <;> simp only [hx] at hs ⊢ <;> rw [hs]

theorem observe_over {f : τ → α × τ} {g : σ → α × σ} (h : ∀ w, g (φ w) = ((f w).1, φ (f w).2)) :
    (observe f).Over (map φ) (observe g) := by
  refine onEngine_over fun w => ?_
  simp only [Action.Ends, h]

section

variable (h : b₁.Over φ b₂)

include h

theorem logged_over (records : Log) : (b₁.logged records).Over (map φ) (b₂.logged records) :=
  onEngine_over fun w => congrArg (EStateM.Result.ok _) (h.engine.log records w)

theorem isRunning_over : b₁.isRunning.Over (map φ) b₂.isRunning :=
  fun s => congrArg (EStateM.Result.ok · _) (h.engine.isRunning s.world)

theorem report_over (r : Report) : (b₁.report r).Over (map φ) (b₂.report r) := by
  refine fun s => congrArg (EStateM.Result.ok _) ?_
  simp only [map, h.engine.log, h.engine.print]

theorem checkShutdown_over : b₁.checkShutdown.Over (map φ) b₂.checkShutdown :=
  .bind (observe_over h.engine.shutdownSeen) fun _ => .ite (.fail _) (.pure _)

theorem runTimed_over : (b₁.runTimed scale).Over (map φ) (b₂.runTimed scale) :=
  .bind (onEngine_over (h.engine.runClient scale).attempt) fun outcome =>
    .bind (observe_over h.engine.elapsed) fun _ =>
      .bind (.ofExcept outcome) fun _ => .pure _

theorem Over.relates : Relates (fun _ x y => x.Over (map φ) y) b₁ b₂ where
  report          := report_over h
  toRelatesScales := .of_clients {
    pure       := .pure
    bind       := .bind
    logged     := logged_over h
    isRunning  := isRunning_over h
    resetState := onEngine_over h.engine.resetState
    start      := onEngine_over h.engine.start
    stop       := onEngine_over h.engine.stop
  } h.policy fun _ => .bind (checkShutdown_over h) fun _ => runTimed_over h

omit h in
theorem over_fits (scale : Scale) :
    RelatesScales.Fits (τ := τ) (σ := σ) (fun _ x y => x.Over (map φ) y) scale :=
  .inl fun _ _ _ => rfl

theorem runScale_over : (b₁.runScale name mode scale).Over (map φ) (b₂.runScale name mode scale) :=
  h.relates.runScale (over_fits scale)

theorem reportOutcome_over (o : Outcome) :
    (b₁.reportOutcome name o).Over (map φ) (b₂.reportOutcome name o) :=
  h.relates.reportOutcome o

theorem runScales_over (scales : List Scale) :
    (b₁.runScales name mode scales).Over (map φ) (b₂.runScales name mode scales) :=
  h.relates.runScales fun scale _ => over_fits scale

theorem prepareBenchmark_over :
    (b₁.prepareBenchmark mode).Over (map φ) (b₂.prepareBenchmark mode) :=
  h.relates.prepareBenchmark

theorem prepare_over (m : Benchmark) : (b₁.prepare m).Over (map φ) (b₂.prepare m) :=
  h.relates.prepare m

theorem runBenchmark_over (m : Benchmark) : (b₁.runBenchmark m).Over (map φ) (b₂.runBenchmark m) :=
  h.relates.runBenchmark fun scale _ => over_fits scale

theorem runAll_over (ms : List Benchmark) : (b₁.runAll ms).Over (map φ) (b₂.runAll ms) :=
  h.relates.runAll fun scale _ => over_fits scale

theorem perform_over (errand : Errand) :
    (b₁.perform errand).Over (map φ) (b₂.perform errand) :=
  h.relates.perform fun scale _ => over_fits scale

theorem serve_over (errands : List Errand) :
    (b₁.serve errands).Over (map φ) (b₂.serve errands) := by
  induction errands
  case nil                 => exact .pure _
  case cons errand rest hi => exact .bind (perform_over h errand).regardless fun _ => hi

theorem finish_over (graceful : Bool) : (b₁.finish graceful).Over (map φ) (b₂.finish graceful) := by
  refine .bind (isRunning_over h) fun _ => .bind ?stop fun stopped => ?rest
  case stop => exact .attempt (.ite (onEngine_over h.engine.stop) (.pure _))
  case rest => exact .bind (report_over h _) fun _ => .ofExcept stopped

end

variable {b : Bench σ} {s s₁ : State σ}

-- What was noted before a step does not matter to it, and its calls come after that.
theorem calls_noted (act : Bench (List Note × σ) → Action (State (List Note × σ)) α)
    (ha : ∀ notes, (act b.noting).Over (map (prepend notes)) (act b.noting)) (notes : List Note) :
    ((act b.noting).after (s.noted notes)).calls =
      notes.filter (·.exchange.isCall) ++ b.calls act s := by
  have h := (ha notes).after (t := s.noted [])
  have hn : map (prepend notes) (s.noted []) = s.noted notes := by
    simp [map, prepend, State.noted]
  rw [hn] at h
  rw [h]
  simp [calls, State.calls, map, prepend]

theorem calls_map (act : Bench (List Note × σ) → Action (State (List Note × σ)) α) (g : α → β)
    (s : State σ) : b.calls (fun b => act b >>= fun a => pure (g a)) s = b.calls act s := by
  simp only [calls, Action.after_map]

section

variable {x : Bench (List Note × σ) → Action (State (List Note × σ)) α} {y : Action (State σ) α}
  {f : Bench (List Note × σ) → α → Action (State (List Note × σ)) β}

theorem calls_bind_ok {a : α} (hx : (x b.noting).Over (map Prod.snd) y) (h : y s = .ok a s₁)
    (hf : ∀ notes, (f b.noting a).Over (map (prepend notes)) (f b.noting a)) :
    b.calls (fun b => x b >>= f b) s = b.calls x s ++ b.calls (f · a) s₁ := by
  have ⟨t, ht, hs⟩ := hx.of_ok (t := s.noted []) h
  have hn : t = s₁.noted t.world.1 := by subst hs; rfl
  have hc := calls_noted (f · a) hf t.world.1 (s := s₁)
  rw [← hn] at hc
  simp only [calls, Action.after, Action.bind_ok ht, ht] at hc ⊢
  exact hc

theorem calls_bind_error {e : Abort} (hx : (x b.noting).Over (map Prod.snd) y)
    (h : y s = .error e s₁) : b.calls (fun b => x b >>= f b) s = b.calls x s := by
  have ⟨t, ht, _⟩ := hx.of_error (t := s.noted []) h
  simp only [calls, Action.after, Action.bind_error ht, ht]

end

end Bench

end EngineBench
