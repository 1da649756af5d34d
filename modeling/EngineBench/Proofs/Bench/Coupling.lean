import EngineBench.Proofs.Bench.Steps

namespace EngineBench

namespace Action

variable {σ τ α β : Type}

theorem Preserves.after_bind {x : Action σ α} {f : α → Action σ β} {I : σ → Prop} {s : σ}
    (hf : ∀ a, (f a).Preserves I) (h : I (x.after s)) : I ((x >>= f).after s) := by
  cases hx : x s
  case ok a s' =>
    rw [after_ok hx] at h
    rw [after_bind_ok hx]
    exact hf a s' h
  case error e s' =>
    rw [after_error hx] at h
    rwa [after_error (bind_error hx)]

structure Coupled (S P : σ → τ → Prop) (x : Action σ α) (y : Action τ α) : Prop where
  ends  : ∀ s t, S s t → x.Ends s
    (fun a s' => ∃ t', y t = .ok a t' ∧ S s' t')
    (fun e s' => (∃ t', y t = .error e t' ∧ S s' t') ∨ P s' (y.after t))
  parts : ∀ s, y.Preserves (P s)

namespace Coupled

variable {S P : σ → τ → Prop} {x : Action σ α} {y : Action τ α}

theorem pure (a : α) : Coupled S P (Pure.pure a) (Pure.pure a) :=
  ⟨fun _ t h => ⟨t, rfl, h⟩, fun _ => .pure a⟩

theorem throw (e : Abort) : Coupled S P (throw e : Action σ α) (throw e) :=
  ⟨fun _ t h => .inl ⟨t, rfl, h⟩, fun _ _ h => h⟩

theorem bind {f : α → Action σ β} {g : α → Action τ β} (hx : Coupled S P x y)
    (hf : ∀ a, Coupled S P (f a) (g a)) : Coupled S P (x >>= f) (y >>= g) where
  parts s := (hx.parts s).bind fun a => (hf a).parts s
  ends s t h := by
    refine ((hx.ends s t h).imp (fun _ _ h => h) fun e s' he => ?failed).bind
      fun a s' ⟨t', hy, h'⟩ => ?ok
    case failed =>
      obtain ⟨t', hy, h'⟩ | hp := he
      case inl => exact .inl ⟨t', bind_error hy, h'⟩
      case inr => exact .inr (Preserves.after_bind (fun a => (hf a).parts s') hp)
    case ok =>
      rw [bind_ok hy, after_bind_ok hy]
      exact (hf a).ends s' t' h'

theorem after {s : σ} {t : τ} (h : Coupled S P x y) (hs : S s t) :
    S (x.after s) (y.after t) ∨ P (x.after s) (y.after t) := by
  have he := h.ends s t hs
  simp only [Ends] at he
  cases hx : x s <;> simp only [hx] at he
  case ok a s' =>
    obtain ⟨t', hy, h'⟩ := he
    exact .inl (after_ok hx ▸ after_ok hy ▸ h')
  case error e s' =>
    rw [after_error hx]
    refine he.imp_left fun hr => ?_
    obtain ⟨t', hy, h'⟩ := hr
    exact after_error hy ▸ h'

theorem ite {c : Prop} [Decidable c] {x' : Action σ α} {y' : Action τ α} (hx : Coupled S P x y)
    (hx' : Coupled S P x' y') : Coupled S P (if c then x else x') (if c then y else y') := by
  split
  case isTrue  => exact hx
  case isFalse => exact hx'

theorem modify {f : σ → σ} {g : τ → τ} (hs : ∀ s t, S s t → S (f s) (g t))
    (hp : ∀ s t, P s t → P s (g t)) : Coupled S P (modify f : Action σ Unit) (modify g) :=
  ⟨fun s t h => ⟨g t, rfl, hs s t h⟩, fun s t h => hp s t h⟩

theorem reading {f : σ → α × σ} {g : τ → α × τ}
    (hs : ∀ s t, S s t → (f s).1 = (g t).1 ∧ S (f s).2 (g t).2)
    (hp : ∀ s t, P s t → P s (g t).2) :
    Coupled S P (fun s => .ok (f s).1 (f s).2) (fun t => .ok (g t).1 (g t).2) :=
  ⟨fun s t h => ⟨(g t).2, congrArg (EStateM.Result.ok · _) (hs s t h).left.symm, (hs s t h).right⟩,
    fun s t h => hp s t h⟩

end Coupled

end Action

namespace Engine

variable {σ τ : Type}

-- What parted stays so, whatever is read, logged or printed later.
structure Parts (P : σ → τ → Prop) (e₁ : Engine σ) (e₂ : Engine τ) : Prop where
  clock        : P s t → P (e₁.elapsed s).2 t
  elapsed      : P s t → P s (e₂.elapsed t).2
  shutdownSeen : P s t → P s (e₂.shutdownSeen t).2
  log          : P s t → ∀ records, P s (e₂.log records t)
  print        : P s t → ∀ text, P s (e₂.print text t)

structure Coupled (S P : σ → τ → Prop) (e₁ : Engine σ) (e₂ : Engine τ) : Prop
    extends Parts P e₁ e₂ where
  isRunning_eq      : S s t → e₁.isRunning s = e₂.isRunning t
  resetState        : Action.Coupled S P e₁.resetState e₂.resetState
  start             : Action.Coupled S P e₁.start e₂.start
  stop              : Action.Coupled S P e₁.stop e₂.stop
  runClient         : ∀ scale, Action.Coupled S P (e₁.runClient scale) (e₂.runClient scale)
  elapsed_eq        : S s t → (e₁.elapsed s).1 = (e₂.elapsed t).1
  elapsed_match     : S s t → S (e₁.elapsed s).2 (e₂.elapsed t).2
  shutdownSeen_eq   : S s t → (e₁.shutdownSeen s).1 = (e₂.shutdownSeen t).1
  shutdownSeen_match : S s t → S (e₁.shutdownSeen s).2 (e₂.shutdownSeen t).2
  log_match         : S s t → ∀ records, S (e₁.log records s) (e₂.log records t)
  print_match       : S s t → ∀ text, S (e₁.print text s) (e₂.print text t)

end Engine

namespace Bench

variable {σ τ α : Type}

namespace State

-- Two states that differ at most in their worlds.
structure Matches (S : σ → τ → Prop) (s : State σ) (t : State τ) : Prop where
  world     : S s.world t.world
  reporter  : s.reporter = t.reporter
  reactions : s.reactions = t.reactions

end State

open State (Matches)

section

variable {b : Bench σ} {scale : Scale} {s : State σ} {w : σ}

theorem runTimed_ok {r : Invocation} (h : b.engine.runClient scale s.world = .ok r w) :
    b.runTimed scale s =
      .ok (r, (b.engine.elapsed w).1) { s with world := (b.engine.elapsed w).2 } := by
  have hr : onEngine (b.engine.runClient scale).attempt s = .ok (.ok r) { s with world := w } := by
    simp only [onEngine, Action.attempt, h]
  exact Action.bind_ok hr

-- The clock is read also after a client that failed.
theorem runTimed_fault {f : Fault} (h : b.engine.runClient scale s.world = .error (.fault f) w) :
    b.runTimed scale s = .error (.fault f) { s with world := (b.engine.elapsed w).2 } := by
  have hr : onEngine (b.engine.runClient scale).attempt s =
      .ok (.error f) { s with world := w } := by
    simp only [onEngine, Action.attempt, h]
  exact Action.bind_ok hr

theorem runTimed_breach {p : Breach} (h : b.engine.runClient scale s.world = .error (.breach p) w) :
    b.runTimed scale s = .error (.breach p) { s with world := w } := by
  refine Action.bind_error ?_
  simp only [onEngine, Action.attempt, h]

theorem runTimed_preserves {I : σ → Prop} (he : ∀ w, I w → I (b.engine.elapsed w).2)
    (h : I ((b.engine.runClient scale).after s.world)) :
    I ((b.runTimed scale).after s).world :=
  (runTimed_ends_of (.of_after h) (fun _ => he) (fun _ => he)).after
    (I := fun s : State σ => I s.world)

end

variable {S P : σ → τ → Prop} {b₁ : Bench σ} {b₂ : Bench τ}

def Parted (P : σ → τ → Prop) (s : State σ) (t : State τ) : Prop :=
  P s.world t.world

theorem onEngine_after (x : Action σ α) (s : State σ) :
    ((onEngine x).after s).world = x.after s.world := by
  simp only [Action.after, onEngine]
  cases x s.world <;> rfl

theorem onEngine_coupled {x : Action σ α} {y : Action τ α} (h : x.Coupled S P y) :
    (onEngine x).Coupled (Matches S) (Parted P) (onEngine y) where
  parts s t hp := by
    simp only [Parted, onEngine_after] at *
    exact h.parts s.world t.world hp
  ends s t hm := by
    have hs := h.ends s.world t.world hm.world
    simp only [Action.Ends, Parted, onEngine_after, onEngine] at *
    cases hx : x s.world <;> simp only [hx] at hs ⊢
    case ok a w =>
      obtain ⟨w', hy, hw⟩ := hs
      exact ⟨{ t with world := w' }, by rw [hy], hw, hm.reporter, hm.reactions⟩
    case error e w =>
      obtain ⟨w', hy, hw⟩ | hp := hs
      case inl => exact .inl ⟨{ t with world := w' }, by rw [hy], hw, hm.reporter, hm.reactions⟩
      case inr => exact .inr hp

section

variable (h : b₁.engine.Coupled S P b₂.engine)

include h

theorem isRunning_coupled : b₁.isRunning.Coupled (Matches S) (Parted P) b₂.isRunning where
  parts _ _ hp := hp
  ends _ t hm := ⟨t, congrArg (EStateM.Result.ok · t) (h.isRunning_eq hm.world).symm, hm⟩

theorem report_coupled (r : Report) :
    (b₁.report r).Coupled (Matches S) (Parted P) (b₂.report r) where
  parts _ _ hp := h.print (h.log hp _) _
  ends s t hm := by
    obtain ⟨w, reporter, reactions⟩ := s
    obtain ⟨w', reporter', reactions'⟩ := t
    have ⟨hw, hr, ha⟩ := hm
    cases hr
    cases ha
    exact ⟨_, rfl, h.print_match (h.log_match hw _) _, rfl, rfl⟩

theorem runTimed_coupled (scale : Scale) :
    (b₁.runTimed scale).Coupled (Matches S) (Parted P) (b₂.runTimed scale) where
  parts s t hp := runTimed_preserves (fun _ hp => h.elapsed hp) ((h.runClient scale).parts _ _ hp)
  ends s t hm := by
    have hs := (h.runClient scale).ends s.world t.world hm.world
    simp only [Action.Ends] at *
    cases hx : b₁.engine.runClient scale s.world <;> simp only [hx] at hs
    case ok r w =>
      obtain ⟨w', hy, hw⟩ := hs
      rw [runTimed_ok hx, h.elapsed_eq hw]
      exact ⟨_, runTimed_ok hy, h.elapsed_match hw, hm.reporter, hm.reactions⟩
    case error e w =>
      cases e
      case fault f =>
        rw [runTimed_fault hx]
        obtain ⟨w', hy, hw⟩ | hp := hs
        case inl =>
          exact .inl ⟨_, runTimed_fault hy, h.elapsed_match hw, hm.reporter, hm.reactions⟩
        case inr =>
          exact .inr (h.clock (runTimed_preserves (fun _ hp => h.elapsed hp) hp))
      case breach p =>
        rw [runTimed_breach hx]
        obtain ⟨w', hy, hw⟩ | hp := hs
        case inl => exact .inl ⟨_, runTimed_breach hy, hw, hm.reporter, hm.reactions⟩
        case inr => exact .inr (runTimed_preserves (fun _ hp => h.elapsed hp) hp)

theorem checkShutdown_coupled :
    b₁.checkShutdown.Coupled (Matches S) (Parted P) b₂.checkShutdown :=
  .bind (onEngine_coupled (.reading (fun _ _ hs => ⟨h.shutdownSeen_eq hs, h.shutdownSeen_match hs⟩)
    fun _ _ hp => h.shutdownSeen hp)) fun _ => .ite (.throw _) (.pure _)

-- Benches that stay coupled do so in whole runs.
theorem relates_coupled (hp : b₁.policy = b₂.policy) :
    Relates (fun _ x y => x.Coupled (Matches S) (Parted P) y) b₁ b₂ where
  report          := report_coupled h
  toRelatesScales := .of_clients {
    pure           := .pure
    bind           := .bind
    logged records := onEngine_coupled (.modify (fun _ _ hs => h.log_match hs records)
      fun _ _ hp => h.log hp records)
    isRunning      := isRunning_coupled h
    resetState     := onEngine_coupled h.resetState
    start          := onEngine_coupled h.start
    stop           := onEngine_coupled h.stop
  } hp fun scale => .bind (checkShutdown_coupled h) fun _ => runTimed_coupled h scale

omit h in
theorem coupled_fits (scale : Scale) : RelatesScales.Fits
    (fun _ (x : Action (State σ) _) y => x.Coupled (Matches S) (Parted P) y) scale :=
  .inl fun _ p => .throw (.breach p)

end

end Bench

end EngineBench
