import EngineBench.Proofs.Bench.Steps
import Mathlib.Data.List.Forall2

namespace EngineBench

namespace Action

variable {σ τ α β γ δ : Type}

-- Two steps end together: with answers and states that fit, or with the same failure.
def Twin (Q : α → β → σ → τ → Prop) (E : σ → τ → Prop) (x : Action σ α) (y : Action τ β) (s : σ)
    (t : τ) : Prop :=
  x.Ends s (fun a s' => ∃ b t', y t = .ok b t' ∧ Q a b s' t')
    (fun e s' => ∃ t', y t = .error e t' ∧ E s' t')

namespace Twin

variable {P Q : α → β → σ → τ → Prop} {R : γ → δ → σ → τ → Prop} {E : σ → τ → Prop}
  {x : Action σ α} {y : Action τ β} {s : σ} {t : τ}

theorem pure {a : α} {b : β} (h : Q a b s t) :
    Twin Q E (Pure.pure a : Action σ α) (Pure.pure b : Action τ β) s t :=
  ⟨b, t, rfl, h⟩

theorem throw (e : Abort) (h : E s t) :
    Twin Q E (throw e : Action σ α) (throw e : Action τ β) s t :=
  ⟨t, rfl, h⟩

theorem imp (h : Twin P E x y s t) (hq : ∀ a b s' t', P a b s' t' → Q a b s' t') :
    Twin Q E x y s t :=
  Ends.imp h (fun _ _ ⟨b, t', hy, hp⟩ => ⟨b, t', hy, hq _ _ _ _ hp⟩) (fun _ _ h => h)

theorem bind {f : α → Action σ γ} {g : β → Action τ δ} (h : Twin Q E x y s t)
    (hf : ∀ a b s' t', Q a b s' t' → Twin R E (f a) (g b) s' t') :
    Twin R E (x >>= f) (y >>= g) s t := by
  refine Ends.bind (Q := fun a s' => ∃ b t', y t = .ok b t' ∧ Q a b s' t')
    (Ends.imp h (fun _ _ h => h) fun e s' ⟨t', hy, he⟩ => ⟨t', bind_error hy, he⟩) ?_
  intro a s' ⟨b, t', hy, hq⟩
  rw [bind_ok hy]
  exact hf a b s' t' hq

theorem cases (h : Twin Q E x y s t) :
    (∃ a b s' t', x s = .ok a s' ∧ y t = .ok b t' ∧ Q a b s' t') ∨
      ∃ e s' t', x s = .error e s' ∧ y t = .error e t' ∧ E s' t' := by
  simp only [Twin, Ends] at h
  cases hx : x s <;> simp only [hx] at h
  case ok a s' =>
    obtain ⟨b, t', hy, hq⟩ := h
    exact .inl ⟨a, b, s', t', rfl, hy, hq⟩
  case error e s' =>
    obtain ⟨t', hy, he⟩ := h
    exact .inr ⟨e, s', t', rfl, hy, he⟩

theorem after {S : σ → τ → Prop} (h : Twin Q E x y s t) (hq : ∀ a b s' t', Q a b s' t' → S s' t')
    (he : ∀ s' t', E s' t' → S s' t') : S (x.after s) (y.after t) := by
  obtain ⟨a, b, s', t', hx, hy, h⟩ | ⟨e, s', t', hx, hy, h⟩ := h.cases
  case inl => rw [after_ok hx, after_ok hy]; exact hq a b s' t' h
  case inr => rw [after_error hx, after_error hy]; exact he s' t' h

theorem answers (h : Twin Q E x y s t) :
    (∃ a b s' t', x.answer s = .ok a ∧ y.answer t = .ok b ∧ Q a b s' t') ∨
      ∃ e, x.answer s = .error e ∧ y.answer t = .error e := by
  obtain ⟨a, b, s', t', hx, hy, h⟩ | ⟨e, s', t', hx, hy, h⟩ := h.cases
  case inl => exact .inl ⟨a, b, s', t', answer_ok hx, answer_ok hy, h⟩
  case inr => exact .inr ⟨e, answer_error hx, answer_error hy⟩

end Twin

-- Two steps that keep whatever is known of the two runs, in each phase.
def Paced {π : Type} (I : π → σ → τ → Prop) (E : σ → τ → Prop) (x : Action σ α) (y : Action τ α) :
    Prop :=
  ∀ p s t, I p s t → Twin (fun a b s' t' => a = b ∧ I p s' t') E x y s t

namespace Paced

variable {π : Type} {I : π → σ → τ → Prop} {E : σ → τ → Prop}

theorem pure (a : α) : Paced I E (Pure.pure a : Action σ α) (Pure.pure a) :=
  fun _ _ _ h => Twin.pure ⟨rfl, h⟩

theorem bind {x : Action σ α} {y : Action τ α} {f : α → Action σ β} {g : α → Action τ β}
    (hx : Paced I E x y) (hf : ∀ a, Paced I E (f a) (g a)) : Paced I E (x >>= f) (y >>= g) := by
  intro p s t h
  refine (hx p s t h).bind fun a b s' t' ⟨hab, h'⟩ => ?_
  exact hab ▸ hf a p s' t' h'

end Paced

end Action

open EngineBench.Action (Twin Paced)

namespace Bench

variable {σ τ : Type}

-- Where two runs are: before some scales, or within one, with some of its clients due and what
-- each run has counted in it.
inductive Phase
  | between (due : List Scale)
  | within (scale : Scale) (left : Nat) (due : List Scale) (a₁ a₂ : Accumulator)

-- Two verdicts that lead to the same phase.
inductive Verdict.Twin (I : Phase → State σ → State τ → Prop) (O : Outcome → Outcome → Prop)
    (scale : Scale) (left : Nat) (due : List Scale) :
    Verdict → Verdict → State σ → State τ → Prop
  | goOn  : I (.within scale left due a₁ a₂) s t → Twin I O scale left due (.goOn a₁) (.goOn a₂) s t
  | abort : O o₁ o₂ → I (.between due) s t → Twin I O scale left due (.abort o₁) (.abort o₂) s t

-- Two benches keep pace in a run if they do so in the trials and reports of each phase.
structure Twins (I : Phase → State σ → State τ → Prop) (E : State σ → State τ → Prop)
    (O : Outcome → Outcome → Prop) (b₁ : Bench σ) (b₂ : Bench τ) : Prop where
  idle   : RelatesIdle (fun _ x y => Paced I E x y) b₁ b₂
  fails  : I p s t → E s t
  opens  : I (.between (scale :: due)) s t →
    I (.within scale scale.iterations due (.new scale) (.new scale)) s t
  trial  : iteration + (left + 1) = scale.iterations →
    I (.within scale (left + 1) due a₁ a₂) s t →
    Twin (Verdict.Twin I O scale left due) E (b₁.trial name scale iteration a₁)
      (b₂.trial name scale iteration a₂) s t
  closes : I (.within scale 0 due a₁ a₂) s t → O a₁.outcome a₂.outcome ∧ I (.between due) s t
  report : O o₁ o₂ → I (.between due) s t →
    Twin (fun _ _ => I (.between due)) E (b₁.reportOutcome name o₁) (b₂.reportOutcome name o₂) s t

namespace Twins

variable {I : Phase → State σ → State τ → Prop} {E : State σ → State τ → Prop}
  {O : Outcome → Outcome → Prop} {b₁ : Bench σ} {b₂ : Bench τ} {name : String} {mode : Mode}
  {scale : Scale} {left iteration : Nat} {due : List Scale} {a₁ a₂ : Accumulator} {s : State σ}
  {t : State τ}

variable (h : Twins I E O b₁ b₂)

include h

theorem breaches : RelatesScales.Breaches (fun _ (x : Action (State σ) _) y => Paced I E x y) :=
  fun _ p _ _ _ hi => .throw (.breach p) (h.fails hi)

theorem iterate (hl : iteration + (left + 1) = scale.iterations)
    (hi : I (.within scale (left + 1) due a₁ a₂) s t) :
    Twin (Verdict.Twin I O scale left due) E (b₁.iterate name mode scale iteration a₁)
      (b₂.iterate name mode scale iteration a₂) s t := by
  rw [iterate_eq, iterate_eq]
  refine (h.trial hl hi).bind fun v₁ v₂ s' t' hv => ?_
  cases hv
  case abort ho hi' => exact .pure (.abort ho hi')
  case goOn hi'     =>
    have hb : Paced I E (b₁.betweenIterations mode scale iteration)
        (b₂.betweenIterations mode scale iteration) := h.idle.betweenIterations (.inl h.breaches)
    exact (hb _ s' t' hi').bind fun _ _ s₁ t₁ ⟨_, hi₁⟩ => .pure (.goOn hi₁)

theorem runIterations (hl : iteration + left = scale.iterations)
    (hi : I (.within scale left due a₁ a₂) s t) :
    Twin (fun o₁ o₂ s' t' => O o₁ o₂ ∧ I (.between due) s' t') E
      (b₁.runIterations name mode scale left iteration a₁)
      (b₂.runIterations name mode scale left iteration a₂) s t := by
  induction left generalizing iteration a₁ a₂ s t
  case zero => exact .pure (h.closes hi)
  case succ left hd =>
    rw [runIterations_succ, runIterations_succ]
    refine (h.iterate hl hi).bind fun v₁ v₂ s' t' hv => ?_
    cases hv
    case abort ho hi' => exact .pure ⟨ho, hi'⟩
    case goOn hi'     => exact hd (by omega) hi'

theorem runScale (hi : I (.between (scale :: due)) s t) :
    Twin (fun o₁ o₂ s' t' => O o₁ o₂ ∧ I (.between due) s' t') E
      (b₁.runScale name mode scale) (b₂.runScale name mode scale) s t :=
  (h.idle.prepareScale _ s t hi).bind fun _ _ _ _ ⟨_, hi'⟩ =>
    h.runIterations (Nat.zero_add _) (h.opens hi')

theorem runScales {scales : List Scale} (hi : I (.between (scales ++ due)) s t) :
    Twin (fun os₁ os₂ s' t' => List.Forall₂ O os₁ os₂ ∧ I (.between due) s' t') E
      (b₁.runScales name mode scales) (b₂.runScales name mode scales) s t := by
  induction scales generalizing s t
  case nil => exact .pure ⟨.nil, hi⟩
  case cons scale rest hd =>
    refine (h.runScale hi).bind fun o₁ o₂ s₁ t₁ ⟨ho, h₁⟩ => ?_
    refine (h.report ho h₁).bind fun _ _ s₂ t₂ h₂ => ?_
    exact (hd h₂).bind fun _ _ s₃ t₃ ⟨hr, h₃⟩ => .pure ⟨.cons ho hr, h₃⟩

theorem runBenchmark {m : Benchmark} (hi : I (.between (m.catalog.scales ++ due)) s t) :
    Twin (fun os₁ os₂ s' t' => List.Forall₂ O os₁ os₂ ∧ I (.between due) s' t') E
      (b₁.runBenchmark m) (b₂.runBenchmark m) s t := by
  refine (h.idle.logged _ _ s t hi).bind fun _ _ s₁ t₁ ⟨_, h₁⟩ => ?_
  exact (h.idle.prepareBenchmark _ s₁ t₁ h₁).bind fun _ _ s₂ t₂ ⟨_, h₂⟩ => h.runScales h₂

theorem runAll {ms : List Benchmark} (hi : I (.between ((Errand.all ms).scales ++ due)) s t) :
    Twin (fun os₁ os₂ s' t' => List.Forall₂ O os₁ os₂ ∧ I (.between due) s' t') E
      (b₁.runAll ms) (b₂.runAll ms) s t := by
  induction ms generalizing s t
  case nil => exact .pure ⟨.nil, hi⟩
  case cons m rest hd =>
    have hs : (Errand.all (m :: rest)).scales ++ due =
        m.catalog.scales ++ ((Errand.all rest).scales ++ due) := by
      simp [Errand.scales]
    refine (h.runBenchmark (hs ▸ hi)).bind fun os₁ os₂ s₁ t₁ ⟨ho, h₁⟩ => ?_
    refine (hd h₁).bind fun _ _ s₂ t₂ ⟨hr, h₂⟩ => .pure ⟨?_, h₂⟩
    exact List.rel_append ho hr

theorem perform {errand : Errand} (hi : I (.between errand.scales) s t) :
    Twin (fun os₁ os₂ s' t' => List.Forall₂ O os₁ os₂ ∧ I (.between []) s' t') E
      (b₁.perform errand) (b₂.perform errand) s t := by
  rw [← List.append_nil errand.scales] at hi
  cases errand
  case one m  => exact h.runBenchmark hi
  case all ms => exact h.runAll hi

end Twins

end Bench

end EngineBench
