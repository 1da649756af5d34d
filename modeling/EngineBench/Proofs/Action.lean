import EngineBench.Bench.Engine

namespace EngineBench

namespace Action

variable {σ α β γ : Type} {x : Action σ α} {f : α → Action σ β} {s s' : σ}

theorem bind_eq_ok {b : β} :
    (x >>= f) s = .ok b s' ↔ ∃ a s₁, x s = .ok a s₁ ∧ f a s₁ = .ok b s' := by
  change EStateM.bind x f s = _ ↔ _
  simp only [EStateM.bind]
  cases x s <;> simp [and_assoc]

theorem bind_ok {a : α} (h : x s = .ok a s') : (x >>= f) s = f a s' := by
  change EStateM.bind x f s = _
  simp only [EStateM.bind, h]

theorem bind_error {e : Abort} (h : x s = .error e s') : (x >>= f) s = .error e s' := by
  change EStateM.bind x f s = _
  simp only [EStateM.bind, h]

theorem get_bind (f : σ → Action σ α) (s : σ) :
    ((MonadState.get : Action σ σ) >>= f) s = f s s :=
  rfl

theorem answer_ok {a : α} (h : x s = .ok a s') : x.answer s = .ok a := by
  simp only [answer, h]

theorem answer_error {e : Abort} (h : x s = .error e s') : x.answer s = .error e := by
  simp only [answer, h]

theorem after_ok {a : α} (h : x s = .ok a s') : x.after s = s' := by
  simp only [after, h]

theorem after_error {e : Abort} (h : x s = .error e s') : x.after s = s' := by
  simp only [after, h]

theorem after_bind_ok {a : α} (h : x s = .ok a s') : (x >>= f).after s = (f a).after s' := by
  simp only [after, bind_ok h]

theorem after_map {g : α → β} : (x >>= fun a => pure (g a)).after s = x.after s := by
  simp only [after]
  cases h : x s
  case ok    => rw [bind_ok h]; rfl
  case error => rw [bind_error h]

theorem attempt_breach {p : Breach} (h : x s = .error (.breach p) s') :
    x.attempt s = .error (.breach p) s' := by
  simp only [attempt, h]

-- An action breaches, or it is attempted with success.
theorem attempt_cases (x : Action σ α) (s : σ) :
    (∃ r : Except Fault α, x.attempt s = .ok r (x.after s) ∧ x.answer s = r.mapError .fault) ∨
      ∃ p, x s = .error (.breach p) (x.after s) := by
  simp only [attempt, after, answer]
  cases x s
  case ok a s' => exact .inl ⟨.ok a, rfl, rfl⟩
  case error e s' =>
    cases e
    case fault f  => exact .inl ⟨.error f, rfl, rfl⟩
    case breach p => exact .inr ⟨p, rfl⟩

theorem after_attempt : x.attempt.after s = x.after s := by
  simp only [attempt, after]
  cases x s
  case ok        => rfl
  case error e _ => cases e <;> rfl

theorem related_ite {τ : Type} {R : Action τ α → Action σ α → Prop} {c : Prop} [Decidable c]
    {x x' : Action τ α} {y y' : Action σ α} (hx : R x y) (hx' : R x' y') :
    R (if c then x else x') (if c then y else y') := by
  split
  case isTrue  => exact hx
  case isFalse => exact hx'

def succeeds (x : Action σ α) (s : σ) : Bool :=
  match x s with
  | .ok ..    => true
  | .error .. => false

theorem exists_ok (h : x.succeeds s) : ∃ a s', x s = .ok a s' := by
  simp only [succeeds] at h
  cases hx : x s <;> simp only [hx] at h
  case ok a s' => exact ⟨a, s', rfl⟩
  case error   => cases h

def failure? (x : Action σ α) (s : σ) : Option Abort :=
  match x s with
  | .ok ..      => none
  | .error e .. => some e

theorem exists_error {e : Abort} (h : x.failure? s = some e) : ∃ s', x s = .error e s' := by
  simp only [failure?] at h
  cases hx : x s <;> simp only [hx] at h
  case ok         => cases h
  case error e s' => cases h; exact ⟨s', rfl⟩

def Ends (x : Action σ α) (s : σ) (Q : α → σ → Prop) (E : Abort → σ → Prop) : Prop :=
  match x s with
  | .ok a s' => Q a s'
  | .error e s' => E e s'

-- What is claimed of an ending, as a claim about the answer.
def Answers (Q : α → σ → Prop) (E : Abort → σ → Prop) : Except Abort α → σ → Prop
  | .ok a    => Q a
  | .error e => E e

namespace Ends

variable {P Q : α → σ → Prop} {R : β → σ → Prop} {D E : Abort → σ → Prop}

theorem any : x.Ends s (fun _ _ => True) (fun _ _ => True) := by
  simp only [Ends]
  cases x s <;> trivial

theorem pure {a : α} (h : Q a s) : (Pure.pure a : Action σ α).Ends s Q E :=
  h

theorem and (hx : x.Ends s P D) (hx' : x.Ends s Q E) :
    x.Ends s (fun a s' => P a s' ∧ Q a s') D := by
  simp only [Ends] at *
  cases h : x s <;> simp only [h] at hx hx' ⊢
  case ok    => exact ⟨hx, hx'⟩
  case error => exact hx

theorem and_after {I : σ → Prop} (hx : x.Ends s Q E) (h : I (x.after s)) :
    x.Ends s (fun a s' => Q a s' ∧ I s') (fun e s' => E e s' ∧ I s') := by
  simp only [Ends, Action.after] at *
  cases hr : x s <;> simp only [hr] at hx h ⊢ <;> exact ⟨hx, h⟩

theorem imp (hx : x.Ends s P D) (hq : ∀ a s', P a s' → Q a s') (he : ∀ e s', D e s' → E e s') :
    x.Ends s Q E := by
  simp only [Ends] at *
  cases h : x s <;> simp only [h] at hx ⊢
  case ok a s'    => exact hq a s' hx
  case error e s' => exact he e s' hx

theorem imp_error (hx : x.Ends s Q D) (he : ∀ e s', D e s' → E e s') : x.Ends s Q E :=
  hx.imp (fun _ _ h => h) he

theorem bind (hx : x.Ends s Q E) (hf : ∀ a s', Q a s' → (f a).Ends s' R E) :
    (x >>= f).Ends s R E := by
  simp only [Ends] at hx
  change match EStateM.bind x f s with | .ok a s' => R a s' | .error e s' => E e s'
  simp only [EStateM.bind]
  cases h : x s <;> simp only [h] at hx ⊢
  case ok a s'    => exact hf a s' hx
  case error e s' => exact hx

theorem get_bind {f : σ → Action σ β} (h : (f s).Ends s R E) :
    ((MonadState.get : Action σ σ) >>= f).Ends s R E :=
  h

theorem attempt {Q : Except Fault α → σ → Prop}
    (hx : x.Ends s (fun a => Q (.ok a)) (fun
      | .fault f => Q (.error f)
      | .breach b => E (.breach b))) : x.attempt.Ends s Q E := by
  simp only [Ends, Action.attempt] at *
  cases h : x s <;> simp only [h] at hx ⊢
  case ok        => exact hx
  case error e _ => cases e <;> exact hx

theorem attempt_answers (hx : x.Ends s Q E) :
    x.attempt.Ends s (fun o => Answers Q E (o.mapError .fault)) E := by
  refine .attempt (hx.imp (fun _ _ h => h) fun e s' h => ?_)
  cases e <;> exact h

theorem attempt_same {I : σ → Prop} (hx : x.Ends s (fun _ => I) (fun _ => I)) :
    x.attempt.Ends s (fun _ => I) (fun _ => I) :=
  .attempt <| hx.imp (fun _ _ h => h) fun
    | .fault _, _, h | .breach _, _, h => h

theorem regardless {Q : Unit → σ → Prop} (h : Q () (x.after s)) : x.regardless.Ends s Q E :=
  h

theorem of_ok (hx : x.Ends s Q E) {a : α} (h : x s = .ok a s') : Q a s' := by
  simpa only [Ends, h] using hx

theorem of_error (hx : x.Ends s Q E) {e : Abort} (h : x s = .error e s') : E e s' := by
  simpa only [Ends, h] using hx

theorem after {I : σ → Prop} (hx : x.Ends s (fun _ => I) (fun _ => I)) : I (x.after s) := by
  simp only [Ends, Action.after] at *
  cases h : x s <;> simpa only [h] using hx

theorem of_after {I : σ → Prop} (h : I (x.after s)) : x.Ends s (fun _ => I) (fun _ => I) := by
  simp only [Ends, Action.after] at *
  cases hr : x s <;> simpa only [hr] using h

end Ends

-- An action that ends in an answer or with a fault.
def NeverBreaches (x : Action σ α) : Prop :=
  ∀ s, x.Ends s (fun _ _ => True) (fun e _ => ∃ f, e = .fault f)

namespace NeverBreaches

theorem of_ok (hx : ∀ s, ∃ a s', x s = .ok a s') : x.NeverBreaches := by
  intro s
  have ⟨a, s', hs⟩ := hx s
  simp only [Ends, hs]

theorem fail (f : Fault) : (Action.fail f : Action σ α).NeverBreaches :=
  fun _ => ⟨f, rfl⟩

theorem bind (hx : x.NeverBreaches) (hf : ∀ a, (f a).NeverBreaches) : (x >>= f).NeverBreaches :=
  fun s => (hx s).bind fun a s' _ => hf a s'

theorem ite {c : Prop} [Decidable c] {y : Action σ α} (hx : x.NeverBreaches)
    (hy : y.NeverBreaches) : (if c then x else y).NeverBreaches := by
  split
  case isTrue  => exact hx
  case isFalse => exact hy

theorem answer (hx : x.NeverBreaches) (s : σ) (p : Breach) :
    x.answer s ≠ .error (.breach p) := by
  have hs := hx s
  intro hp
  simp only [Ends, Action.answer] at *
  cases hr : x s <;> simp only [hr] at hs hp
  case ok => cases hp
  case error =>
    obtain ⟨f, hf⟩ := hs
    cases hf.symm.trans (Except.error.inj hp)

end NeverBreaches

def Preserves (I : σ → Prop) (x : Action σ α) : Prop :=
  ∀ s, I s → I (x.after s)

namespace Preserves

variable {I : σ → Prop}

theorem ends (hx : x.Preserves I) (h : I s) : x.Ends s (fun _ => I) (fun _ => I) :=
  .of_after (hx s h)

theorem pure (a : α) : (Pure.pure a : Action σ α).Preserves I :=
  fun _ h => h

theorem fail (f : Fault) : (Action.fail f : Action σ α).Preserves I :=
  fun _ h => h

theorem ofExcept : (a : Except Fault α) → (Action.ofExcept a : Action σ α).Preserves I
  | .ok _ | .error _ => fun _ h => h

theorem ofBreach : (a : Except Breach α) → (Action.ofBreach a : Action σ α).Preserves I
  | .ok _ | .error _ => fun _ h => h

theorem bind (hx : x.Preserves I) (hf : ∀ a, (f a).Preserves I) : (x >>= f).Preserves I :=
  fun _ h => (hx.ends h).bind (fun a _ h => (hf a).ends h) |>.after

theorem get_bind {f : σ → Action σ α} (hf : ∀ s, (f s).Preserves I) :
    ((MonadState.get : Action σ σ) >>= f).Preserves I :=
  fun s h => hf s s h

theorem ite {c : Prop} [Decidable c] {y : Action σ α} (hx : x.Preserves I) (hy : y.Preserves I) :
    (if c then x else y).Preserves I := by
  split
  case isTrue  => exact hx
  case isFalse => exact hy

theorem attempt (hx : x.Preserves I) : x.attempt.Preserves I :=
  fun s h => (congrArg I after_attempt).mpr (hx s h)

theorem regardless (hx : x.Preserves I) : x.regardless.Preserves I :=
  hx

end Preserves

def Keeps (v : σ → γ) (x : Action σ α) : Prop :=
  ∀ c, x.Preserves (v · = c)

namespace Keeps

variable {v : σ → γ}

theorem after (hx : x.Keeps v) (s : σ) : v (x.after s) = v s :=
  hx _ s rfl

theorem ends (hx : x.Keeps v) (s : σ) :
    x.Ends s (fun _ s' => v s' = v s) (fun _ s' => v s' = v s) :=
  (hx _).ends rfl

theorem after_bind (hf : ∀ a, (f a).Keeps v) (s : σ) : v ((x >>= f).after s) = v (x.after s) := by
  cases hx : x s
  case ok a s' => rw [after_bind_ok hx, after_ok hx, (hf a).after]
  case error   => rw [after_error (bind_error hx), after_error hx]

theorem preserves (hx : x.Keeps v) (P : γ → Prop) : x.Preserves fun s => P (v s) :=
  fun s h => (congrArg P (hx.after s)).mpr h

theorem of_after (h : ∀ s, v (x.after s) = v s) : x.Keeps v :=
  fun _ s hs => (h s).trans hs

theorem pure (a : α) : (Pure.pure a : Action σ α).Keeps v :=
  fun _ => .pure a

theorem get : (MonadState.get : Action σ σ).Keeps v :=
  of_after fun _ => rfl

theorem fail (f : Fault) : (Action.fail f : Action σ α).Keeps v :=
  fun _ => .fail f

theorem ofExcept (a : Except Fault α) : (Action.ofExcept a : Action σ α).Keeps v :=
  fun _ => .ofExcept a

theorem ofBreach (a : Except Breach α) : (Action.ofBreach a : Action σ α).Keeps v :=
  fun _ => .ofBreach a

theorem bind (hx : x.Keeps v) (hf : ∀ a, (f a).Keeps v) : (x >>= f).Keeps v :=
  fun c => (hx c).bind (hf · c)

theorem map {δ : Type} (g : γ → δ) (hx : x.Keeps v) : x.Keeps fun s => g (v s) :=
  of_after fun s => congrArg g (hx.after s)

theorem ite {c : Prop} [Decidable c] {y : Action σ α} (hx : x.Keeps v) (hy : y.Keeps v) :
    (if c then x else y).Keeps v :=
  fun c => (hx c).ite (hy c)

end Keeps

end Action

end EngineBench
