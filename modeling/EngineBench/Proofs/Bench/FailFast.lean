import EngineBench.Bench.Record
import EngineBench.Proofs.Bench.Over

namespace EngineBench

open Engine
open Engine.Exchange (failure? shutdownSeen)

namespace Engine

variable {σ α : Type}

-- Nothing has failed so far.
def Fine (moments : List (Moment σ)) : Prop :=
  ∀ m ∈ moments, m.exchange.failure? = none

-- The last moment was the first to fail.
def FailedWith (e : Abort) (moments : List (Moment σ)) : Prop :=
  ∃ fine m, moments = fine ++ [m] ∧ Fine fine ∧ m.exchange.failure? = some e

namespace Fine

variable {moments : List (Moment σ)} {m : Moment σ}

theorem concat (h : Fine moments) (hm : m.exchange.failure? = none) : Fine (moments ++ [m]) := by
  intro m' hm'
  cases List.mem_append.mp hm'
  case inl hm' => exact h m' hm'
  case inr hm' => exact List.mem_singleton.mp hm' ▸ hm

theorem failedWith {e : Abort} (h : Fine moments) (hm : m.exchange.failure? = some e) :
    FailedWith e (moments ++ [m]) :=
  ⟨moments, m, rfl, h, hm⟩

end Fine

namespace FailedWith

variable {moments before late : List (Moment σ)} {m : Moment σ} {e f : Abort}

theorem not_fine (h : FailedWith e moments) : ¬Fine moments := by
  intro hf
  have ⟨fine, m, hm, _, he⟩ := h
  have hn := hf m (hm ▸ List.mem_append_right fine (List.mem_singleton_self m))
  cases he.symm.trans hn

-- Nothing failed before, so nothing failed with anything else.
theorem eq_of_mem (h : FailedWith e moments) (hm : m ∈ moments)
    (hf : m.exchange.failure? = some f) : f = e := by
  have ⟨fine, last, hl, hn, he⟩ := h
  rw [hl] at hm
  cases List.mem_append.mp hm
  case inl hm => cases hf.symm.trans (hn m hm)
  case inr hm => exact Option.some.inj (hf.symm.trans (List.mem_singleton.mp hm ▸ he))

theorem exists_late (h : FailedWith e (before ++ late)) (hb : late = [] → before = []) :
    ∃ m ∈ late, m.exchange.failure? = some e := by
  have ⟨fine, last, hl, _, he⟩ := h
  obtain hn | ⟨late, m, hn⟩ := List.eq_nil_or_concat late
  case inl => simp [hn, hb hn] at hl
  case inr =>
    rw [hn, List.concat_eq_append, ← List.append_assoc] at hl
    cases (List.append_inj' hl rfl).right
    exact ⟨last, by simp [hn], he⟩

end FailedWith

theorem recorded_fails_fast {exchange : Except Abort α → Exchange}
    (ho : ∀ a, (exchange (.ok a)).failure? = none)
    (he : ∀ e, (exchange (.error e)).failure? = some e) {x : Action σ α}
    {w : List (Moment σ) × σ} (hf : Fine w.1) :
    (recorded exchange x).Ends w (fun _ w' => Fine w'.1) (fun e w' => FailedWith e w'.1) := by
  simp only [Action.Ends, recorded]
  cases x w.2
  case ok a s    => exact hf.concat (ho a)
  case error e s => exact hf.failedWith (he e)

theorem recording_over (e : Engine σ) : e.recording.Over Prod.snd e := by
  have hr {α : Type} (exchange : Except Abort α → Exchange) (x : Action σ α) :
      (recorded exchange x).Over Prod.snd x := by
    intro w
    simp only [Action.Ends, recorded]
    cases h : x w.2 <;> rfl
  exact ⟨fun _ => rfl, hr _ _, hr _ _, hr _ _, fun _ => hr _ _, fun _ => rfl, fun _ => rfl,
    fun _ _ => rfl, fun _ _ => rfl⟩

end Engine

namespace Bench

variable {σ α : Type} {b : Bench σ}

theorem recording_over (b : Bench σ) : b.recording.Over Prod.snd b :=
  ⟨b.engine.recording_over, rfl⟩

-- Something fails at the first failure, and only there.
def FailsFast (x : Action (State (List (Moment σ) × σ)) α) : Prop :=
  ∀ t, Fine t.world.1 →
    x.Ends t (fun _ t' => Fine t'.world.1) (fun e t' => FailedWith e t'.world.1)

namespace FailsFast

theorem pure (a : α) : FailsFast (σ := σ) (pure a) :=
  fun _ h => h

theorem bind {β : Type} {x : Action (State (List (Moment σ) × σ)) α}
    {f : α → Action (State (List (Moment σ) × σ)) β} (hx : FailsFast x)
    (hf : ∀ a, FailsFast (f a)) : FailsFast (x >>= f) :=
  fun t h => (hx t h).bind fun a t' h => hf a t' h

theorem onEngine {exchange : Except Abort α → Exchange}
    (ho : ∀ a, (exchange (.ok a)).failure? = none)
    (he : ∀ e, (exchange (.error e)).failure? = some e) (x : Action σ α) :
    FailsFast (onEngine (recorded exchange x)) :=
  fun _ h => onEngine_ends (recorded_fails_fast ho he h)

theorem checkShutdown : FailsFast b.recording.checkShutdown :=
  fun _ h => checkShutdown_ends_of (Q := fun w : List (Moment σ) × σ => Fine w.1)
    (E := fun e w => FailedWith e w.1) (fun hs => h.concat (congrArg (failure? ∘ shutdownSeen) hs))
    fun hs => h.failedWith (congrArg (failure? ∘ shutdownSeen) hs)

theorem runTimed (scale : Scale) : FailsFast (b.recording.runTimed scale) :=
  fun _ h => runTimed_ends_of (Q := fun _ (w : List (Moment σ) × σ) => Fine w.1)
    (E := fun e w => FailedWith e w.1)
    (recorded_fails_fast (fun _ => rfl) (fun _ => rfl) h) (fun _ _ h => h) (fun _ _ h => h)

theorem relates (b : Bench σ) :
    Relates (fun _ x (_ : Action (State (List (Moment σ) × σ)) _) => FailsFast x)
      b.recording b.recording where
  report _        := fun _ h => h
  toRelatesScales := .of_clients {
    pure       := .pure
    bind       := .bind
    logged _   := fun _ h => h
    isRunning  := fun _ h => h
    resetState := onEngine (fun _ => rfl) (fun _ => rfl) _
    start      := onEngine (fun _ => rfl) (fun _ => rfl) _
    stop       := onEngine (fun _ => rfl) (fun _ => rfl) _
  } rfl fun _ => .bind checkShutdown fun _ => runTimed _

end FailsFast

-- Where iterations can be counted, nothing but a failure of the engine or the signal ends a run.
theorem perform_fails_fast {errand : Errand}
    (hf : ∀ scale ∈ errand.scales, scale.iterations ≤ maxCount) (s : State σ) :
    (b.recording.perform errand).Ends (s.recorded [])
      (fun _ t => Fine t.world.1) (fun e t => FailedWith e t.world.1) :=
  (FailsFast.relates b).perform (fun scale hs => .inr (hf scale hs)) _ (List.forall_mem_nil _)

-- What a run comes to shows in its record.
theorem perform_bears {errand : Errand} (b : Bench σ)
    (hf : ∀ scale ∈ errand.scales, scale.iterations ≤ maxCount) (s : State σ) :
    (b.perform errand).Ends s (fun _ _ => Fine (b.moments (·.perform errand) s))
      (fun e _ => FailedWith e (b.moments (·.perform errand) s)) :=
  (perform_over (recording_over b) errand).ends_after (perform_fails_fast hf s)

end Bench

end EngineBench
