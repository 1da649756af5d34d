import EngineBench.Proofs.Bench.Accounting
import EngineBench.Proofs.Bench.Splitting
import EngineBench.Proofs.Bench.Twins

namespace EngineBench

open Engine
open EngineBench.Action (Twin Paced)

namespace Engine

variable {σ : Type}

-- An engine to which logs and prints do nothing.
structure Mute (e : Engine σ) : Prop where
  log   : ∀ records s, e.log records s = s
  print : ∀ text s, e.print text s = s

theorem Mute.noting {e : Engine σ} (h : e.Mute) : e.noting.Mute where
  log records w := congrArg (Prod.mk w.1) (h.log records w.2)
  print text w  := congrArg (Prod.mk w.1) (h.print text w.2)

end Engine

namespace Script

-- A script without what was logged and printed.
def mute (s : Script) : Script :=
  { s with records := [], printed := "" }

-- Scripted engines that log and print nothing.
def muteEngine : Engine Script :=
  { engine with
    runClient := fun scale s => match runClient scale s with
      | .ok r s'    => .ok r s'.mute
      | .error f s' => .error f s'.mute
    log       := fun _ s => s
    print     := fun _ s => s }

theorem muteEngine_mute : muteEngine.Mute :=
  ⟨fun _ _ => rfl, fun _ _ => rfl⟩

theorem answer_over_mute (call : Bool → Call) (line : Option Fault) (running : Bool) :
    (answer call line running).Over mute (answer call line running) := by
  intro s
  cases line <;> rfl

theorem mute_taken (s : Script) (scale : Scale) :
    (s.mute.taken scale).mute = (s.taken scale).mute := by
  have ht : s.mute.take = s.take := rfl
  simp only [taken, ht]
  split <;> rfl

theorem runClient_over_mute (scale : Scale) :
    (runClient scale).Over mute (muteEngine.runClient scale) := by
  intro s
  simp only [Action.Ends, muteEngine]
  cases hf : s.take.fault
  case none =>
    have hq : runClient scale s.mute = .ok s.take.invocation (s.mute.taken scale) := runClient_ok hf
    simp only [runClient_ok hf, hq, mute_taken]
  case some f =>
    have hq : runClient scale s.mute = .error (.fault f) (s.mute.taken scale) := runClient_error hf
    simp only [runClient_error hf, hq, mute_taken]

theorem engine_over_mute : engine.Over mute muteEngine where
  isRunning _    := rfl
  resetState s   := answer_over_mute .reset _ _ { s with resets := s.resets.tail }
  start s        := answer_over_mute .start _ _ { s with starts := s.starts.tail }
  stop s         := answer_over_mute .stop _ _ { s with stops := s.stops.tail }
  runClient      := runClient_over_mute
  elapsed _      := rfl
  shutdownSeen s := by
    simp only [muteEngine, engine, shutdownSeen, mute]
    split <;> rfl
  log _ _        := rfl
  print _ _      := rfl

end Script

namespace Bench

variable {σ α : Type} {e : Engine σ} {s t : State σ} {a : Accumulator} {rs : List Invocation}
  {scale : Scale} {name : String}

-- The two runs are in the same world, and something is known of the phase.
def Level {π : Type} (P : π → Prop) (p : π) (s t : State σ) : Prop :=
  s.world = t.world ∧ P p

def SameWorld (s t : State σ) : Prop :=
  s.world = t.world

section

variable {π : Type} {P : π → Prop}

theorem onEngine_level (x : Action σ α) : Paced (Level P) SameWorld (onEngine x) (onEngine x) := by
  intro p s t ⟨hw, hp⟩
  simp only [Twin, Action.Ends, onEngine, ← hw]
  cases x s.world
  case ok a w    => exact ⟨a, _, rfl, rfl, rfl, hp⟩
  case error f w => exact ⟨_, rfl, rfl⟩

theorem fail_level (f : Fault) :
    Paced (Level P) SameWorld (Action.fail f : Action (State σ) α) (Action.fail f) :=
  fun _ _ _ h => .throw _ h.left

theorem isRunning_level (p q : FailurePolicy) :
    Paced (Level P) SameWorld (Bench.isRunning ⟨e, p⟩) (Bench.isRunning ⟨e, q⟩) := by
  intro _ s t h
  exact ⟨_, t, congrArg (fun w => EStateM.Result.ok (e.isRunning w) t) h.left.symm, rfl, h⟩

theorem checkShutdown_level (p q : FailurePolicy) :
    Paced (Level P) SameWorld (Bench.checkShutdown ⟨e, p⟩) (Bench.checkShutdown ⟨e, q⟩) :=
  .bind (onEngine_level _) fun _ => Action.related_ite (fail_level _) (.pure _)

theorem runTimed_level (p q : FailurePolicy) (scale : Scale) :
    Paced (Level P) SameWorld (Bench.runTimed ⟨e, p⟩ scale) (Bench.runTimed ⟨e, q⟩ scale) := by
  refine .bind (onEngine_level _) fun o => .bind (onEngine_level _) fun _ => ?_
  refine .bind ?_ fun _ => .pure _
  cases o
  case ok    => exact .pure _
  case error => exact fail_level _

end

section

variable {p q : FailurePolicy} (hm : e.Mute)

include hm

theorem logged_mute (records : Log) : Bench.logged ⟨e, p⟩ records s = .ok () s := by
  change EStateM.Result.ok () { s with world := e.log records s.world } = _
  rw [hm.log]

theorem logAll_mute (logs : List Log) : Bench.logAll ⟨e, p⟩ logs s = .ok () s := by
  induction logs
  case nil                  => rfl
  case cons records rest hi => exact (Action.bind_ok (logged_mute hm records)).trans hi

theorem reportOutcome_mute (name : String) (o : Outcome) :
    ∃ s', Bench.reportOutcome ⟨e, p⟩ name o s = .ok () s' ∧ s'.world = s.world := by
  cases o <;> exact ⟨_, rfl, (hm.print _ _).trans (hm.log _ _)⟩

theorem idle_level {π : Type} {P : π → Prop} (p q : FailurePolicy) :
    RelatesIdle (fun _ x y => Paced (Level P) SameWorld x y) (⟨e, p⟩ : Bench σ) ⟨e, q⟩ where
  pure           := .pure
  bind           := .bind
  logged records := fun _ s t h => by
    simp only [Twin, Action.Ends, logged_mute hm]
    exact ⟨(), t, rfl, trivial, h⟩
  isRunning      := isRunning_level p q
  resetState     := onEngine_level _
  start          := onEngine_level _
  stop           := onEngine_level _

-- Policies that do not abort always go on, with the client counted.
theorem judge_mute {s : Sample} {t : State σ} (hp : p ≠ .abortScale) (ha : a.Tallies p scale rs)
    (hl : rs.length < scale.iterations) (hi : scale.iterations ≤ maxCount)
    (hs : s.label = scale.label) (hr : s.iteration = rs.length) :
    ∃ a', Bench.judge ⟨e, p⟩ a s t = .ok (.goOn a') t ∧
      a'.Tallies p scale (rs ++ [s.invocation]) := by
  have ⟨logs, r, hj, hc⟩ := exists_judge_eq p a s
  obtain ⟨v, hv, -⟩ := hc scale rs.length ha.counts (by omega) hs
  have he : Bench.judge ⟨e, p⟩ a s t = .ok v t := by
    rw [hj ⟨e, p⟩ rfl, Action.bind_ok (logAll_mute hm logs), hv]
    rfl
  have ht := (judge_tallies (b := ⟨e, p⟩) (t := t) ha hr hl).of_ok he
  have hf := (judge_ends (b := ⟨e, p⟩) a s t).of_ok he
  cases v
  case goOn a' => exact ⟨a', he, ht⟩
  case abort o => exact absurd hf.right.left hp

end

-- What two runs have counted under the record and the exclude policy is told by the same results.
def Counted : Phase → Prop
  | .between due                   => ∀ scale ∈ due, scale.iterations ≤ maxCount
  | .within scale left due a₁ a₂ =>
    (∀ scale ∈ due, scale.iterations ≤ maxCount) ∧ scale.iterations ≤ maxCount ∧
    ∃ rs, rs.length + left = scale.iterations ∧ a₁.Tallies .record scale rs ∧
      a₂.Tallies .exclude scale rs

theorem excludes_of_accounts {o₁ o₂ : Outcome} (h₁ : Accounts scale .record rs o₁)
    (h₂ : Accounts scale .exclude rs o₂) : o₁.Excludes o₂ := by
  cases h₁
  case recorded s₁ hl h₁ =>
    cases h₂
    case excluded s₂ _ hf h₂ =>
      refine .some ?all ?failed
      case all => rwa [h₁.scale, h₁.samples, h₁.failed]
      case failed => rwa [h₁.scale, h₁.failed]
    case exhausted reason hr _ hf =>
      have he : Outcome.failed scale scale.iterations reason =
          .failed s₁.scale s₁.failed reason := by
        rw [h₁.scale, h₁.failed, hf]
      exact he ▸ .none (by rw [h₁.scale, h₁.failed, hf]) hr

theorem keepPace (hm : e.Mute) :
    Twins (Level Counted) SameWorld Outcome.Excludes (⟨e, .record⟩ : Bench σ) ⟨e, .exclude⟩ where
  idle           := idle_level hm _ _
  fails h        := h.left
  opens h        := by
    obtain ⟨hs, hd⟩ := List.forall_mem_cons.mp h.right
    exact ⟨h.left, hd, hs, [], Nat.zero_add _, .new _, .new _⟩
  trial {iteration left scale due a₁ a₂ s t name} hl h := by
    obtain ⟨hd, hi, rs, hn, h₁, h₂⟩ := h.right
    refine (checkShutdown_level _ _ _ s t h).bind fun _ _ s t h => ?_
    refine (runTimed_level _ _ scale _ s t h.right).bind fun take take' s t h => ?_
    obtain ⟨rfl, h⟩ := h
    refine ((idle_level hm _ _).logged _ _ s t h).bind fun _ _ s t h => ?_
    have hs : iteration = rs.length := by omega
    obtain ⟨a₁', hj₁, h₁'⟩ := judge_mute (t := s) (s := .of scale iteration take.2 take.1) hm
      (by decide) h₁ (by omega) hi rfl hs
    obtain ⟨a₂', hj₂, h₂'⟩ := judge_mute (t := t) (s := .of scale iteration take.2 take.1) hm
      (by decide) h₂ (by omega) hi rfl hs
    simp only [Twin, Action.Ends, hj₁]
    exact ⟨_, t, hj₂, .goOn ⟨h.right.left, hd, hi, rs ++ [take.1], by simp; omega, h₁', h₂'⟩⟩
  closes h       := by
    obtain ⟨hw, hd, _, rs, hl, h₁, h₂⟩ := h
    exact ⟨excludes_of_accounts (h₁.outcome hl) (h₂.outcome hl), hw, hd⟩
  report {o₁ o₂ due s t name} _ h := by
    obtain ⟨s', hs, hw⟩ := reportOutcome_mute (p := .record) (s := s) hm name o₁
    obtain ⟨t', ht, hw'⟩ := reportOutcome_mute (p := .exclude) (s := t) hm name o₂
    simp only [Twin, Action.Ends, hs]
    exact ⟨(), t', ht, hw.trans (h.left.trans hw'.symm), h.right⟩

-- All clients that answered so far succeeded.
def Flawless (notes : List Note) : Prop :=
  ∀ n ∈ notes, ∀ r, n.exchange.result? = some r → r.succeeded

theorem Flawless.of_append {notes more : List Note} (h : Flawless (notes ++ more)) :
    Flawless notes :=
  fun n hn => h n (List.mem_append_left more hn)

-- A step is repeated by another one, if all clients have succeeded when it ends.
def Repeated (x y : Action (State (List Note × σ)) α) (t : State (List Note × σ)) : Prop :=
  Flawless (x.after t).world.1 → Flawless t.world.1 ∧ y t = x t

namespace Repeated

variable {β : Type} {x y : Action (State (List Note × σ)) α}
  {f g : α → Action (State (List Note × σ)) β} {t : State (List Note × σ)}

theorem bind (hx : Repeated x y t) (hf : ∀ a t', x t = .ok a t' → Repeated (f a) (g a) t') :
    Repeated (x >>= f) (y >>= g) t := by
  intro h
  cases he : x t
  case ok a t' =>
    rw [Action.after_bind_ok he] at h
    have ⟨h', hg⟩ := hf a t' he h
    have ⟨ht, hy⟩ := hx (Action.after_ok he ▸ h')
    exact ⟨ht, by rw [Action.bind_ok he, Action.bind_ok (hy.trans he), hg]⟩
  case error e t' =>
    rw [Action.after_error (Action.bind_error he)] at h
    have ⟨ht, hy⟩ := hx (Action.after_error he ▸ h)
    exact ⟨ht, by rw [Action.bind_error he, Action.bind_error (hy.trans he)]⟩

theorem refl (h : ∃ more, (x.after t).world.1 = t.world.1 ++ more) : Repeated x x t := by
  intro hf
  have ⟨more, hm⟩ := h
  have hf : Flawless (t.world.1 ++ more) := hm ▸ hf
  exact ⟨hf.of_append, rfl⟩

theorem same (h : (x.after t).world.1 = t.world.1) : Repeated x x t :=
  .refl ⟨[], h.trans (List.append_nil _).symm⟩

theorem noted (exchange : Except Abort α → Exchange) (x : Action σ α) :
    Repeated (onEngine (e.noted exchange x)) (onEngine (e.noted exchange x)) t := by
  refine .refl ?_
  simp only [onEngine, Action.after, Engine.noted]
  cases x t.world.2 <;> exact ⟨_, rfl⟩

theorem seen (exchange : α → Exchange) (f : σ → α × σ) :
    Repeated (observe (e.seen exchange f)) (observe (e.seen exchange f)) t :=
  .refl ⟨_, rfl⟩

theorem checkShutdown (p q : FailurePolicy) :
    Repeated (Bench.checkShutdown ⟨e.noting, p⟩) (Bench.checkShutdown ⟨e.noting, q⟩) t := by
  refine .bind (seen .shutdownSeen e.shutdownSeen) fun found t' _ => ?_
  cases found <;> exact .same rfl

theorem runTimed (p q : FailurePolicy) (scale : Scale) :
    Repeated (Bench.runTimed ⟨e.noting, p⟩ scale) (Bench.runTimed ⟨e.noting, q⟩ scale) t := by
  have hr : Repeated (onEngine (e.noting.runClient scale).attempt)
      (onEngine (e.noting.runClient scale).attempt) t := by
    refine .refl ?_
    simp only [onEngine, Action.attempt, Action.after, Engine.noting, Engine.noted]
    cases e.runClient scale t.world.2
    case ok        => exact ⟨_, rfl⟩
    case error f _ => cases f <;> exact ⟨_, rfl⟩
  refine .bind hr fun o t₁ _ => .bind (seen .elapsed e.elapsed) fun d t₂ _ => ?_
  cases o <;> exact .same rfl

-- The verdict on a client that succeeded does not depend on the policy.
theorem judge {s : Sample} (p q : FailurePolicy) (a : Accumulator)
    (hs : Flawless t.world.1 → s.succeeded) :
    Repeated (Bench.judge ⟨e.noting, p⟩ a s) (Bench.judge ⟨e.noting, q⟩ a s) t := by
  intro h
  have hn : ((Bench.judge ⟨e.noting, p⟩ a s).after t).world.1 = t.world.1 :=
    (judge_notes (b := ⟨e, p⟩) a s).after t
  have hf : Flawless t.world.1 := hn ▸ h
  exact ⟨hf, by simp only [Bench.judge, if_pos (hs hf)]⟩

theorem run_noted {p : FailurePolicy} {take : Invocation × Duration} {t' : State (List Note × σ)}
    (h : Bench.runTimed ⟨e.noting, p⟩ scale t = .ok take t') :
    ∃ n ∈ t'.world.1, n.exchange = .run scale (.ok take.1) := by
  have ht : Engine.timings t'.world.1 = Engine.timings t.world.1 ++ Exchange.timing scale take :=
    (runTimed_timed (b := ⟨e, p⟩) scale).of_ok h
  have hm : Exchange.run scale (.ok take.1) ∈ Engine.timings t'.world.1 := by
    simp [ht, Exchange.timing]
  exact List.mem_map.mp (List.mem_of_mem_filter hm)

theorem trial (p q : FailurePolicy) {name : String} {iteration : Nat} :
    Repeated (Bench.trial ⟨e.noting, p⟩ name scale iteration a)
      (Bench.trial ⟨e.noting, q⟩ name scale iteration a) t := by
  refine .bind (checkShutdown p q) fun _ t₁ _ => .bind (runTimed p q scale) fun take t₂ h₂ => ?_
  refine .bind (.same rfl) fun _ t₃ h₃ => judge p q a fun hf => ?_
  have ⟨n, hn, hx⟩ := run_noted h₂
  cases h₃
  exact hf n hn take.1 (by rw [hx]; rfl)

theorem relates (p q : FailurePolicy) :
    Relates (fun _ x y => ∀ t, Repeated x y t) (⟨e.noting, p⟩ : Bench (List Note × σ))
      ⟨e.noting, q⟩ where
  report _        := fun _ => .same rfl
  toRelatesScales := {
    pure _     := fun _ => .same rfl
    bind hx hf := fun _ => .bind (hx _) fun a t' _ => hf a t'
    logged _   := fun _ => .same rfl
    isRunning  := fun _ => .same rfl
    resetState := fun _ => .noted _ _
    start      := fun _ => .noted _ _
    stop       := fun _ => .noted _ _
    trial_bind := fun _ hf _ => .bind (trial p q) fun v t' _ =>
      hf v (.inl fun _ _ _ => .same rfl) t' }

end Repeated

-- What lies over steps that do the same does the same.
theorem eq_of_over {τ : Type} {φ : τ → σ} {x x' : Action τ α} {y y' : Action σ α} {t : τ}
    (h : x.Over φ y) (h' : x'.Over φ y') (he : x t = x' t) : y (φ t) = y' (φ t) := by
  have hy := h t
  have hy' := h' t
  simp only [Action.Ends, ← he] at hy hy'
  cases hx : x t <;> simp only [hx] at hy hy' <;> exact hy.trans hy'.symm

-- Runs that are noted, seen from the engine to which logs and prints do nothing: they leave the
-- same notes and the same world.
theorem perform_level {ρ : Type} {e₀ : Engine ρ} {φ : σ → ρ} {errand : Errand} (ho : e.Over φ e₀)
    (hm : e₀.Mute) (hf : ∀ scale ∈ errand.scales, scale.iterations ≤ maxCount)
    (s : State (List Note × σ)) :
    beside φ ((Bench.perform ⟨e.noting, .record⟩ errand).after s).world =
      beside φ ((Bench.perform ⟨e.noting, .exclude⟩ errand).after s).world ∧
    ((∃ outcomes outcomes', (Bench.perform ⟨e.noting, .record⟩ errand).answer s = .ok outcomes ∧
        (Bench.perform ⟨e.noting, .exclude⟩ errand).answer s = .ok outcomes' ∧
        List.Forall₂ Outcome.Excludes outcomes outcomes') ∨
      ∃ f, (Bench.perform ⟨e.noting, .record⟩ errand).answer s = .error f ∧
        (Bench.perform ⟨e.noting, .exclude⟩ errand).answer s = .error f) := by
  have hl (p : FailurePolicy) : (Bench.perform ⟨e.noting, p⟩ errand).Over
      (State.map (beside φ)) (Bench.perform ⟨e₀.noting, p⟩ errand) := by
    have hb : Bench.Over (beside φ) ⟨e.noting, p⟩ ⟨e₀.noting, p⟩ := ⟨ho.noting, rfl⟩
    exact perform_over hb errand
  have ht := (keepPace hm.noting).perform (s := s.map (beside φ)) ⟨rfl, hf⟩
  refine ⟨?worlds, ?answers⟩
  case worlds =>
    have hw := ht.after (S := SameWorld) (fun _ _ _ _ h => h.right.left) (fun _ _ h => h)
    rw [(hl .record).after, (hl .exclude).after] at hw
    exact hw
  case answers =>
    rw [← (hl .record).answer, ← (hl .exclude).answer]
    obtain ⟨os₁, os₂, _, _, h₁, h₂, h, _⟩ | h := ht.answers
    case inl => exact .inl ⟨os₁, os₂, h₁, h₂, h⟩
    case inr => exact .inr h

-- Under the record and the exclude policy a run asks for the same and is told the same, and either
-- ends well under both or fails with the same. The outcomes differ by the clients that did not
-- succeed. If all clients succeed, a run is the same under all policies.
theorem policies_keep_pace {ρ : Type} {e₀ : Engine ρ} {φ : σ → ρ} {errand : Errand}
    (ho : e.Over φ e₀) (hm : e₀.Mute)
    (hf : ∀ scale ∈ errand.scales, scale.iterations ≤ maxCount) (s : State σ) :
    (let record : Bench σ := ⟨e, .record⟩
    let exclude : Bench σ := ⟨e, .exclude⟩
    record.notes (·.perform errand) s = exclude.notes (·.perform errand) s ∧
    φ ((record.perform errand).after s).world = φ ((exclude.perform errand).after s).world ∧
    ((∃ outcomes outcomes', (record.perform errand).answer s = .ok outcomes ∧
        (exclude.perform errand).answer s = .ok outcomes' ∧
        List.Forall₂ Outcome.Excludes outcomes outcomes') ∨
      ∃ f, (record.perform errand).answer s = .error f ∧
        (exclude.perform errand).answer s = .error f)) ∧
    ∀ p q : FailurePolicy,
      (∀ n ∈ (⟨e, p⟩ : Bench σ).notes (·.perform errand) s, ∀ r,
        n.exchange.result? = some r → r.succeeded) →
      (⟨e, q⟩ : Bench σ).perform errand s = (⟨e, p⟩ : Bench σ).perform errand s ∧
      (⟨e, q⟩ : Bench σ).notes (·.perform errand) s =
        (⟨e, p⟩ : Bench σ).notes (·.perform errand) s := by
  have hs (p : FailurePolicy) : (Bench.perform ⟨e.noting, p⟩ errand).Over (State.map Prod.snd)
      (Bench.perform ⟨e, p⟩ errand) :=
    perform_over (noting_over ⟨e, p⟩) errand
  refine ⟨⟨?calls, ?worlds, ?answers⟩, fun p q h => ?sound⟩
  case calls =>
    exact congrArg (fun w : List Note × ρ => w.1) (perform_level ho hm hf (s.noted [])).left
  case worlds =>
    have hx (p : FailurePolicy) : (Bench.perform ⟨e, p⟩ errand).after s =
        ((Bench.perform ⟨e.noting, p⟩ errand).after (s.noted [])).map Prod.snd :=
      (hs p).after (t := s.noted [])
    rw [hx, hx]
    exact congrArg Prod.snd (perform_level ho hm hf (s.noted [])).left
  case answers =>
    have ha (p : FailurePolicy) : (Bench.perform ⟨e, p⟩ errand).answer s =
        (Bench.perform ⟨e.noting, p⟩ errand).answer (s.noted []) :=
      (hs p).answer (t := s.noted [])
    rw [ha, ha]
    exact (perform_level ho hm hf (s.noted [])).right
  case sound =>
    have hr := (Repeated.relates (e := e) p q).perform (fun _ _ => .inl fun _ _ _ => .same rfl)
      (s.noted []) h
    refine ⟨eq_of_over (hs q) (hs p) hr.right, ?_⟩
    have ha : (Bench.perform ⟨e.noting, q⟩ errand).after (s.noted []) =
        (Bench.perform ⟨e.noting, p⟩ errand).after (s.noted []) := by
      simp only [Action.after, hr.right]
    exact congrArg (fun t : State (List Note × σ) => t.world.1) ha

-- The second client runs out of time, and on another script none fails.
theorem policies_keep_pace_tiers :
    let script : Script := { Script.blank true with
      takes := [.success, ⟨⟨none, 0, true⟩, none, false⟩] }
    let record : Bench Script := ⟨Script.engine, .record⟩
    let exclude : Bench Script := ⟨Script.engine, .exclude⟩
    let abortScale : Bench Script := ⟨Script.engine, .abortScale⟩
    let errand : Errand := .all [.tiers .load, .tiers .query]
    record.notes (·.perform errand) ⟨script, [], []⟩ =
      exclude.notes (·.perform errand) ⟨script, [], []⟩ ∧
    abortScale.perform errand ⟨Script.blank false, [], []⟩ =
      record.perform errand ⟨Script.blank false, [], []⟩ := by
  intro script record exclude abortScale errand
  have hf : ∀ scale ∈ errand.scales, scale.iterations ≤ maxCount := by decide +kernel
  have h (script : Script) := policies_keep_pace Script.engine_over_mute Script.muteEngine_mute hf
    ⟨script, [], []⟩
  have hs : ∀ n ∈ record.notes (·.perform errand) ⟨Script.blank false, [], []⟩, ∀ r,
      n.exchange.result? = some r → r.succeeded := by
    have ha : (record.notes (·.perform errand) ⟨Script.blank false, [], []⟩).all
        (·.exchange.result?.all (·.succeeded)) = true := by decide +kernel
    intro n hn r hr
    simpa [hr] using List.all_eq_true.mp ha n hn
  exact ⟨(h script).left.left, ((h (Script.blank false)).right .record .abortScale hs).left⟩

end Bench

end EngineBench
