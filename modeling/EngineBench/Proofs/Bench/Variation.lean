import EngineBench.Bench.Variation
import EngineBench.Proofs.Bench.Coupling
import EngineBench.Proofs.Bench.Twins
import Mathlib.Data.Nat.Find

namespace EngineBench

open EngineBench.Action (Twin Paced)

namespace Script

variable {α : Type} {s t : Script} {c d : Nat → Client} {iterations k : Nat} {scales : List Scale}

theorem clients_zero_take (s : Script) : (s.clients 0).take = s.take := by
  simp [clients, take, List.head?_eq_getElem?]

-- The script after a client was run and timed.
def played (s : Script) (scale : Scale) : Script :=
  (elapsed (s.taken scale)).2

theorem taken_duration (s : Script) (scale : Scale) :
    (elapsed (s.taken scale)).1 = (s.clients 0).duration := by
  simp only [taken, elapsed, clients]
  split <;> simp [signal, note, List.head?_eq_getElem?]

theorem played_clients (s : Script) (scale : Scale) :
    (s.played scale).clients = fun n => s.clients (n + 1) := by
  funext n
  simp only [played, taken, elapsed, clients]
  split <;> simp [signal, note]

namespace Recast

theorem running_eq (h : s.Recast t) : s.running = t.running := by
  cases h
  rfl

theorem calls_eq (h : s.Recast t) : t.calls = s.calls := by
  cases h
  rfl

theorem printed_eq (h : s.Recast t) : t.printed = s.printed := by
  cases h
  rfl

theorem log (h : s.Recast t) (records records' : Log) :
    (engine.log records s).Recast (engine.log records' t) := by
  cases h
  exact .intro

theorem played (h : s.Recast t) (hs : t.take.signals = s.take.signals) (scale : Scale) :
    (s.played scale).Recast (t.played scale) := by
  simp only [Script.played, taken, hs]
  cases h
  split <;> exact .intro

end Recast

-- A step that goes the same way with other clients, and leaves them as they are.
def Blind (x : Action Script α) : Prop :=
  ∀ s t, s.Recast t → Twin (fun a b s' t' => a = b ∧ s'.Recast t' ∧ s'.clients = s.clients ∧
    t'.clients = t.clients) Recast x x s t

theorem answer_blind (call : Bool → Call) (line : Option Fault) (running : Bool) :
    Blind (answer call line running) := by
  intro s t h
  cases h
  cases line
  case none   => exact ⟨(), _, rfl, rfl, .intro, rfl, rfl⟩
  case some f => exact ⟨_, rfl, .intro⟩

theorem resetState_blind : Blind resetState := by
  intro s t h
  cases h
  exact answer_blind .reset s.resets.head?.join s.running _ _ .intro

theorem start_blind : Blind start := by
  intro s t h
  cases h
  exact answer_blind .start s.starts.head?.join true _ _ .intro

theorem stop_blind : Blind stop := by
  intro s t h
  cases h
  exact answer_blind .stop s.stops.head?.join false _ _ .intro

theorem shutdownSeen_blind : Blind fun s => .ok (shutdownSeen s).1 (shutdownSeen s).2 := by
  intro s t h
  cases h
  refine ⟨_, _, rfl, ?_⟩
  simp only [shutdownSeen]
  split <;> exact ⟨rfl, .intro, rfl, rfl⟩

namespace SameUnlessAborted

theorem head_take (h : SameUnlessAborted (iterations + 1) c d k) : (d 0).take = (c 0).take := by
  cases h
  case through hp => rw [(hp 0 (Nat.zero_lt_succ _)).right]
  case aborted ht => exact ht 0 (Nat.zero_le _)

-- A client that passes is followed by the others of the scale.
theorem tail (h : SameUnlessAborted (iterations + 1) c d k) (h0 : (c 0).take.Passes) :
    ∃ k', k = k' + 1 ∧
      SameUnlessAborted iterations (fun n => c (n + 1)) (fun n => d (n + 1)) k' := by
  cases h
  case through hp =>
    exact ⟨iterations, rfl, .through fun n hn => hp (n + 1) (Nat.succ_lt_succ hn)⟩
  case aborted last hl hp hf ht =>
    cases last
    case zero => exact absurd h0 hf
    case succ last =>
      exact ⟨last + 1, rfl, .aborted (Nat.lt_of_succ_lt_succ hl)
        (fun n hn => hp (n + 1) (Nat.succ_lt_succ hn)) hf
        fun n hn => ht (n + 1) (Nat.succ_le_succ hn)⟩

-- One that does not is the last.
theorem last (h : SameUnlessAborted (iterations + 1) c d k) (h0 : ¬(c 0).take.Passes) : k = 1 := by
  cases h
  case through hp => exact absurd (hp 0 (Nat.zero_lt_succ _)).left h0
  case aborted last hl hp _ _ =>
    cases last
    case zero   => rfl
    case succ _ => exact absurd (hp 0 (Nat.zero_lt_succ _)) h0

theorem zero (h : SameUnlessAborted 0 c d k) : k = 0 := by
  cases h
  case through => rfl
  case aborted => contradiction

theorem eq_of_passes (h : SameUnlessAborted iterations c d k)
    (hp : ∀ n < iterations, (c n).take.Passes) {n : Nat} (hn : n < iterations) : d n = c n := by
  cases h
  case through h         => exact (h n hn).right
  case aborted hl _ hf _ => exact absurd (hp _ hl) hf

end SameUnlessAborted

theorem Client.eq_of_take {c d : Client} (ht : d.take = c.take) (hd : d.duration = c.duration) :
    d = c := by
  cases c
  cases d
  cases ht
  cases hd
  rfl

-- A scale in which a client does not pass ends there.
theorem SameUnlessAborted.of_take (iterations : Nat) (ht : ∀ n, (d n).take = (c n).take)
    (hd : ∀ n, (c n).take.Passes → (d n).duration = (c n).duration) :
    ∃ k, SameUnlessAborted iterations c d k := by
  classical
  by_cases hp : ∀ n < iterations, (c n).take.Passes
  case pos =>
    exact ⟨_, .through fun n hn => ⟨hp n hn, Client.eq_of_take (ht n) (hd n (hp n hn))⟩⟩
  case neg =>
    have hx : ∃ n, n < iterations ∧ ¬(c n).take.Passes := by
      simpa using hp
    have ⟨hl, hf⟩ := Nat.find_spec hx
    refine ⟨_, .aborted hl (fun n hn => ?_) hf fun n _ => ht n⟩
    have hm := Nat.find_min hx hn
    exact by_contra fun hc => hm ⟨Nat.lt_trans hn hl, hc⟩

theorem SameUnlessAbortedIn.of_take (ht : ∀ n, (d n).take = (c n).take)
    (hd : ∀ n, (c n).take.Passes → (d n).duration = (c n).duration) :
    SameUnlessAbortedIn scales c d := by
  induction scales generalizing c d
  case nil => exact .nil
  case cons scale rest hi =>
    have ⟨k, hk⟩ := SameUnlessAborted.of_take scale.iterations ht hd
    exact .cons hk (hi (fun n => ht (n + k)) fun n => hd (n + k))

end Script

open Script

-- Accumulators that differ at most in what durations come to.
structure Accumulator.Even (a₁ a₂ : Accumulator) : Prop where
  scale    : a₂.scale = a₁.scale
  recorded : a₂.recorded = a₁.recorded
  failed   : a₂.failed = a₁.failed

namespace Accumulator.Even

variable {a₁ a₂ : Accumulator} {s₁ s₂ : Sample}

theorem refl (a : Accumulator) : a.Even a :=
  ⟨rfl, rfl, rfl⟩

-- Samples that succeeded are recorded alike, and come to the same if they took as long.
theorem record (h : a₁.Even a₂) (hl : s₂.label = s₁.label) (h₁ : s₁.succeeded)
    (h₂ : s₂.succeeded) :
    (∃ p, a₁.record s₁ = .error p ∧ a₂.record s₂ = .error p) ∨
      ∃ a₁' a₂', a₁.record s₁ = .ok a₁' ∧ a₂.record s₂ = .ok a₂' ∧ a₁'.Even a₂' ∧
        (a₂ = a₁ → s₂.duration = s₁.duration → a₂' = a₁') := by
  simp only [Accumulator.record, failuresWith, if_pos h₁, if_pos h₂, hl, h.scale, h.recorded,
    h.failed]
  split
  case isFalse => exact .inl ⟨_, rfl, rfl⟩
  case isTrue  =>
    cases nextCount a₁.recorded
    case error p => exact .inl ⟨p, rfl, rfl⟩
    case ok n    =>
      refine .inr ⟨_, _, rfl, rfl, ⟨rfl, rfl, rfl⟩, fun ha hd => ?_⟩
      rw [ha, hd]

theorem exclude (h : a₁.Even a₂) :
    (∃ p, a₁.exclude = .error p ∧ a₂.exclude = .error p) ∨
      ∃ a₁' a₂', a₁.exclude = .ok a₁' ∧ a₂.exclude = .ok a₂' ∧ a₁'.Even a₂' ∧
        (a₂ = a₁ → a₂' = a₁') := by
  simp only [Accumulator.exclude, h.failed]
  cases nextCount a₁.failed
  case error p => exact .inl ⟨p, rfl, rfl⟩
  case ok n    => exact .inr ⟨_, _, rfl, rfl, ⟨h.scale, h.recorded, rfl⟩, fun ha => by rw [ha]⟩

end Accumulator.Even

namespace Bench

open State (Matches)

variable {J K : (Nat → Client) → (Nat → Client) → Prop} {s t : State Script}
  {policy : FailurePolicy} {a a₁ a₂ : Accumulator} {c d : Client} {scale : Scale}
  {iteration : Nat} {α : Type}

-- Scripts that differ in their clients, of which something is known.
def Varied (J : (Nat → Client) → (Nat → Client) → Prop) (s t : State Script) : Prop :=
  Matches (fun s t => s.Recast t ∧ J s.clients t.clients) s t

theorem Varied.mono (h : Varied J s t) (hj : J s.world.clients t.world.clients →
    K s.world.clients t.world.clients) : Varied K s t :=
  ⟨⟨h.world.left, hj h.world.right⟩, h.reporter, h.reactions⟩

theorem Varied.recast (h : Varied J s t) : Matches Recast s t :=
  ⟨h.world.left, h.reporter, h.reactions⟩

-- A step of scripts that leaves the clients as they are.
theorem onEngine_varied {x : Action Script α} (hx : Blind x) :
    Paced Varied (Matches Recast) (onEngine x) (onEngine x) := by
  intro J s t ⟨⟨hr, hj⟩, hp, ha⟩
  obtain ⟨a, b, s', t', hs, ht, hab, hr', hc, hd⟩ | ⟨e, s', t', hs, ht, hr'⟩ := (hx _ _ hr).cases
  case inl =>
    simp only [Twin, Action.Ends, onEngine, hs, ht]
    exact ⟨b, _, rfl, hab, ⟨hr', hc ▸ hd ▸ hj⟩, hp, ha⟩
  case inr =>
    simp only [Twin, Action.Ends, onEngine, hs, ht]
    exact ⟨_, rfl, hr', hp, ha⟩

theorem isRunning_varied :
    Paced Varied (Matches Recast) (Script.bench policy).isRunning
      (Script.bench policy).isRunning := by
  intro J s t h
  exact ⟨_, t, rfl, h.world.left.running_eq, h⟩

-- The two runs may log different things.
theorem logged_varied (h : Varied J s t) (records records' : Log) :
    Twin (fun _ _ => Varied J) (Matches Recast) ((Script.bench policy).logged records)
      ((Script.bench policy).logged records') s t :=
  ⟨(), _, rfl, ⟨h.world.left.log records records', h.world.right⟩, h.reporter, h.reactions⟩

theorem report_varied (h : Varied J s t) (r : Report) :
    Twin (fun _ _ => Varied J) (Matches Recast) ((Script.bench policy).report r)
      ((Script.bench policy).report r) s t := by
  obtain ⟨w, reporter, reactions⟩ := s
  obtain ⟨w', reporter', reactions'⟩ := t
  obtain ⟨⟨hr, hj⟩, rfl, rfl⟩ := h
  refine ⟨(), _, rfl, ⟨?_, hj⟩, rfl, rfl⟩
  cases hr
  exact .intro

theorem reportOutcome_varied {name : String} (h : Varied J s t) :
    (o : Outcome) → Twin (fun _ _ => Varied J) (Matches Recast)
      ((Script.bench policy).reportOutcome name o) ((Script.bench policy).reportOutcome name o) s t
  | .completed _ | .failed .. => report_varied h _

theorem checkShutdown_varied :
    Paced Varied (Matches Recast) (Script.bench policy).checkShutdown
      (Script.bench policy).checkShutdown :=
  .bind (onEngine_varied shutdownSeen_blind) fun _ =>
    Action.related_ite (fun _ _ _ h => .throw _ h.recast) (.pure _)

theorem idle_varied {T : Phase → (Nat → Client) → (Nat → Client) → Prop} :
    RelatesIdle (fun _ x y => Paced (fun p => Varied (T p)) (Matches Recast) x y)
      (Script.bench policy) (Script.bench policy) where
  pure             := .pure
  bind             := .bind
  logged _ _ _ _ h := (logged_varied h _ _).imp fun _ _ _ _ h => ⟨rfl, h⟩
  isRunning p      := isRunning_varied (T p)
  resetState p     := onEngine_varied resetState_blind (T p)
  start p          := onEngine_varied start_blind (T p)
  stop p           := onEngine_varied stop_blind (T p)

theorem runTimed_varied (h : Matches Recast s t)
    (hf : (t.world.clients 0).take.fault = (s.world.clients 0).take.fault)
    (hs : (t.world.clients 0).take.signals = (s.world.clients 0).take.signals)
    (hk : K (fun n => s.world.clients (n + 1)) (fun n => t.world.clients (n + 1))) :
    Twin (fun take take' s' t' => (s.world.clients 0).take.fault = none ∧ Varied K s' t' ∧
      take = ((s.world.clients 0).take.invocation, (s.world.clients 0).duration) ∧
      take' = ((t.world.clients 0).take.invocation, (t.world.clients 0).duration))
      (Matches Recast) ((Script.bench policy).runTimed scale) ((Script.bench policy).runTimed scale)
      s t := by
  simp only [clients_zero_take] at *
  have hw := h.world.played hs scale
  have hk : K (s.world.played scale).clients (t.world.played scale).clients := by
    simpa only [played_clients] using hk
  simp only [Twin, Action.Ends]
  cases hx : s.world.take.fault
  case none =>
    have hy := hf.trans hx
    rw [runTimed_ok (b := Script.bench policy) (runClient_ok hx)]
    refine ⟨_, _, runTimed_ok (b := Script.bench policy) (runClient_ok hy), rfl, ?matching,
      ?samples⟩
    case matching => exact ⟨⟨hw, hk⟩, h.reporter, h.reactions⟩
    case samples =>
      exact ⟨congrArg (Prod.mk _) (taken_duration _ _), congrArg (Prod.mk _) (taken_duration _ _)⟩
  case some f =>
    have hy := hf.trans hx
    rw [runTimed_fault (b := Script.bench policy) (runClient_error hx)]
    exact ⟨_, runTimed_fault (b := Script.bench policy) (runClient_error hy), hw, h.reporter,
      h.reactions⟩

-- The sample that is made of a client.
def sampleOf (scale : Scale) (iteration : Nat) (c : Client) : Sample :=
  .of scale iteration c.duration c.take.invocation

-- A trial is told by the verdicts on the next client of each script.
theorem trial_varied {Q : Verdict → Verdict → State Script → State Script → Prop} {name : String}
    (h : Matches Recast s t)
    (hf : (t.world.clients 0).take.fault = (s.world.clients 0).take.fault)
    (hs : (t.world.clients 0).take.signals = (s.world.clients 0).take.signals)
    (hk : K (fun n => s.world.clients (n + 1)) (fun n => t.world.clients (n + 1)))
    (hj : ∀ s' t', (s.world.clients 0).take.fault = none → Varied K s' t' →
      Twin Q (Matches Recast)
        ((Script.bench policy).judge a₁ (sampleOf scale iteration (s.world.clients 0)))
        ((Script.bench policy).judge a₂ (sampleOf scale iteration (t.world.clients 0))) s' t') :
    Twin Q (Matches Recast) ((Script.bench policy).trial name scale iteration a₁)
      ((Script.bench policy).trial name scale iteration a₂) s t := by
  have hv : Varied (fun c d => c = s.world.clients ∧ d = t.world.clients) s t :=
    ⟨⟨h.world, rfl, rfl⟩, h.reporter, h.reactions⟩
  refine (checkShutdown_varied _ s t hv).bind fun _ _ s₁ t₁ ⟨_, h₁⟩ => ?_
  have ⟨hc, hd⟩ := h₁.world.right
  rw [← hc, ← hd] at hf hs hk
  refine (runTimed_varied h₁.recast hf hs hk).bind fun take take' s₂ t₂ ⟨hn, h₂, ht, ht'⟩ => ?_
  rw [hc] at ht hn
  rw [hd] at ht'
  subst ht ht'
  refine (logged_varied h₂ _ _).bind fun _ _ s₃ t₃ h₃ => ?_
  exact hj s₃ t₃ hn h₃

theorem judge_passed (h : Varied J s t) (he : a₁.Even a₂) (h₁ : c.take.invocation.succeeded)
    (h₂ : d.take.invocation.succeeded) :
    Twin (fun v₁ v₂ s' t' => ∃ a₁' a₂', v₁ = .goOn a₁' ∧ v₂ = .goOn a₂' ∧ Varied J s' t' ∧
      a₁'.Even a₂' ∧ (a₂ = a₁ → d.duration = c.duration → a₂' = a₁')) (Matches Recast)
      ((Script.bench policy).judge a₁ (sampleOf scale iteration c))
      ((Script.bench policy).judge a₂ (sampleOf scale iteration d)) s t := by
  have h₁ : (sampleOf scale iteration c).succeeded := h₁
  have h₂ : (sampleOf scale iteration d).succeeded := h₂
  have hl : (sampleOf scale iteration d).label = (sampleOf scale iteration c).label := rfl
  simp only [judge, if_pos h₁, if_pos h₂]
  obtain ⟨p, hr₁, hr₂⟩ | ⟨a₁', a₂', hr₁, hr₂, he', ha⟩ := he.record hl h₁ h₂ <;> rw [hr₁, hr₂]
  case inl => exact .throw (.breach p) h.recast
  case inr => exact .pure ⟨a₁', a₂', rfl, rfl, h, he', ha⟩

theorem excluded_varied (h : Varied J s t) (he : a₁.Even a₂) (s₁ s₂ : Sample) :
    Twin (fun a₁' a₂' s' t' => Varied J s' t' ∧ a₁'.Even a₂' ∧ (a₂ = a₁ → a₂' = a₁'))
      (Matches Recast) ((Script.bench policy).excluded a₁ s₁)
      ((Script.bench policy).excluded a₂ s₂) s t := by
  refine (logged_varied h _ _).bind fun _ _ s' t' h' => ?_
  obtain ⟨p, hr₁, hr₂⟩ | ⟨a₁', a₂', hr₁, hr₂, he', ha⟩ := he.exclude <;> rw [hr₁, hr₂]
  case inl => exact .throw (.breach p) h'.recast
  case inr => exact .pure ⟨h', he', ha⟩

theorem judge_excluded (h : Varied J s t) (h₁ : ¬c.take.invocation.succeeded)
    (h₂ : ¬d.take.invocation.succeeded) :
    Twin (fun v₁ v₂ s' t' => ∃ a', v₁ = .goOn a' ∧ v₂ = .goOn a' ∧ Varied J s' t') (Matches Recast)
      ((Script.bench .exclude).judge a (sampleOf scale iteration c))
      ((Script.bench .exclude).judge a (sampleOf scale iteration d)) s t := by
  have h₁ : ¬(sampleOf scale iteration c).succeeded := h₁
  have h₂ : ¬(sampleOf scale iteration d).succeeded := h₂
  simp only [judge, if_neg h₁, if_neg h₂, judgeFailure, Script.bench]
  refine (logged_varied h _ _).bind fun _ _ s' t' h' => ?_
  refine (excluded_varied h' (.refl a) _ _).bind fun _ a' s₁ t₁ hx => ?_
  obtain ⟨h₁, _, ha⟩ := hx
  exact .pure ⟨a', congrArg _ (ha rfl).symm, rfl, h₁⟩

-- A scale that is aborted is told by counts alone.
theorem judge_aborted (h : Varied J s t) (he : a₁.Even a₂) (h₁ : ¬c.take.invocation.succeeded)
    (ht : d.take = c.take) :
    Twin (fun v₁ v₂ s' t' => ∃ o, v₁ = .abort o ∧ v₂ = .abort o ∧ Varied J s' t') (Matches Recast)
      ((Script.bench .abortScale).judge a₁ (sampleOf scale iteration c))
      ((Script.bench .abortScale).judge a₂ (sampleOf scale iteration d)) s t := by
  have h₂ : ¬d.take.invocation.succeeded := ht ▸ h₁
  have h₂ : ¬(sampleOf scale iteration d).succeeded := h₂
  have hf : (sampleOf scale iteration d).failure = (sampleOf scale iteration c).failure := by
    simp only [sampleOf, Sample.failure, Sample.of, ht]
    rfl
  have h₁ : ¬(sampleOf scale iteration c).succeeded := h₁
  simp only [judge, if_neg h₁, if_neg h₂, judgeFailure, Script.bench]
  refine (logged_varied h _ _).bind fun _ _ s' t' h' => ?_
  refine (excluded_varied h' he _ _).bind fun a₁' a₂' s₁ t₁ hx => ?_
  obtain ⟨h₁, he', _⟩ := hx
  refine .pure ⟨_, rfl, ?_, h₁⟩
  rw [he'.scale, he'.failed, he.scale, hf]

-- Where clients are excluded, nothing is ever counted that depends on how they fail.
def Phase.Resembling : Phase → (Nat → Client) → (Nat → Client) → Prop
  | .between _, c, d          => ∀ n, (c n).Resembles (d n)
  | .within _ _ _ a₁ a₂, c, d => (∀ n, (c n).Resembles (d n)) ∧ a₂ = a₁

theorem trial_resembling {left : Nat} {due : List Scale} {name : String}
    (h : Varied (Phase.within scale (left + 1) due a₁ a₂).Resembling s t) :
    Twin (Verdict.Twin (fun p => Varied p.Resembling) (· = ·) scale left due) (Matches Recast)
      ((Script.bench .exclude).trial name scale iteration a₁)
      ((Script.bench .exclude).trial name scale iteration a₂) s t := by
  have ⟨hr, ha⟩ := h.world.right
  subst ha
  have h0 := hr 0
  refine trial_varied (K := fun c d => ∀ n, (c n).Resembles (d n)) h.recast h0.fault h0.signals
    (fun n => hr (n + 1)) fun s' t' hf h' => ?_
  have hf' := h0.fault.trans hf
  by_cases hp : (s.world.clients 0).take.invocation.succeeded
  case pos =>
    have ⟨_, hp'⟩ := h0.passes.mpr ⟨hf, hp⟩
    refine (judge_passed h' (.refl a₂) hp hp').imp fun v₁ v₂ s'' t'' hv => ?_
    obtain ⟨a₁', a₂', rfl, rfl, hv, _, ha⟩ := hv
    exact .goOn (hv.mono fun hr => ⟨hr, ha rfl (h0.duration ⟨hf, hp⟩)⟩)
  case neg =>
    have hp' : ¬(t.world.clients 0).take.invocation.succeeded :=
      fun hc => hp (h0.passes.mp ⟨hf', hc⟩).right
    refine (judge_excluded h' hp hp').imp fun v₁ v₂ s'' t'' hv => ?_
    obtain ⟨a', rfl, rfl, hv⟩ := hv
    exact .goOn (hv.mono fun hr => ⟨hr, rfl⟩)

theorem excludes_varied :
    Twins (fun p => Varied p.Resembling) (Matches Recast) (· = ·) (Script.bench .exclude)
      (Script.bench .exclude) where
  idle        := idle_varied
  fails h     := h.recast
  opens h     := h.mono fun hr => ⟨hr, rfl⟩
  closes h    := ⟨by rw [h.world.right.right], h.mono And.left⟩
  report ho h := ho ▸ reportOutcome_varied h _
  trial _ h   := trial_resembling h

-- Where scales are aborted, durations are counted that differ, but not if the scale gets through.
def Phase.Aborting : Phase → (Nat → Client) → (Nat → Client) → Prop
  | .between due, c, d             => SameUnlessAbortedIn due c d
  | .within _ left due a₁ a₂, c, d =>
    a₁.Even a₂ ∧ ((∀ n < left, (c n).take.Passes) → a₂ = a₁) ∧
    ∃ k, SameUnlessAborted left c d k ∧
      SameUnlessAbortedIn due (fun n => c (n + k)) (fun n => d (n + k))

theorem trial_aborting {left : Nat} {due : List Scale} {name : String}
    (h : Varied (Phase.within scale (left + 1) due a₁ a₂).Aborting s t) :
    Twin (Verdict.Twin (fun p => Varied p.Aborting) (· = ·) scale left due) (Matches Recast)
      ((Script.bench .abortScale).trial name scale iteration a₁)
      ((Script.bench .abortScale).trial name scale iteration a₂) s t := by
  have ⟨he, ha, k, hk, hr⟩ := h.world.right
  have ht := hk.head_take
  refine trial_varied (K := fun c d => c = (fun n => s.world.clients (n + 1)) ∧
    d = fun n => t.world.clients (n + 1)) h.recast (by rw [ht]) (by rw [ht]) ⟨rfl, rfl⟩
    fun s' t' hf h' => ?_
  by_cases hp : (s.world.clients 0).take.invocation.succeeded
  case pos =>
    obtain ⟨k', rfl, hk'⟩ := hk.tail ⟨hf, hp⟩
    refine (judge_passed h' he hp (ht ▸ hp)).imp fun v₁ v₂ s'' t'' hv => ?_
    obtain ⟨a₁', a₂', rfl, rfl, hv, he', ha'⟩ := hv
    refine .goOn (hv.mono fun ⟨hc, hd⟩ => hc ▸ hd ▸ ⟨he', fun hn => ?_, k', hk', hr⟩)
    have hn : ∀ n < left + 1, (s.world.clients n).take.Passes
      | 0, _     => ⟨hf, hp⟩
      | n + 1, h => hn n (Nat.lt_of_succ_lt_succ h)
    exact ha' (ha hn) (congrArg _ (hk.eq_of_passes hn (Nat.zero_lt_succ left)))
  case neg =>
    obtain rfl := hk.last fun h => hp h.right
    refine (judge_aborted h' he hp ht).imp fun v₁ v₂ s'' t'' hv => ?_
    obtain ⟨o, rfl, rfl, hv⟩ := hv
    exact .abort rfl (hv.mono fun ⟨hc, hd⟩ => hc ▸ hd ▸ hr)

theorem aborts_varied :
    Twins (fun p => Varied p.Aborting) (Matches Recast) (· = ·) (Script.bench .abortScale)
      (Script.bench .abortScale) where
  idle        := idle_varied
  fails h     := h.recast
  opens h     := h.mono fun hs => by
    cases hs
    case cons k hk hr => exact ⟨.refl _, fun _ => rfl, k, hk, hr⟩
  closes h    := by
    have ⟨_, ha, k, hk, hr⟩ := h.world.right
    obtain rfl := hk.zero
    exact ⟨by rw [ha nofun], h.mono fun _ => hr⟩
  report ho h := ho ▸ reportOutcome_varied h _
  trial _ h   := trial_aborting h

theorem same_of_twin {x : Action (State Script) (List Outcome)}
    (h : Twin (fun os₁ os₂ s' t' => List.Forall₂ (· = ·) os₁ os₂ ∧ Varied J s' t')
      (Matches Recast) x x s t) :
    x.answer t = x.answer s ∧ Matches Recast (x.after s) (x.after t) := by
  refine ⟨?_, h.after (fun _ _ _ _ h => h.right.recast) fun _ _ h => h⟩
  obtain ⟨os₁, os₂, _, _, h₁, h₂, ho, _⟩ | ⟨e, h₁, h₂⟩ := h.answers
  case inl =>
    rw [List.forall₂_eq_eq_eq] at ho
    rw [h₁, h₂, ho]
  case inr => rw [h₁, h₂]

-- What a policy leaves out of a run makes no difference to it: it comes to the same, with the same
-- calls, reports and prints.
theorem perform_of_varies {s t : Script} {errand : Errand} (hr : s.Recast t)
    (hv : Varies errand.scales s.clients t.clients policy) (reporter : Reporter)
    (reactions : List (List Reaction)) :
    let act := (Script.bench policy).perform errand
    let s' := act.after ⟨s, reporter, reactions⟩
    let t' := act.after ⟨t, reporter, reactions⟩
    act.answer ⟨t, reporter, reactions⟩ = act.answer ⟨s, reporter, reactions⟩ ∧
    t'.world.calls = s'.world.calls ∧ t'.world.printed = s'.world.printed ∧
    t'.reporter = s'.reporter ∧ t'.reactions = s'.reactions := by
  intro act s' t'
  have hw {T : Phase → (Nat → Client) → (Nat → Client) → Prop}
      (hj : T (.between errand.scales) s.clients t.clients) :
      Varied (T (.between errand.scales)) ⟨s, reporter, reactions⟩ ⟨t, reporter, reactions⟩ :=
    ⟨⟨hr, hj⟩, rfl, rfl⟩
  have ⟨ha, hm⟩ : act.answer ⟨t, reporter, reactions⟩ = act.answer ⟨s, reporter, reactions⟩ ∧
      Matches Recast s' t' := by
    cases hv
    case excluded hc  => exact same_of_twin (excludes_varied.perform (hw hc))
    case failed ht hd => exact same_of_twin (aborts_varied.perform (hw (.of_take ht hd)))
    case aborted hc   => exact same_of_twin (aborts_varied.perform (hw hc))
  exact ⟨ha, hm.world.calls_eq, hm.world.printed_eq, hm.reporter.symm, hm.reactions.symm⟩

-- The second client exits with a code, or runs out of time after longer. Where its scale is
-- aborted, the first one may take another time as well.
theorem perform_of_varies_tiers :
    let errand : Errand := .one (.tiers .load)
    let s : Script := { Script.blank true with
      takes := [.success, ⟨⟨some 7, 10, false⟩, none, false⟩]
      durations := [.ofSecs 1, .ofSecs 2] }
    let t : Script := { s with
      takes := [⟨⟨some 0, 99, false⟩, none, false⟩, ⟨⟨none, 0, true⟩, none, false⟩]
      durations := [.ofSecs 1, .ofSecs 60] }
    let u : Script := { s with durations := [.ofSecs 8, .ofSecs 9] }
    let exclude := (Script.bench .exclude).perform errand
    let abortScale := (Script.bench .abortScale).perform errand
    s.Recast t ∧ s.Recast u ∧
    Varies errand.scales s.clients t.clients .exclude ∧
    Varies errand.scales s.clients u.clients .abortScale ∧
    exclude.answer ⟨t, [], []⟩ = exclude.answer ⟨s, [], []⟩ ∧
    abortScale.answer ⟨u, [], []⟩ = abortScale.answer ⟨s, [], []⟩ := by
  intro errand s t u exclude abortScale
  have ht : Varies errand.scales s.clients t.clients .exclude := by
    refine .excluded fun n => ?_
    match n with
    | 0     => exact ⟨rfl, rfl, by decide, by decide⟩
    | 1     => exact ⟨rfl, rfl, by decide, by decide⟩
    | n + 2 => exact ⟨rfl, rfl, .rfl, fun _ => rfl⟩
  have hu : Varies errand.scales s.clients u.clients .abortScale := by
    refine .aborted (.cons (k := 2) ?cut (.cons (k := 2) ?whole .nil))
    case cut => exact .aborted (by decide) (by decide) (by decide) fun n _ => rfl
    case whole => exact .through fun n _ => ⟨⟨rfl, rfl⟩, rfl⟩
  exact ⟨.intro, .intro, ht, hu, (perform_of_varies .intro ht [] []).left,
    (perform_of_varies .intro hu [] []).left⟩

end Bench

end EngineBench
