import EngineBench.Proofs.Bench.Handover

namespace EngineBench

open Engine

namespace Action

variable {σ τ α β : Type}

-- Two steps end alike, in states that match.
structure Alike (S : σ → τ → Prop) (x : Action σ α) (y : Action τ α) (s : σ) (t : τ) : Prop where
  ends : x.Ends s (fun a s' => ∃ t', y t = .ok a t' ∧ S s' t')
    (fun e s' => ∃ t', y t = .error e t' ∧ S s' t')

variable {S : σ → τ → Prop} {x : Action σ α} {y : Action τ α} {s : σ} {t : τ}

-- What lies over a step does the same wherever it looks the same.
theorem Over.alike {φ : σ → τ} (h : x.Over φ y) {t : σ} (hs : φ s = φ t) :
    Alike (fun s t => φ s = φ t) x x s t := by
  refine ⟨(h s).imp (fun a s' ha => ?ok) (fun e s' he => ?failed)⟩
  case ok => exact (h.of_ok (hs ▸ ha)).imp fun _ ⟨ht, h'⟩ => ⟨ht, h'.symm⟩
  case failed => exact (h.of_error (hs ▸ he)).imp fun _ ⟨ht, h'⟩ => ⟨ht, h'.symm⟩

namespace Alike

theorem after (h : Alike S x y s t) : S (x.after s) (y.after t) := by
  have he := h.ends
  simp only [Ends] at he
  cases hx : x s <;> simp only [hx] at he
  case ok a s' =>
    obtain ⟨t', hy, h'⟩ := he
    exact after_ok hx ▸ after_ok hy ▸ h'
  case error e s' =>
    obtain ⟨t', hy, h'⟩ := he
    exact after_error hx ▸ after_error hy ▸ h'

-- What is known of the second step where it succeeds helps to go on.
theorem bind {Q : α → τ → Prop} {f : α → Action σ β} {g : α → Action τ β} (hx : Alike S x y s t)
    (hy : y.Ends t Q (fun _ _ => True))
    (hf : ∀ a s' t', S s' t' → Q a t' → Alike S (f a) (g a) s' t') :
    Alike S (x >>= f) (y >>= g) s t := by
  refine ⟨Ends.bind (Q := fun a s' => ∃ t', y t = .ok a t' ∧ S s' t')
    (hx.ends.imp (fun _ _ h => h) fun e s' ⟨t', he, h'⟩ => ⟨t', bind_error he, h'⟩) ?_⟩
  intro a s' ⟨t', ha, h'⟩
  rw [bind_ok ha]
  exact (hf a s' t' h' (hy.of_ok ha)).ends

-- Steps that do the same in some states are as good as one another there.
theorem of_eq {x' : Action σ α} {y' : Action τ α} {s' : σ} {t' : τ} (h : Alike S x' y' s' t')
    (hx : x s = x' s') (hy : y t = y' t') : Alike S x y s t := by
  have he := h.ends
  simp only [Ends, ← hx, ← hy] at he
  exact ⟨he⟩

end Alike

end Action

namespace Engine

variable {σ τ α : Type} {e : Engine σ} {e' : Engine τ} {φ : σ → τ}

-- A journal, and what the engine's own view shows.
def beside (φ : σ → τ) (w : List Note × σ) : List Note × τ :=
  (w.1, φ w.2)

theorem noted_over_beside (hr : ∀ w, e'.isRunning (φ w) = e.isRunning w)
    {exchange : Except Abort α → Exchange} {x : Action σ α} {y : Action τ α} (h : x.Over φ y) :
    (e.noted exchange x).Over (beside φ) (e'.noted exchange y) := by
  intro w
  have hs := h w.2
  simp only [Action.Ends, noted, beside, hr] at *
  cases hx : x w.2 <;> simp only [hx] at hs ⊢ <;> rw [hs]

theorem Over.noting (h : e.Over φ e') : e.noting.Over (beside φ) e'.noting where
  isRunning w     := h.isRunning w.2
  resetState      := noted_over_beside h.isRunning h.resetState
  start           := noted_over_beside h.isRunning h.start
  stop            := noted_over_beside h.isRunning h.stop
  runClient scale := noted_over_beside h.isRunning (h.runClient scale)
  elapsed w       := by simp only [Engine.noting, seen, beside, h.elapsed, h.isRunning]
  shutdownSeen w  := by simp only [Engine.noting, seen, beside, h.shutdownSeen, h.isRunning]
  log records w   := congrArg (Prod.mk w.1) (h.log records w.2)
  print text w    := congrArg (Prod.mk w.1) (h.print text w.2)

theorem Steady.noting (he : e.Steady) : e.noting.Steady where
  start_ok {w w'} h := by
    have hs := e.noting_over.start w
    simp only [Action.Ends, h] at hs
    exact he.start_ok hs
  runClient scale := by
    refine .of_after fun w => ?_
    have hs := (e.noting_over.runClient scale).after (t := w)
    exact (congrArg e.isRunning hs.symm).trans ((he.runClient scale).after w.2)
  elapsed s       := he.elapsed s.2
  shutdownSeen s  := he.shutdownSeen s.2
  log records s   := he.log records s.2
  print text s    := he.print text s.2

end Engine

namespace Script

-- A script with all that was logged but information such as announcements.
def quiet (s : Script) : Script :=
  { s with records := s.records.filter (·.level != .info) }

-- Scripted engines that log no such information.
def quietEngine : Engine Script :=
  { engine with log := fun records => engine.log (records.filter (·.level != .info)) }

theorem answer_over (call : Bool → Call) (line : Option Fault) (running : Bool) :
    (answer call line running).Over quiet (answer call line running) := by
  intro s
  cases line <;> rfl

theorem quiet_signal (s : Script) : s.quiet.signal = s.signal.quiet := by
  have h : s.board.signal.2.filter (·.level != .info) = s.board.signal.2 := by
    simp only [Shutdown.Board.signal]
    split <;> rfl
  simp only [signal, quiet, List.filter_append, h]

theorem quiet_taken (s : Script) (scale : Scale) : s.quiet.taken scale = (s.taken scale).quiet := by
  have ht : s.quiet.take = s.take := rfl
  simp only [taken, ht]
  split
  case isTrue  => exact quiet_signal { s.note (.run scale) with takes := s.takes.tail }
  case isFalse => rfl

theorem runClient_over (scale : Scale) : (runClient scale).Over quiet (runClient scale) := by
  intro s
  simp only [Action.Ends]
  cases hf : s.take.fault
  case none =>
    have hq : runClient scale s.quiet = .ok s.take.invocation (s.quiet.taken scale) :=
      runClient_ok hf
    rw [quiet_taken] at hq
    rw [runClient_ok hf]
    exact hq
  case some f =>
    have hq : runClient scale s.quiet = .error (.fault f) (s.quiet.taken scale) :=
      runClient_error hf
    rw [quiet_taken] at hq
    rw [runClient_error hf]
    exact hq

theorem engine_over_quiet : engine.Over quiet quietEngine where
  isRunning _      := rfl
  resetState s     := answer_over .reset _ _ { s with resets := s.resets.tail }
  start s          := answer_over .start _ _ { s with starts := s.starts.tail }
  stop s           := answer_over .stop _ _ { s with stops := s.stops.tail }
  runClient        := runClient_over
  elapsed _        := rfl
  shutdownSeen s   := by
    simp only [quietEngine, engine, shutdownSeen, quiet]
    split <;> rfl
  log records s    := by
    simp only [quietEngine, engine, quiet, List.filter_append]
  print _ _        := rfl

theorem quiet_announcement (m : Benchmark) (s : Script) :
    (engine.log [.info (Bench.announcement m)] s).quiet = s.quiet := by
  simp [engine, quiet, Log.Record.info]

end Script

namespace Bench

variable {σ τ : Type} {b : Bench σ} {b' : Bench τ} {φ : σ → τ} {name : String} {mode : Mode}

-- A benchmark over one catalog, and if that is through, one over another.
def runParts (b : Bench σ) (name : String) (mode : Mode) (c₁ c₂ : Catalog) :
    Action (State σ) (List Outcome) := do
  let outcomes₁ ← b.runBenchmark ⟨name, mode, c₁⟩
  let outcomes₂ ← b.runBenchmark ⟨name, mode, c₂⟩
  return outcomes₁ ++ outcomes₂

-- Two states that look the same.
def Same (φ : σ → τ) (s t : State σ) : Prop :=
  s.map φ = t.map φ

theorem runScales_append {xs ys : List Scale} :
    b.runScales name mode (xs ++ ys) = do
      let outcomes₁ ← b.runScales name mode xs
      let outcomes₂ ← b.runScales name mode ys
      return outcomes₁ ++ outcomes₂ := by
  induction xs
  case nil                => simp [runScales]
  case cons scale rest hi =>
    simp only [List.cons_append, runScales, hi, bind_assoc, pure_bind]

-- The server that the mode asks for is there.
def Serves (b : Bench σ) (mode : Mode) (s : State σ) : Prop :=
  mode = .query → b.engine.isRunning s.world = true

section

variable (he : b.engine.Steady)

include he

theorem prepareBenchmark_serves (s : State σ) :
    (b.prepareBenchmark mode).Ends s (fun _ s' => b.Serves mode s') (fun _ _ => True) := by
  cases mode
  case load => exact .pure nofun
  case query =>
    have hi : b.isRunning.Ends s (fun r s' => r = b.engine.isRunning s'.world) (fun _ _ => True) :=
      rfl
    refine hi.bind fun r s' hr => ?_
    split
    case isTrue =>
      have hs : b.engine.start.Ends s'.world (fun _ w => b.engine.isRunning w = true)
          (fun _ _ => True) := by
        simp only [Action.Ends]
        cases h : b.engine.start s'.world
        case ok    => exact he.start_ok h
        case error => trivial
      exact (onEngine_ends hs).imp (fun _ _ h _ => h) (fun _ _ h => h)
    case isFalse hn => exact .pure fun _ => by simpa [hr] using hn

theorem runScales_serves {scales : List Scale} {s : State σ} (hs : b.Serves mode s) :
    (b.runScales name mode scales).Ends s (fun _ s' => b.Serves mode s') (fun _ _ => True) := by
  cases mode
  case load  => exact Action.Ends.any.imp (fun _ _ _ => nofun) (fun _ _ h => h)
  case query =>
    let v := b.view (s.noted [])
    have h : (b.noting.runScales name .query scales).Ends (s.noted [])
        (fun _ t => v.Ready (fun _ => True) .query (b.view t))
        (fun _ t => v.Grows (fun _ => True) (b.view t)) :=
      runScales_ready (covers_query he fun _ => True) (fun _ _ _ => trivial) ⟨.refl, hs⟩
    refine (runScales_over b.noting_over scales).ends (t := s.noted []) ?_
    exact h.imp (fun _ _ h => h.running) (fun _ _ _ => trivial)

end

section

variable (he : b.engine.Steady) (ho : b.Over φ b')
  (ha : ∀ m w, φ (b.engine.log [.info (announcement m)] w) = φ w)

include ha

-- Nobody sees an announcement.
theorem exists_announced (m : Benchmark) (s : State σ) :
    ∃ s', b.logged [.info (announcement m)] s = .ok () s' ∧
      s'.world = b.engine.log [.info (announcement m)] s.world ∧ Same φ s s' :=
  ⟨_, rfl, rfl, congrArg (State.mk · s.reporter s.reactions) (ha m s.world).symm⟩

include he ho

-- Where the server is there, a benchmark is its scales.
theorem runScales_alike_runBenchmark {m : Benchmark} {s t : State σ} (hm : Same φ s t)
    (hs : b.Serves m.mode t) :
    Action.Alike (Same φ) (b.runScales m.name m.mode m.catalog.scales) (b.runBenchmark m) s t := by
  have ⟨t₁, ht, hw, hm₁⟩ := exists_announced ha m t
  have hp : b.prepareBenchmark m.mode t₁ = .ok () t₁ := by
    cases hc : m.mode
    case load  => rfl
    case query =>
      have hr : b.engine.isRunning t₁.world = true := hw ▸ (he.log _ t.world).trans (hs hc)
      have hi : b.isRunning t₁ = .ok true t₁ := congrArg (EStateM.Result.ok · t₁) hr
      exact Action.bind_ok hi
  have hb : b.runBenchmark m t = b.runScales m.name m.mode m.catalog.scales t₁ :=
    (Action.bind_ok ht).trans (Action.bind_ok hp)
  have hc : Action.Alike (Same φ) (b.runScales m.name m.mode m.catalog.scales)
      (b.runScales m.name m.mode m.catalog.scales) s t₁ :=
    (runScales_over ho m.catalog.scales).alike (hm.trans hm₁)
  exact hc.of_eq rfl hb

-- The second start of a query benchmark is not made, as the first one holds.
theorem runBenchmark_alike_runParts (name : String) (mode : Mode) (c₁ c₂ : Catalog) (s : State σ) :
    Action.Alike (Same φ) (b.runBenchmark ⟨name, mode, c₁ ++ c₂⟩) (b.runParts name mode c₁ c₂)
      s s := by
  have ⟨s₁, hx, _, hs₁⟩ := exists_announced ha ⟨name, mode, c₁ ++ c₂⟩ s
  have ⟨t₁, hy, _, ht₁⟩ := exists_announced ha ⟨name, mode, c₁⟩ s
  have hc : Action.Alike (Same φ)
      (b.prepareBenchmark mode >>= fun _ => b.runScales name mode c₁.scales >>= fun o₁ =>
        b.runScales name mode c₂.scales >>= fun o₂ => pure (o₁ ++ o₂))
      (b.prepareBenchmark mode >>= fun _ => b.runScales name mode c₁.scales >>= fun o₁ =>
        b.runBenchmark ⟨name, mode, c₂⟩ >>= fun o₂ => pure (o₁ ++ o₂)) s₁ t₁ := by
    have hp : Action.Alike (Same φ) (b.prepareBenchmark mode) (b.prepareBenchmark mode) s₁ t₁ :=
      (prepareBenchmark_over ho).alike (hs₁.symm.trans ht₁)
    refine hp.bind (prepareBenchmark_serves he t₁) fun _ s₂ t₂ hm₂ hs₂ => ?_
    have hq : Action.Alike (Same φ) (b.runScales name mode c₁.scales)
        (b.runScales name mode c₁.scales) s₂ t₂ := (runScales_over ho c₁.scales).alike hm₂
    refine hq.bind (runScales_serves he hs₂) fun o₁ s₃ t₃ hm₃ hs₃ => ?_
    refine (runScales_alike_runBenchmark he ho ha (m := ⟨name, mode, c₂⟩) hm₃ hs₃).bind .any ?_
    exact fun o₂ s₄ t₄ hm₄ _ => ⟨t₄, rfl, hm₄⟩
  have hb : b.runBenchmark ⟨name, mode, c₁ ++ c₂⟩ s =
      (b.prepareBenchmark mode >>= fun _ => b.runScales name mode (c₁.scales ++ c₂.scales)) s₁ :=
    Action.bind_ok hx
  have hb' : b.runParts name mode c₁ c₂ s =
      ((b.prepareBenchmark mode >>= fun _ => b.runScales name mode c₁.scales) >>= fun o₁ =>
        b.runBenchmark ⟨name, mode, c₂⟩ >>= fun o₂ => pure (o₁ ++ o₂)) t₁ := by
    have h₁ : b.runBenchmark ⟨name, mode, c₁⟩ =
      (b.logged [.info (announcement ⟨name, mode, c₁⟩)] >>= fun _ =>
        b.prepareBenchmark mode >>= fun _ => b.runScales name mode c₁.scales) := rfl
    rw [runParts, h₁, bind_assoc]
    exact Action.bind_ok hy
  rw [runScales_append] at hb
  rw [bind_assoc] at hb'
  exact hc.of_eq hb hb'

end

-- Scales share nothing but the server, so a benchmark can be split anywhere in its catalog, and a
-- list of benchmarks between any two of them: the same is called for in the same order, the
-- collectors and the engine are left the same, and the outcomes or the error are the same. Only
-- announcements differ.
theorem runs_split (he : b.engine.Steady) (ho : b.Over φ b')
    (ha : ∀ m w, φ (b.engine.log [.info (announcement m)] w) = φ w) :
    (∀ (name : String) (mode : Mode) (c₁ c₂ : Catalog) (s : State σ),
      Action.Alike (Same φ) (b.runBenchmark ⟨name, mode, c₁ ++ c₂⟩) (b.runParts name mode c₁ c₂)
        s s ∧
      b.calls (·.runBenchmark ⟨name, mode, c₁ ++ c₂⟩) s =
        b.calls (·.runParts name mode c₁ c₂) s ∧
      b.engine.isRunning ((b.runBenchmark ⟨name, mode, c₁ ++ c₂⟩).after s).world =
        b.engine.isRunning ((b.runParts name mode c₁ c₂).after s).world) ∧
    ∀ ms₁ ms₂ : List Benchmark, b.runAll (ms₁ ++ ms₂) = do
      let outcomes₁ ← b.runAll ms₁
      let outcomes₂ ← b.runAll ms₂
      return outcomes₁ ++ outcomes₂ := by
  refine ⟨fun name mode c₁ c₂ s => ?_, fun ms₁ ms₂ => runAll_append⟩
  have hp := runBenchmark_alike_runParts he ho ha name mode c₁ c₂ s
  refine ⟨hp, ?calls, ?running⟩
  case calls =>
    have hn : b.noting.Over (beside φ) b'.noting := ⟨ho.engine.noting, ho.policy⟩
    have hs := (runBenchmark_alike_runParts he.noting hn
      (fun m w => congrArg (Prod.mk w.1) (ha m w.2)) name mode c₁ c₂ (s.noted [])).after
    have hw := congrArg (fun s => s.world.1) hs
    exact congrArg (List.filter _) hw
  case running =>
    have hw := congrArg (fun s => b'.engine.isRunning s.world) hp.after
    exact (ho.engine.isRunning _).symm.trans (hw.trans (ho.engine.isRunning _))

-- The first part aborts here and the second one ends with a signal, in one run as in two.
theorem runs_split_tiers :
    let b : Bench Script := ⟨Script.engine, .abortScale⟩
    let script : Script := { Script.blank false with
      takes    := [⟨⟨some 1, 0, false⟩, none, false⟩, ⟨⟨some 0, 5, false⟩, none, true⟩]
      board    := Shutdown.Board.new.newListener.1
      listener := some 0 }
    let small : Catalog := ⟨(Benchmark.tiers .query).catalog.scales.take 1⟩
    let large : Catalog := ⟨(Benchmark.tiers .query).catalog.scales.drop 1⟩
    Action.Alike (Same Script.quiet) (b.runBenchmark ⟨"tiers", .query, small ++ large⟩)
      (b.runParts "tiers" .query small large) ⟨script, [], []⟩ ⟨script, [], []⟩ := by
  intro b script small large
  have ho : b.Over Script.quiet ⟨Script.quietEngine, .abortScale⟩ := ⟨Script.engine_over_quiet, rfl⟩
  have ⟨h, _⟩ := runs_split Script.engine_lawful.toSteady ho Script.quiet_announcement
  exact (h "tiers" .query small large ⟨script, [], []⟩).left

end Bench

end EngineBench
