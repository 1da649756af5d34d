import EngineBench.Proofs.Bench.Iteration

namespace EngineBench

open Engine

namespace Engine.Note

-- Clients are run and stops are made while the server is running, resets and starts while it is
-- not.
def Safe (n : Note) : Prop :=
  match n.exchange with
  | .stop _ | .run ..            => n.running = true
  | .reset _ | .start _          => n.running = false
  | .elapsed _ | .shutdownSeen _ => True

end Engine.Note

namespace View

variable {S : Note → Prop} {v v₁ v₂ : View} {x : Exchange} {r : Bool}

def Grows (S : Note → Prop) (v v' : View) : Prop :=
  ∃ more, v'.calls = v.calls ++ more ∧ ∀ n ∈ more, S n

namespace Grows

theorem refl : v.Grows S v :=
  ⟨[], (List.append_nil _).symm, List.forall_mem_nil _⟩

theorem add (h : v.Grows S v₁) (hn : S ⟨x, v₁.running⟩) : v.Grows S (v₁.add x r) := by
  have ⟨more, hm, hs⟩ := h
  refine ⟨more ++ [⟨x, v₁.running⟩], ?calls, ?all⟩
  case calls => simp only [View.add, hm, List.append_assoc]
  case all =>
    intro n hn'
    cases List.mem_append.mp hn'
    case inl hn' => exact hs n hn'
    case inr hn' => exact List.mem_singleton.mp hn' ▸ hn

end Grows

-- Since the first view only calls in `S` were made, and now the server is running.
structure Up (S : Note → Prop) (v v' : View) : Prop where
  grows   : v.Grows S v'
  running : v'.running = true

-- The server is running if the mode does not start one of its own.
structure Ready (S : Note → Prop) (mode : Mode) (v v' : View) : Prop where
  grows   : v.Grows S v'
  running : mode = .query → v'.running = true

theorem Up.ready {mode : Mode} (h : v.Up S v₁) : v.Ready S mode v₁ :=
  ⟨h.grows, fun _ => h.running⟩

end View

namespace Engine

variable {σ : Type} {e : Engine σ} {S : Note → Prop} {v : View} {w : List Note × σ}

theorem Steady.start_up (he : e.Steady) (hs : ∀ answer, S ⟨.start answer, (e.view w).running⟩)
    (h : v.Grows S (e.view w)) :
    e.noting.start.Ends w (fun _ w' => v.Up S (e.view w')) (fun _ w' => v.Grows S (e.view w')) := by
  refine he.start_ends.imp (fun a w' hw => ?up) (fun f w' hw => ?failed)
  case up => exact hw ▸ ⟨h.add (hs _), rfl⟩
  case failed =>
    have ⟨r, hw⟩ := hw
    exact hw ▸ h.add (hs _)

theorem Lawful.stop_grows (hl : e.Lawful) (hs : ∀ n : Note, n.Safe → S n)
    (h : v.Up S (e.view w)) :
    e.noting.stop.Ends w
      (fun _ w' => v.Grows S (e.view w') ∧ (e.view w').running = false)
      (fun _ w' => v.Grows S (e.view w')) := by
  refine hl.stop_ends.imp (fun a w' hw => ?stopped) (fun f w' hw => ?failed)
  case stopped => exact hw ▸ ⟨h.grows.add (hs _ h.running), rfl⟩
  case failed =>
    have ⟨r, hw⟩ := hw
    exact hw ▸ h.grows.add (hs _ h.running)

theorem Lawful.restart_up (hl : e.Lawful) (hs : ∀ n : Note, n.Safe → S n) (h : v.Up S (e.view w)) :
    e.noting.restart.Ends w (fun _ w' => v.Up S (e.view w'))
      (fun _ w' => v.Grows S (e.view w')) :=
  (hl.stop_grows hs h).bind fun _ _ ⟨h, hr⟩ => hl.toSteady.start_up (fun _ => hs _ hr) h

theorem Lawful.resetState_grows (hl : e.Lawful) (hs : ∀ n : Note, n.Safe → S n)
    (h : v.Grows S (e.view w)) (hr : (e.view w).running = false) :
    e.noting.resetState.Ends w
      (fun _ w' => v.Grows S (e.view w') ∧ (e.view w').running = false)
      (fun _ w' => v.Grows S (e.view w')) := by
  refine hl.resetState_ends.imp (fun a w' hw => ?reset) (fun f w' hw => ?failed)
  case reset => exact hw ▸ ⟨h.add (hs _ hr), hr⟩
  case failed => exact hw ▸ h.add (hs _ hr)

end Engine

namespace Bench

variable {σ α : Type} {b : Bench σ} {S : Note → Prop} {v : View} {t : State (List Note × σ)}
  {name : String} {mode : Mode} {scale : Scale}

theorem Quiet.up {x : Action (State (List Note × σ)) α} (hx : b.Quiet x)
    (h : v.Up S (b.view t)) :
    x.Ends t (fun _ t' => v.Up S (b.view t')) (fun _ t' => v.Grows S (b.view t')) :=
  hx.ends.imp (fun _ _ ht => ht ▸ h) (fun _ _ ht => ht ▸ h.grows)

theorem Quiet.grows {x : Action (State (List Note × σ)) α} (hx : b.Quiet x)
    (h : v.Grows S (b.view t)) :
    x.Ends t (fun _ t' => v.Grows S (b.view t')) (fun _ t' => v.Grows S (b.view t')) :=
  hx.ends.imp (fun _ _ ht => ht ▸ h) (fun _ _ ht => ht ▸ h)

-- What the calls in `S` have to cover, so that scales can be run in some mode.
structure Covers (b : Bench σ) (S : Note → Prop) (mode : Mode) : Prop where
  steady : b.engine.Steady
  lawful : mode = .load → b.engine.Lawful
  safe   : mode = .load → ∀ n : Note, n.Safe → S n

theorem betweenIterations_up (hc : b.Covers S mode) (iteration : Nat) (h : v.Up S (b.view t)) :
    (b.noting.betweenIterations mode scale iteration).Ends t
      (fun _ t' => v.Up S (b.view t')) (fun _ t' => v.Grows S (b.view t')) := by
  simp only [betweenIterations]
  split
  case isFalse => exact .pure h
  case isTrue hm =>
    refine .bind (Quiet.up (.ofBreach _) h) fun next t h => ?_
    split
    case isTrue  => exact onEngine_ends ((hc.lawful hm).restart_up (hc.safe hm) h)
    case isFalse => exact .pure h

theorem iterate_up (hc : b.Covers S mode) (hs : ∀ answer, S ⟨.run scale answer, true⟩)
    (iteration : Nat) (a : Accumulator) (h : v.Up S (b.view t)) :
    (b.noting.iterate name mode scale iteration a).Ends t
      (fun _ t' => v.Up S (b.view t')) (fun _ t' => v.Grows S (b.view t')) := by
  refine .bind ((Quiet.checkShutdown hc.steady).up h) fun _ t h => ?_
  refine .bind (Q := fun _ t' => v.Up S (b.view t')) ?timed fun p t h => ?_
  case timed =>
    refine (runTimed_ends hc.steady scale).imp (fun p t' ht => ?ran) (fun f t' ht => ?failed)
    case ran => exact ht ▸ ⟨h.grows.add (h.running ▸ hs _), h.running⟩
    case failed => exact ht ▸ h.grows.add (h.running ▸ hs _)
  refine .bind ((Quiet.logged hc.steady _).up h) fun _ t h => ?_
  refine .bind ((Quiet.judge hc.steady _ _).up h) fun verdict t h => ?_
  cases verdict
  case abort => exact .pure h
  case goOn  => exact .bind (betweenIterations_up hc iteration h) fun _ _ h => .pure h

-- The loop invariant is that the server is running.
theorem runIterations_up (hc : b.Covers S mode) (hs : ∀ answer, S ⟨.run scale answer, true⟩)
    (left iteration : Nat) (a : Accumulator) (h : v.Up S (b.view t)) :
    (b.noting.runIterations name mode scale left iteration a).Ends t
      (fun _ t' => v.Up S (b.view t')) (fun _ t' => v.Grows S (b.view t')) := by
  induction left generalizing iteration a t
  case zero => exact .pure h
  case succ left hi =>
    rw [runIterations_succ]
    refine (iterate_up hc hs iteration a h).bind fun verdict t h => ?_
    cases verdict
    case abort  => exact .pure h
    case goOn a => exact hi _ a h

theorem isRunning_ends {E : Abort → State (List Note × σ) → Prop} :
    b.noting.isRunning.Ends t (fun r t' => t' = t ∧ r = (b.view t).running) E :=
  ⟨rfl, rfl⟩

theorem prepareScale_up (hc : b.Covers S mode) (h : v.Ready S mode (b.view t)) :
    (b.noting.prepareScale mode).Ends t
      (fun _ t' => v.Up S (b.view t')) (fun _ t' => v.Grows S (b.view t')) := by
  cases mode
  case query => exact .pure ⟨h.grows, h.running rfl⟩
  case load =>
    have hl := hc.lawful rfl
    have hs := hc.safe rfl
    have hd (t : State (List Note × σ)) (hg : v.Grows S (b.view t))
        (hr : (b.view t).running = false) :
        (do onEngine b.noting.engine.resetState; onEngine b.noting.engine.start).Ends t
          (fun _ t' => v.Up S (b.view t')) (fun _ t' => v.Grows S (b.view t')) :=
      (onEngine_ends (hl.resetState_grows hs hg hr)).bind fun _ _ ⟨h, hr⟩ =>
        onEngine_ends (hl.toSteady.start_up (fun _ => hs _ hr) h)
    refine isRunning_ends.bind fun r t' ⟨ht, hr⟩ => ?_
    subst ht
    split
    case isTrue hr' =>
      have hu : v.Up S (b.view t') := ⟨h.grows, hr ▸ hr'⟩
      exact (onEngine_ends (hl.stop_grows hs hu)).bind fun _ _ ⟨h, hr⟩ => hd _ h hr
    case isFalse hr' =>
      exact hd t' h.grows (by simpa [hr] using hr')

theorem runScale_up (hc : b.Covers S mode) (hs : ∀ answer, S ⟨.run scale answer, true⟩)
    (h : v.Ready S mode (b.view t)) :
    (b.noting.runScale name mode scale).Ends t
      (fun _ t' => v.Up S (b.view t')) (fun _ t' => v.Grows S (b.view t')) :=
  (prepareScale_up hc h).bind fun _ _ h => runIterations_up hc hs _ _ _ h

theorem runScales_ready (hc : b.Covers S mode) {scales : List Scale}
    (hs : ∀ scale ∈ scales, ∀ answer, S ⟨.run scale answer, true⟩)
    (h : v.Ready S mode (b.view t)) :
    (b.noting.runScales name mode scales).Ends t
      (fun _ t' => v.Ready S mode (b.view t')) (fun _ t' => v.Grows S (b.view t')) := by
  induction scales generalizing t
  case nil => exact .pure h
  case cons scale rest hi =>
    have ⟨hs, hr⟩ := List.forall_mem_cons.mp hs
    refine (runScale_up hc hs h).bind fun outcome t h => ?_
    refine ((Quiet.reportOutcome hc.steady name outcome).up h).bind fun _ t h => ?_
    exact (hi hr h.ready).bind fun _ _ h => .pure h

end Bench

end EngineBench
