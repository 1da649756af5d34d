import EngineBench.Bench.Journal
import EngineBench.Proofs.Bench.Laws

namespace EngineBench

open Engine

-- The calls made so far, and whether the server is running.
structure View where
  calls : List Note
  running : Bool

namespace View

-- The view after a call that was made, and that left the server running or not.
def add (v : View) (x : Exchange) (running : Bool) : View :=
  ⟨v.calls ++ [⟨x, v.running⟩], running⟩

end View

namespace Engine

variable {σ α : Type} {e : Engine σ} {w : List Note × σ}

def view (e : Engine σ) (w : List Note × σ) : View :=
  ⟨w.1.filter (·.exchange.isCall), e.isRunning w.2⟩

theorem noted_ends (exchange : Except Abort α → Exchange) (hc : ∀ a, (exchange a).isCall)
    {x : Action σ α} {Q : α → σ → Prop} {E : Abort → σ → Prop} (hx : x.Ends w.2 Q E) :
    (e.noted exchange x).Ends w
      (fun a w' => e.view w' = (e.view w).add (exchange (.ok a)) (e.isRunning w'.2) ∧ Q a w'.2)
      (fun f w' =>
        e.view w' = (e.view w).add (exchange (.error f)) (e.isRunning w'.2) ∧ E f w'.2) := by
  simp only [Action.Ends, noted] at *
  cases h : x w.2 <;> simp only [h] at hx ⊢
  all_goals
    refine ⟨?_, hx⟩
    simp [view, View.add, hc]

theorem seen_view (exchange : α → Exchange) (hc : ∀ a, (exchange a).isCall = false)
    {f : σ → α × σ} (hf : ∀ s, e.isRunning (f s).2 = e.isRunning s) :
    e.view (e.seen exchange f w).2 = e.view w := by
  simp [view, seen, hc, hf]

namespace Steady

variable (he : e.Steady)

include he

theorem runClient_ends (scale : Scale) :
    (e.noting.runClient scale).Ends w
      (fun a w' => e.view w' = (e.view w).add (.run scale (.ok a)) (e.view w).running)
      (fun f w' => e.view w' = (e.view w).add (.run scale (.error f)) (e.view w).running) := by
  have h := noted_ends (e := e) (.run scale) (fun _ => rfl)
    ((he.runClient scale).ends w.2)
  exact h.imp (fun _ _ h => h.left.trans (congrArg _ h.right))
    (fun _ _ h => h.left.trans (congrArg _ h.right))

theorem start_ends :
    e.noting.start.Ends w
      (fun _ w' => e.view w' = (e.view w).add (.start (.ok ())) true)
      (fun f w' => ∃ r, e.view w' = (e.view w).add (.start (.error f)) r) := by
  have hs : e.start.Ends w.2 (fun _ s => e.isRunning s = true) (fun _ _ => True) := by
    simp only [Action.Ends]
    cases h : e.start w.2
    case ok    => exact he.start_ok h
    case error => trivial
  have h := noted_ends (e := e) .start (fun _ => rfl) hs
  exact h.imp (fun _ _ h => h.right ▸ h.left) (fun _ _ h => ⟨_, h.left⟩)

end Steady

namespace Lawful

variable (he : e.Lawful)

include he

theorem stop_ends :
    e.noting.stop.Ends w
      (fun _ w' => e.view w' = (e.view w).add (.stop (.ok ())) false)
      (fun f w' => ∃ r, e.view w' = (e.view w).add (.stop (.error f)) r) := by
  have hs : e.stop.Ends w.2 (fun _ s => e.isRunning s = false) (fun _ _ => True) := by
    simp only [Action.Ends]
    cases h : e.stop w.2
    case ok    => exact he.stop_ok h
    case error => trivial
  have h := noted_ends (e := e) .stop (fun _ => rfl) hs
  exact h.imp (fun _ _ h => h.right ▸ h.left) (fun _ _ h => ⟨_, h.left⟩)

theorem resetState_ends :
    e.noting.resetState.Ends w
      (fun _ w' => e.view w' = (e.view w).add (.reset (.ok ())) (e.view w).running)
      (fun f w' => e.view w' = (e.view w).add (.reset (.error f)) (e.view w).running) := by
  have h := noted_ends (e := e) .reset (fun _ => rfl) (he.resetState.ends w.2)
  exact h.imp (fun _ _ h => h.left.trans (congrArg _ h.right))
    (fun _ _ h => h.left.trans (congrArg _ h.right))

end Lawful

end Engine

namespace Bench

variable {σ α : Type} {b : Bench σ} {t : State (List Note × σ)}

def view (b : Bench σ) (t : State (List Note × σ)) : View :=
  b.engine.view t.world

-- A part of a run that makes no call and leaves the server as it is.
def Quiet (b : Bench σ) (x : Action (State (List Note × σ)) α) : Prop :=
  x.Keeps b.view

theorem onEngine_ends {σ : Type} {x : Action σ α} {s : State σ} {Q : α → σ → Prop}
    {E : Abort → σ → Prop} (h : x.Ends s.world Q E) :
    (onEngine x).Ends s (fun a s' => Q a s'.world) (fun e s' => E e s'.world) := by
  simp only [Action.Ends, onEngine] at *
  cases hx : x s.world <;> simpa only [hx] using h

-- A client ends as its engine says, and the clock is read before that is known.
theorem runTimed_ends_of {σ : Type} {b : Bench σ} {scale : Scale} {s : State σ}
    {Q : Invocation → σ → Prop} {E : Abort → σ → Prop}
    (h : (b.engine.runClient scale).Ends s.world Q E)
    (hq : ∀ r w, Q r w → Q r (b.engine.elapsed w).2)
    (he : ∀ f w, E (.fault f) w → E (.fault f) (b.engine.elapsed w).2) :
    (b.runTimed scale).Ends s (fun p s' => Q p.1 s'.world) (fun e s' => E e s'.world) := by
  refine (onEngine_ends (Action.Ends.attempt_answers h)).bind fun o s₁ h₁ => ?_
  have hd : (observe b.engine.elapsed).Ends s₁
      (fun _ s' => s'.world = (b.engine.elapsed s₁.world).2) (fun e s' => E e s'.world) := rfl
  refine hd.bind fun d s₂ h₂ => ?_
  cases o
  case ok r    => exact Eq.substr (p := Q r) h₂ (hq r _ h₁)
  case error f => exact Eq.substr (p := E (.fault f)) h₂ (he f _ h₁)

-- A run goes on after a look that found nothing, and ends with one that saw the signal.
theorem checkShutdown_ends_of {σ : Type} {b : Bench σ} {s : State σ} {Q : σ → Prop}
    {E : Abort → σ → Prop}
    (hq : (b.engine.shutdownSeen s.world).1 = false → Q (b.engine.shutdownSeen s.world).2)
    (he : (b.engine.shutdownSeen s.world).1 = true →
      E (.fault .shutdown) (b.engine.shutdownSeen s.world).2) :
    b.checkShutdown.Ends s (fun _ s' => Q s'.world) (fun e s' => E e s'.world) := by
  have hl : (observe b.engine.shutdownSeen).Ends s
      (fun seen s' => s'.world = (b.engine.shutdownSeen s.world).2 ∧
        (b.engine.shutdownSeen s.world).1 = seen) (fun e s' => E e s'.world) := ⟨rfl, rfl⟩
  refine hl.bind fun seen s' h => ?_
  obtain ⟨hw, hs⟩ := h
  cases seen
  case false => exact Eq.substr (p := Q) hw (hq hs)
  case true  => exact Eq.substr (p := E (.fault .shutdown)) hw (he hs)

namespace Quiet

theorem ends {x : Action (State (List Note × σ)) α} (hx : b.Quiet x) :
    x.Ends t (fun _ t' => b.view t' = b.view t) (fun _ t' => b.view t' = b.view t) :=
  Action.Keeps.ends hx t

theorem reading {exchange : α → Exchange} (hc : ∀ a, (exchange a).isCall = false)
    {f : σ → α × σ} (hf : ∀ s, b.engine.isRunning (f s).2 = b.engine.isRunning s) :
    b.Quiet (observe (b.engine.seen exchange f)) :=
  .of_after fun _ => seen_view _ hc hf

variable (he : b.engine.Steady)

include he

theorem logged (records : Log) : b.Quiet (b.noting.logged records) :=
  .of_after fun t => congrArg (View.mk _) (he.log records t.world.2)

theorem report (r : Report) : b.Quiet (b.noting.report r) :=
  .of_after fun _ => congrArg (View.mk _) ((he.print ..).trans (he.log ..))

theorem checkShutdown : b.Quiet b.noting.checkShutdown :=
  .bind (reading (fun _ => rfl) he.shutdownSeen) fun _ => .ite (.fail _) (.pure _)

theorem excluded (a : Accumulator) (s : Sample) : b.Quiet (b.noting.excluded a s) :=
  .bind (logged he _) fun _ => .ofBreach _

theorem judgeFailure (a : Accumulator) (s : Sample) : b.Quiet (b.noting.judgeFailure a s) := by
  simp only [Bench.judgeFailure]
  cases b.noting.policy
  case record     => exact .bind (logged he _) fun _ => .bind (.ofBreach _) fun _ => .pure _
  case exclude    => exact .bind (logged he _) fun _ => .bind (excluded he a s) fun _ => .pure _
  case abortScale => exact .bind (logged he _) fun _ => .bind (excluded he a s) fun _ => .pure _

theorem judge (a : Accumulator) (s : Sample) : b.Quiet (b.noting.judge a s) :=
  .ite (.bind (.ofBreach _) fun _ => .pure _) (judgeFailure he a s)

theorem reportOutcome (name : String) : (o : Outcome) → b.Quiet (b.noting.reportOutcome name o)
  | .completed _ | .failed .. => report he _

end Quiet

-- A client is one more call, whatever it comes to, and the clock is read after it.
theorem runTimed_ends (he : b.engine.Steady) (scale : Scale) :
    (b.noting.runTimed scale).Ends t
      (fun p t' => b.view t' = (b.view t).add (.run scale (.ok p.1)) (b.view t).running)
      (fun f t' => b.view t' = (b.view t).add (.run scale (.error f)) (b.view t).running) := by
  have hd (w : List Note × σ) : b.engine.view (b.noting.engine.elapsed w).2 = b.engine.view w :=
    seen_view .elapsed (fun _ => rfl) he.elapsed
  have hr := he.runClient_ends (w := t.world) scale
  exact runTimed_ends_of
    (Q := fun r w => b.engine.view w = (b.view t).add (.run scale (.ok r)) (b.view t).running)
    (E := fun f w => b.engine.view w = (b.view t).add (.run scale (.error f)) (b.view t).running)
    hr (fun _ w h => (hd w).trans h) (fun _ w h => (hd w).trans h)

end Bench

end EngineBench
