import EngineBench.Live.Journal
import EngineBench.Proofs.Bench.Over
import EngineBench.Proofs.Live.Steps

namespace EngineBench

namespace Host

variable {σ τ : Type}

-- The two give the same answers, and the map takes each state of the upper one to the state of the
-- lower one.
structure Over (φ : τ → σ) (h₁ : Host τ) (h₂ : Host σ) : Prop where
  respond     : ∀ r w, h₂.respond r (φ w) = ((h₁.respond r w).1, φ (h₁.respond r w).2)
  interrupted : ∀ w, h₂.interrupted (φ w) = h₁.interrupted w
  log         : ∀ records w, h₂.log records (φ w) = φ (h₁.log records w)
  print       : ∀ text w, h₂.print text (φ w) = φ (h₁.print text w)

theorem noting_over (h : Host σ) : h.noting.Over Prod.snd h where
  respond _ _   := rfl
  interrupted _ := rfl
  log _ _       := rfl
  print _ _     := rfl

-- The same journal, with something noted before it.
def prepend (before : List Exchange) (w : List Exchange × σ) : List Exchange × σ :=
  (before ++ w.1, w.2)

theorem noting_over_prepend (h : Host σ) (before : List Exchange) :
    h.noting.Over (prepend before) h.noting where
  respond _ _   := by simp [noting, prepend]
  interrupted _ := rfl
  log _ _       := rfl
  print _ _     := rfl

end Host

namespace Session

variable {σ τ α : Type}

def map (φ : τ → σ) (s : Session τ) : Session σ :=
  { s with world := φ s.world }

-- Nothing is asked of the host for an interrupt.
theorem alerted_journal {h : Host σ} (s : Session (List Host.Exchange × σ)) :
    (alerted h.noting s).world.1 = s.world.1 := by
  unfold alerted
  split <;> rfl

theorem release_journal {h : Host σ} {pid : Pid} {before xs : List Host.Exchange}
    {s : Session (List Host.Exchange × σ)} (hs : s.world.1 = before ++ xs) :
    (s.release h.noting pid).world.1 = before ++ (xs ++ [⟨.release pid, ()⟩]) := by
  rw [← List.append_assoc, ← hs]
  rfl

variable {φ : τ → σ} {h₁ : Host τ} {h₂ : Host σ} (h : h₁.Over φ h₂)

include h

theorem release_over (pid : Pid) (s : Session τ) :
    (s.map φ).release h₂ pid = (s.release h₁ pid).map φ := by
  simp only [release, map, h.respond]

theorem ask_over (r : Host.Request) : (ask h₁ r).Over (map φ) (ask h₂ r) := by
  intro s
  simp only [Action.Ends, ask, map, h.respond]

theorem alerted_over (s : Session τ) : alerted h₂ (s.map φ) = (alerted h₁ s).map φ := by
  simp only [alerted, map, h.interrupted, h.log, h.print]
  split <;> rfl

theorem heed_over : (heed h₁).Over (map φ) (heed h₂) :=
  fun s => congrArg (EStateM.Result.ok ()) (alerted_over h s)

theorem releasing_over {x : Action (Session τ) α} {y : Action (Session σ) α}
    (hx : x.Over (map φ) y) (pid : Pid) :
    (releasing h₁ pid x).Over (map φ) (releasing h₂ pid y) := by
  intro s
  have hs := hx s
  simp only [Action.Ends, releasing] at *
  cases hr : x s <;> simp only [hr] at hs ⊢ <;> rw [hs] <;>
    simp only [release_over h]

theorem releasingOnFailure_over {x : Action (Session τ) α} {y : Action (Session σ) α}
    (hx : x.Over (map φ) y) (pid : Pid) :
    (releasingOnFailure h₁ pid x).Over (map φ) (releasingOnFailure h₂ pid y) := by
  intro s
  have hs := hx s
  simp only [Action.Ends, releasingOnFailure] at *
  cases hr : x s <;> simp only [hr] at hs ⊢ <;> rw [hs]
  simp only [release_over h]

end Session

section

variable {σ τ : Type} {φ : τ → σ} {h₁ : Host τ} {h₂ : Host σ} (h : h₁.Over φ h₂) (c : Config)

open Session (map)

include h

theorem Session.spawned_over (command : Host.Command) (refused : OsError → Fault) :
    (spawned h₁ command refused).Over (map φ) (spawned h₂ command refused) := by
  refine .bind (ask_over h _) fun answer => ?_
  cases answer
  case ok    => exact .pure _
  case error => exact .fail _

theorem Host.Over.relates : Session.Relates (fun _ x y => x.Over (map φ) y) h₁ h₂ where
  pure          := .pure
  bind          := .bind
  throw _       := fun _ => rfl
  running hx hy := .get_bind fun _ => .ite hx hy
  clock _       := fun _ => rfl
  ask r _       := Session.ask_over h r
  note record   := fun s => congrArg (EStateM.Result.ok ()) (by simp only [map, h.log])
  heed          := Session.heed_over h
  lending command refused _ _ hf :=
    .bind (Session.spawned_over h command refused) fun pid => Session.releasing_over h (hf pid) pid

namespace Control

theorem launch_over : (Server.launch h₁ c).Over (map φ) (Server.launch h₂ c) := by
  rw [Server.launch_eq, Server.launch_eq]
  refine .bind (Server.clear_relates h.relates.toRelatesFaults c) fun _ => ?_
  exact .bind (Session.spawned_over h _ _) fun pid =>
    .bind (Session.releasingOnFailure_over h (Server.untilReady_relates h.relates c pid) pid)
      fun _ => .pure _

theorem start_over : (start h₁ c).Over (map φ) (start h₂ c) :=
  .get_bind fun _ => .ite (h.relates.note _) <|
    .bind (launch_over h c) fun _ => fun _ => rfl

theorem stop_over : (stop h₁ c).Over (map φ) (stop h₂ c) := by
  refine .get_bind fun ⟨_, held, _, _⟩ => ?_
  cases held
  case none => exact h.relates.note _
  case some server =>
    refine .bind (fun _ => rfl) fun _ => ?_
    exact Session.releasing_over h (stopServer_relates h.relates c server) server.pid

theorem obey_over : (order : Order) → (obey h₁ c order).Over (map φ) (obey h₂ c order)
  | .start   => start_over h c
  | .stop    => stop_over h c
  | .restart => .bind (stop_over h c) fun _ => start_over h c
  | .reset   => resetState_relates h.relates.toRelatesFaults c

theorem obeyAll_over (orders : List Order) :
    (obeyAll h₁ c orders).Over (map φ) (obeyAll h₂ c orders) := by
  induction orders
  case nil                => exact .pure _
  case cons order rest hi => exact .bind (obey_over h c order).regardless fun _ => hi

end Control

end

end EngineBench
