import EngineBench.Bench.Hearing
import EngineBench.Bench.Script
import EngineBench.Proofs.Bench.Coupling
import EngineBench.Proofs.Bench.FailFast
import EngineBench.Proofs.Shutdown.Moves

namespace EngineBench

open Engine
open Engine.Exchange (Kind)

namespace Shutdown

namespace Board

theorem tells_check_iff {b : Board} {l : Nat} {x : Listener} :
    (b.check l).1.Tells x ↔ b.Tells x := by
  have hs : (b.check l).1.sent = b.sent := (sent_move b (.check l)).trans (if_neg nofun)
  have hh : (b.check l).1.handles = b.handles := handles_move b (.check l)
  simp only [Tells, hasHandle, hs, hh]

theorem tells_look_iff {b : Board} {x : Listener} : b.Tells (b.look x) ↔ b.Tells x := by
  rw [← look_triggered_iff (x := x)]
  obtain ⟨ht, hx⟩ | ⟨ht, hp, p, -, hx⟩ | ⟨ht, hp, hx⟩ := look_cases b x <;> rw [hx]
  case inl     => simp [Tells, ht]
  case inr.inl => simp [Tells]
  case inr.inr => simp [Tells, Nat.not_lt.mpr hp]

-- A second look finds what the first one found.
theorem check_check (b : Board) (l : Nat) : ((b.check l).1.check l).2 = (b.check l).2 := by
  rw [Bool.eq_iff_iff, check_iff, check_iff, listener?_check, if_pos rfl]
  cases b.listener? l
  case none   => simp
  case some x => simp [tells_check_iff, tells_look_iff]

end Board

namespace Ear

theorem told_look (ear : Ear) : ear.look.told = ear.told :=
  ear.board.check_check ear.listener

theorem Leads.refl (ear : Ear) : ear.Leads ear :=
  ⟨rfl, [], .refl, List.not_mem_nil⟩

theorem Leads.told {ear ear' : Ear} (h : ear.Leads ear') (ht : ear.told = true) :
    ear'.told = true := by
  obtain ⟨hl, ms, hr, hd⟩ := h
  simp only [Ear.told, hl] at *
  exact hr.check_stays hd ht

end Ear

end Shutdown

namespace Engine

open Shutdown (Ear)

variable {σ α : Type} {e : Engine σ} {ear : σ → Option Ear} {s s' : σ}

theorem heard_of_rel (h : Option.Rel Ear.Leads (ear s) (ear s')) (hs : heard ear s = true) :
    heard ear s' = true := by
  simp only [heard] at *
  generalize ear s = o at *
  generalize ear s' = o' at *
  cases h
  case none   => cases hs
  case some h => exact h.told hs

theorem heard_look (hl : e.Listens ear) (s : σ) : heard ear (e.shutdownSeen s).2 = heard ear s := by
  simp only [heard, hl.looked]
  cases ear s
  case none   => rfl
  case some x => exact x.told_look

-- From a state on, moments were recorded that the signal explains. What is not recorded does not
-- make an engine forget it either.
inductive Course (ear : σ → Option Ear) (s : σ) : List (Moment σ) → σ → Prop
  | refl : Course ear s [] s
  | calm {moments s₁ s₂} : Course ear s moments s₁ →
    (heard ear s₁ = true → heard ear s₂ = true) → Course ear s moments s₂
  | moment {moments} {m : Moment σ} : Course ear s moments m.before →
    (heard ear m.before = true → heard ear m.after = true) →
    (∀ seen, m.exchange = .shutdownSeen seen → seen = heard ear m.before) →
    (m.exchange.kind = .run → heard ear m.before = false) →
    Course ear s (moments ++ [m]) m.after

namespace Course

variable {moments : List (Moment σ)} {m : Moment σ}

theorem late {before late : List (Moment σ)} (h : Course ear s (before ++ m :: late) s') :
    Course ear m.after late s' := by
  generalize hm : before ++ m :: late = moments at h
  induction h generalizing late
  case refl => cases before <;> cases hm
  case calm s₁ s₂ _ hs hi => exact .calm (hi hm) hs
  case moment moments m' h hs hl hc hi =>
    obtain rfl | ⟨late, m'', rfl⟩ := List.eq_nil_or_concat late
    case inl =>
      have ⟨_, hm⟩ := List.append_inj' hm rfl
      cases hm
      exact .refl
    case inr =>
      rw [List.concat_eq_append, ← List.cons_append, ← List.append_assoc] at hm
      have ⟨hms, hm'⟩ := List.append_inj' hm rfl
      cases hm'
      rw [List.concat_eq_append]
      exact .moment (hi hms) hs hl hc

-- After the signal nothing is asked for but what a run needs to come to its next look, which finds
-- the signal.
theorem heard_all (h : Course ear s moments s') (hs : heard ear s = true) :
    heard ear s' = true ∧ ∀ m ∈ moments, heard ear m.before = true ∧ m.exchange.kind ≠ .run ∧
      m.exchange ≠ .shutdownSeen false := by
  induction h
  case refl => exact ⟨hs, List.forall_mem_nil _⟩
  case calm h hi => exact ⟨h hi.left, hi.right⟩
  case moment m h hl hc hi =>
    have hb := hi.left
    refine ⟨h hb, fun m' hm => ?_⟩
    cases List.mem_append.mp hm
    case inl hm => exact hi.right m' hm
    case inr hm =>
      rw [List.mem_singleton.mp hm]
      refine ⟨hb, fun hr => ?client, fun hx => ?look⟩
      case client => exact Bool.noConfusion (hb.symm.trans (hc hr))
      case look => exact Bool.noConfusion ((hl false hx).trans hb)

theorem not_heard (h : Course ear s moments s') (hm : m ∈ moments) (hr : m.exchange.kind = .run) :
    heard ear m.before = false := by
  induction h
  case refl => cases hm
  case calm hi => exact hi hm
  case moment hc hi =>
    cases List.mem_append.mp hm
    case inl hm => exact hi hm
    case inr hm =>
      cases List.mem_singleton.mp hm
      exact hc hr

end Course

theorem recorded_course {exchange : Except Abort α → Exchange} {x : Action σ α}
    {w : List (Moment σ) × σ} (hx : Option.Rel Ear.Leads (ear w.2) (ear (x.after w.2)))
    (hl : ∀ a, (exchange a).kind ≠ .look)
    (hr : ∀ a, (exchange a).kind = .run → heard ear w.2 = false) (h : Course ear s w.1 w.2) :
    Course ear s ((recorded exchange x).after w).1 ((recorded exchange x).after w).2 := by
  have hm (a : Except Abort α) :
      Course ear s (w.1 ++ [⟨exchange a, w.2, x.after w.2⟩]) (x.after w.2) :=
    .moment (m := ⟨exchange a, w.2, x.after w.2⟩) h (heard_of_rel hx)
      (fun seen hs => absurd (congrArg Exchange.kind hs) (hl a)) (hr a)
  simp only [Action.after, recorded] at *
  cases hx : x w.2 <;> simp only [hx] at hm
  case ok a s    => exact hm (.ok a)
  case error f s => exact hm (.error f)

end Engine

namespace Bench

open Shutdown (Ear)

variable {σ α : Type} {b : Bench σ} {ear : σ → Option Ear} {s : σ}

-- Something is done of which the record is a course.
def Heeds (ear : σ → Option Ear) (s : σ) (x : Action (State (List (Moment σ) × σ)) α) : Prop :=
  x.Preserves fun t => Course ear s t.world.1 t.world.2

namespace Heeds

theorem onEngine {exchange : Except Abort α → Exchange} {x : Action σ α}
    (hx : ∀ s, Option.Rel Ear.Leads (ear s) (ear (x.after s)))
    (hl : ∀ a, (exchange a).kind ≠ .look) (hr : ∀ a, (exchange a).kind ≠ .run) :
    Heeds ear s (onEngine (recorded exchange x)) := by
  intro t h
  rw [onEngine_after]
  exact recorded_course (hx _) hl (fun a he => absurd he (hr a)) h

section

variable (hl : b.engine.Listens ear)

include hl

-- A look that finds nothing leaves an engine that was not told.
theorem checkShutdown_heeds {t : State (List (Moment σ) × σ)}
    (h : Course ear s t.world.1 t.world.2) :
    b.recording.checkShutdown.Ends t
      (fun _ t' => Course ear s t'.world.1 t'.world.2 ∧ heard ear t'.world.2 = false)
      (fun _ t' => Course ear s t'.world.1 t'.world.2) := by
  let seen := (b.engine.shutdownSeen t.world.2).1
  let s₁ := (b.engine.shutdownSeen t.world.2).2
  have hm : Course ear s (t.world.1 ++ [⟨.shutdownSeen seen, t.world.2, s₁⟩]) s₁ :=
    .moment (m := ⟨.shutdownSeen seen, t.world.2, s₁⟩) h
      (fun hs => (heard_look hl t.world.2).trans hs)
      (fun seen hs => by cases hs; exact hl.seen t.world.2) nofun
  exact checkShutdown_ends_of
    (Q := fun w : List (Moment σ) × σ => Course ear s w.1 w.2 ∧ heard ear w.2 = false)
    (E := fun _ w => Course ear s w.1 w.2)
    (fun hs => ⟨hm, (heard_look hl t.world.2).trans ((hl.seen t.world.2).symm.trans hs)⟩)
    fun _ => hm

theorem runTimed_heeds (scale : Scale) {t : State (List (Moment σ) × σ)}
    (h : Course ear s t.world.1 t.world.2) (hh : heard ear t.world.2 = false) :
    Course ear s ((b.recording.runTimed scale).after t).world.1
      ((b.recording.runTimed scale).after t).world.2 := by
  have hr : Course ear s ((b.recording.engine.runClient scale).after t.world).1
      ((b.recording.engine.runClient scale).after t.world).2 :=
    recorded_course (hl.runClient scale _) nofun (fun _ _ => hh) h
  refine runTimed_preserves (I := fun w : List (Moment σ) × σ => Course ear s w.1 w.2) ?_ hr
  exact fun w hw => .calm hw fun hs => (congrArg (·.any Ear.told) (hl.elapsed w.2)).trans hs

-- A client is run where a look found nothing.
theorem client (scale : Scale) :
    Heeds ear s (b.recording.checkShutdown >>= fun _ => b.recording.runTimed scale) := by
  intro t h
  refine ((checkShutdown_heeds hl h).bind fun _ t₁ h₁ => ?_).after
  exact .of_after (I := fun t : State (List (Moment σ) × σ) => Course ear s t.world.1 t.world.2)
    (runTimed_heeds hl scale h₁.left h₁.right)

theorem relates : Relates (fun _ x (_ : Action (State (List (Moment σ) × σ)) _) => Heeds ear s x)
    b.recording b.recording where
  report _        := fun _ h => .calm h fun hs =>
    (congrArg (·.any Ear.told) ((hl.print _ _).trans (hl.log _ _))).trans hs
  toRelatesScales := .of_clients {
    pure       := .pure
    bind       := .bind
    logged _   := fun _ h => .calm h fun hs => (congrArg (·.any Ear.told) (hl.log _ _)).trans hs
    isRunning  := fun _ h => h
    resetState := onEngine hl.resetState (fun _ => Kind.noConfusion) fun _ => Kind.noConfusion
    start      := onEngine hl.start (fun _ => Kind.noConfusion) fun _ => Kind.noConfusion
    stop       := onEngine hl.stop (fun _ => Kind.noConfusion) fun _ => Kind.noConfusion
  } rfl (client hl)

theorem perform (errand : Errand) : Heeds ear s (b.recording.perform errand) :=
  (relates hl).perform fun _ _ => .inl fun _ p => .ofBreach (.error p)

theorem serve (errands : List Errand) : Heeds ear s (b.recording.serve errands) := by
  induction errands
  case nil                 => exact .pure ()
  case cons errand rest hi => exact .bind (fun t h => perform hl errand t h) fun _ => hi

end

end Heeds

theorem course_moments {act : Bench (List (Moment σ) × σ) → Action (State (List (Moment σ) × σ)) α}
    {x : Action (State σ) α} (ho : (act b.recording).Over (State.map Prod.snd) x)
    (hh : ∀ s, Heeds ear s (act b.recording)) (s : State σ) :
    Course ear s.world (b.moments act s) (x.after s).world := by
  have h := hh s.world (s.recorded []) .refl
  have hw : (x.after s).world = ((act b.recording).after (s.recorded [])).world.2 :=
    congrArg State.world (ho.after (t := s.recorded []))
  rw [hw]
  exact h

theorem course_perform (hl : b.engine.Listens ear) (errand : Errand) (s : State σ) :
    Course ear s.world (b.moments (·.perform errand) s) ((b.perform errand).after s).world :=
  course_moments (perform_over (recording_over b) errand) (fun _ => Heeds.perform hl errand) s

theorem course_serve (hl : b.engine.Listens ear) (errands : List Errand) (s : State σ) :
    Course ear s.world (b.moments (·.serve errands) s) ((b.serve errands).after s).world :=
  course_moments (serve_over (recording_over b) errands) (fun _ => Heeds.serve hl errands) s

end Bench

namespace Script

open Shutdown (Ear)

def ear (s : Script) : Option Ear :=
  s.listener.map fun listener => ⟨s.board, listener⟩

theorem leads_refl (o : Option Ear) : Option.Rel Ear.Leads o o := by
  cases o
  case none     => exact .none
  case some ear => exact .some (.refl ear)

theorem answer_ear (call : Bool → Call) (line : Option Fault) (running : Bool) (s : Script) :
    ((answer call line running).after s).ear = s.ear := by
  cases line <;> rfl

theorem taken_leads (scale : Scale) (s : Script) :
    Option.Rel Ear.Leads s.ear (s.taken scale).ear := by
  simp only [taken]
  split
  case isFalse => exact leads_refl s.ear
  case isTrue =>
    simp only [ear, signal, note]
    cases s.listener
    case none          => exact .none
    case some listener =>
      exact .some ⟨rfl, [.signal], Shutdown.Board.Reaches.refl.move (m := .signal) trivial, by simp⟩

-- A scripted engine listens to its board, on which only its own clients signal.
theorem engine_listens : engine.Listens ear where
  seen s := by
    simp only [engine, shutdownSeen, heard, ear]
    cases s.listener <;> rfl
  looked s := by
    simp only [engine, shutdownSeen, ear]
    cases h : s.listener <;> simp [h, Ear.look]
  resetState s := answer_ear .reset _ _ { s with resets := s.resets.tail } ▸ leads_refl s.ear
  start s := answer_ear .start _ _ { s with starts := s.starts.tail } ▸ leads_refl s.ear
  stop s := answer_ear .stop _ _ { s with stops := s.stops.tail } ▸ leads_refl s.ear
  runClient scale s := runClient_after scale s ▸ taken_leads scale s
  elapsed _ := rfl
  log _ _ := rfl
  print _ _ := rfl

end Script

end EngineBench
