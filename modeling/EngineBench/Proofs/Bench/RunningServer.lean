import EngineBench.Bench.Life
import EngineBench.Proofs.Bench.Growth

namespace EngineBench

open Engine

namespace Bench

variable {σ : Type} {b : Bench σ} {v : View} {t : State (List Note × σ)}

theorem covers_safe (he : b.engine.Lawful) (mode : Mode) : b.Covers Note.Safe mode :=
  ⟨he.toSteady, fun _ => he, fun _ _ h => h⟩

theorem prepareBenchmark_ready (he : b.engine.Lawful) (mode : Mode)
    (h : v.Grows Note.Safe (b.view t)) :
    (b.noting.prepareBenchmark mode).Ends t
      (fun _ t' => v.Ready Note.Safe mode (b.view t'))
      (fun _ t' => v.Grows Note.Safe (b.view t')) := by
  cases mode
  case load => exact .pure ⟨h, nofun⟩
  case query =>
    refine isRunning_ends.bind fun r t' ⟨ht, hr⟩ => ?_
    subst ht
    split
    case isTrue hr' =>
      have hn : (b.view t').running = false := by simpa [hr] using hr'
      exact (onEngine_ends (he.toSteady.start_up (fun _ => hn) h)).imp (fun _ _ h => h.ready)
        (fun _ _ h => h)
    case isFalse hr' =>
      exact .pure ⟨h, fun _ => by simpa [hr] using hr'⟩

section

variable (he : b.engine.Lawful)

include he

theorem runBenchmark_grows (m : Benchmark) (h : v.Grows Note.Safe (b.view t)) :
    (b.noting.runBenchmark m).Ends t
      (fun _ t' => v.Grows Note.Safe (b.view t')) (fun _ t' => v.Grows Note.Safe (b.view t')) := by
  refine ((Quiet.logged he.toSteady _).grows h).bind fun _ t h => ?_
  refine (prepareBenchmark_ready he m.mode h).bind fun _ t h => ?_
  refine (runScales_ready (covers_safe he m.mode) ?_ h).imp (fun _ _ h => h.grows) (fun _ _ h => h)
  exact fun _ _ _ => rfl

theorem runAll_grows (ms : List Benchmark) (h : v.Grows Note.Safe (b.view t)) :
    (b.noting.runAll ms).Ends t
      (fun _ t' => v.Grows Note.Safe (b.view t')) (fun _ t' => v.Grows Note.Safe (b.view t')) := by
  induction ms generalizing t
  case nil => exact .pure h
  case cons m rest hi =>
    exact (runBenchmark_grows he m h).bind fun _ _ h => (hi h).bind fun _ _ h => .pure h

-- A run that fails may leave the server running or not, which the next run finds out.
theorem serve_grows (errands : List Errand) (h : v.Grows Note.Safe (b.view t)) :
    (b.noting.serve errands).Ends t
      (fun _ t' => v.Grows Note.Safe (b.view t')) (fun _ t' => v.Grows Note.Safe (b.view t')) := by
  induction errands generalizing t
  case nil => exact .pure h
  case cons errand rest hi =>
    have hp : v.Grows Note.Safe (b.view ((b.noting.perform errand).after t)) := by
      cases errand
      case one m  => exact (runBenchmark_grows he m h).after
      case all ms => exact (runAll_grows he ms h).after
    exact .bind (.regardless hp) fun _ _ h => hi h

theorem finish_grows (graceful : Bool) (h : v.Grows Note.Safe (b.view t)) :
    (b.noting.finish graceful).Ends t
      (fun _ t' => v.Grows Note.Safe (b.view t')) (fun _ t' => v.Grows Note.Safe (b.view t')) := by
  refine isRunning_ends.bind fun r t' ⟨ht, hr⟩ => ?_
  subst ht
  refine .bind (Q := fun _ t' => v.Grows Note.Safe (b.view t')) ?stopped fun stopped t h => ?_
  case stopped =>
    refine .attempt_same ?_
    split
    case isFalse => exact .pure h
    case isTrue hg =>
      have hu : v.Up Note.Safe (b.view t') := ⟨h, hr ▸ (Bool.and_eq_true _ _ ▸ hg).right⟩
      exact (onEngine_ends (he.stop_grows (fun _ h => h) hu)).imp (fun _ _ h => h.left)
        (fun _ _ h => h)
  exact ((Quiet.report he.toSteady _).grows h).bind fun _ _ h => (Quiet.grows (.ofExcept _) h)

end

theorem live_calls_safe (he : b.engine.Lawful) (errands : List Errand) (finish : Option Bool)
    (s : State σ) : ∀ n ∈ b.calls (·.live errands finish) s, n.Safe := by
  have h : (b.view (s.noted [])).Grows Note.Safe
      (b.view ((b.noting.live errands finish).after (s.noted []))) := by
    refine ((serve_grows he errands .refl).bind fun _ t h => ?_).after
    cases finish
    case none          => exact .pure h
    case some graceful => exact .regardless (finish_grows he graceful h).after
  have ⟨more, hm, hs⟩ := h
  intro n hn
  exact hs n (List.nil_append more ▸ hm ▸ hn)

end Bench

end EngineBench
