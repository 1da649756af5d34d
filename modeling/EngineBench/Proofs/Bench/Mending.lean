import EngineBench.Bench.Script
import EngineBench.Proofs.Bench.Coupling
import EngineBench.Proofs.Bench.FailFast

namespace EngineBench

open Engine

namespace Script

variable {s t : Script} {lines lines' : List (Option Fault)} {takes takes' : List Take}

-- Whatever the first script called for, the second one did as well, and perhaps more.
def Led (s t : Script) : Prop :=
  s.asked <+: t.asked

theorem MendedLines.head (h : MendedLines lines lines') :
    lines'.head?.join = lines.head?.join ∨ lines'.head?.join = none := by
  simpa only [List.head?_eq_getElem?] using h 0

theorem MendedLines.tail (h : MendedLines lines lines') : MendedLines lines.tail lines'.tail := by
  intro n
  simpa only [List.getElem?_tail] using h (n + 1)

theorem MendedTakes.head (h : MendedTakes takes takes') :
    takes'.head?.getD .success = takes.head?.getD .success ∨
      (takes.head?.getD .success).fault.isSome ∧ (takes'.head?.getD .success).fault = none := by
  simpa only [List.head?_eq_getElem?] using h 0

theorem MendedTakes.tail (h : MendedTakes takes takes') : MendedTakes takes.tail takes'.tail := by
  intro n
  simpa only [List.getElem?_tail] using h (n + 1)

namespace Mended

theorem calls_eq (h : s.Mended t) : t.calls = s.calls := by
  cases h
  rfl

theorem note (h : s.Mended t) (c : Call) : (s.note c).Mended (t.note c) := by
  cases h
  case intro hr hs hp ht => exact .intro hr hs hp ht

theorem signal (h : s.Mended t) : s.signal.Mended t.signal := by
  cases h
  case intro hr hs hp ht => exact .intro hr hs hp ht

end Mended

theorem Led.of_eq (h : s.asked = t.asked) : s.Led t :=
  ⟨[], (List.append_nil s.asked).trans h⟩

theorem Led.concat (h : s.Led t) (c : Call) {t' : Script} (ht : t'.calls = t.calls ++ [c]) :
    s.Led t' := by
  simp only [Led, asked, ht, List.map_append] at *
  exact h.trans (List.prefix_append _ _)

section

variable {call : Bool → Call} {line line' : Option Fault} {running : Bool}

theorem answer_calls (call : Bool → Call) (line : Option Fault) (running : Bool) (s : Script) :
    ((answer call line running).after s).calls = s.calls ++ [call line.isNone] := by
  cases line <;> rfl

-- A call that succeeds under the mended script and fails under the other ends the other run.
theorem answer_coupled (hc : (call false).asked = (call true).asked) (h : s.Mended t)
    (hl : line' = line ∨ line' = none) :
    (answer call line running).Ends s
      (fun a s' => ∃ t', answer call line' running t = .ok a t' ∧ s'.Mended t')
      (fun e s' => (∃ t', answer call line' running t = .error e t' ∧ s'.Mended t') ∨
        s'.Led ((answer call line' running).after t)) := by
  cases line
  case none =>
    rw [show line' = none from or_self_iff.mp hl]
    refine ⟨_, rfl, ?_⟩
    cases h
    case intro hr hs hp ht => exact .intro hr hs hp ht
  case some f =>
    obtain hl | hl := hl <;> rw [hl]
    case inl => exact .inl ⟨_, rfl, h.note (call false)⟩
    case inr =>
      have ha : (s.note (call false)).asked = ((answer call none running).after t).asked := by
        simp [asked, answer_calls, note, h.calls_eq, hc]
      exact .inr (.of_eq ha)

end

theorem resetState_coupled : resetState.Coupled Mended Led resetState where
  parts s t h := h.concat _ (answer_calls .reset t.resets.head?.join t.running _)
  ends s t h := by
    cases h
    case intro hr hs hp ht => exact answer_coupled rfl (.intro hr.tail hs hp ht) hr.head

theorem start_coupled : start.Coupled Mended Led start where
  parts s t h := h.concat _ (answer_calls .start t.starts.head?.join true _)
  ends s t h := by
    cases h
    case intro hr hs hp ht => exact answer_coupled rfl (.intro hr hs.tail hp ht) hs.head

theorem stop_coupled : stop.Coupled Mended Led stop where
  parts s t h := h.concat _ (answer_calls .stop t.stops.head?.join false _)
  ends s t h := by
    cases h
    case intro hr hs hp ht => exact answer_coupled rfl (.intro hr hs hp.tail ht) hp.head

theorem Mended.taken (h : s.Mended t) (ht : t.take = s.take) (scale : Scale) :
    (s.taken scale).Mended (t.taken scale) := by
  have hm : { s.note (.run scale) with takes := s.takes.tail }.Mended
      { t.note (.run scale) with takes := t.takes.tail } := by
    cases h
    case intro hr hs hp htakes => exact .intro hr hs hp htakes.tail
  simp only [Script.taken, ht]
  split
  case isTrue  => exact hm.signal
  case isFalse => exact hm

theorem runClient_coupled (scale : Scale) :
    (runClient scale).Coupled Mended Led (runClient scale) where
  parts s t h := h.concat (.run scale) (runClient_after scale t ▸ taken_calls t scale)
  ends s t h := by
    have hl : t.take = s.take ∨ s.take.fault.isSome ∧ t.take.fault = none := by
      cases h
      case intro ht => exact ht.head
    simp only [Action.Ends]
    cases hf : s.take.fault
    case none =>
      have ht : t.take = s.take := hl.resolve_right (by simp [hf])
      rw [runClient_ok hf]
      exact ⟨_, ht ▸ runClient_ok (ht ▸ hf), h.taken ht scale⟩
    case some f =>
      rw [runClient_error hf]
      obtain ht | ⟨-, ht⟩ := hl
      case inl => exact .inl ⟨_, runClient_error (ht ▸ hf), h.taken ht scale⟩
      case inr =>
        refine .inr (.of_eq ?_)
        simp only [asked, runClient_after, taken_calls, h.calls_eq]

theorem shutdownSeen_calls (s : Script) : (shutdownSeen s).2.calls = s.calls := by
  simp only [shutdownSeen]
  split <;> rfl

theorem Mended.shutdownSeen_eq (h : s.Mended t) : (shutdownSeen s).1 = (shutdownSeen t).1 := by
  cases h
  simp only [shutdownSeen]
  split <;> rfl

theorem Mended.shutdownSeen (h : s.Mended t) :
    (Script.shutdownSeen s).2.Mended (Script.shutdownSeen t).2 := by
  cases h
  case intro hr hs hp ht =>
    simp only [Script.shutdownSeen]
    split <;> exact .intro hr hs hp ht

theorem engine_coupled : engine.Coupled Mended Led engine where
  clock h      := h
  elapsed h    := h
  shutdownSeen h := by
    simp only [Led, asked, engine, shutdownSeen_calls] at *
    exact h
  log h _      := h
  print h _    := h
  isRunning_eq h := by
    cases h
    rfl
  resetState   := resetState_coupled
  start        := start_coupled
  stop         := stop_coupled
  runClient    := runClient_coupled
  elapsed_eq h := by
    cases h
    rfl
  elapsed_match h := by
    cases h
    case intro hr hs hp ht => exact .intro hr hs hp ht
  shutdownSeen_eq h := h.shutdownSeen_eq
  shutdownSeen_match h := h.shutdownSeen
  log_match h _ := by
    cases h
    case intro hr hs hp ht => exact .intro hr hs hp ht
  print_match h _ := by
    cases h
    case intro hr hs hp ht => exact .intro hr hs hp ht

end Script

namespace Bench

variable {σ : Type} {errand : Errand}

theorem perform_failure (b : Bench σ)
    (hf : ∀ scale ∈ errand.scales, scale.iterations ≤ maxCount) (s : State σ) :
    ((∃ e s', b.perform errand s = .error e s') ↔
      ∃ m ∈ b.moments (·.perform errand) s, m.exchange.failure?.isSome) ∧
    ((∀ m ∈ b.moments (·.perform errand) s, m.exchange.failure? = none) →
      ∃ outcomes s', b.perform errand s = .ok outcomes s') := by
  have h := perform_bears b hf s
  cases hp : b.perform errand s
  case ok outcomes s' =>
    have hn : ¬∃ m ∈ b.moments (·.perform errand) s, m.exchange.failure?.isSome := by
      intro hm
      obtain ⟨m, hm, he⟩ := hm
      rw [h.of_ok hp m hm] at he
      cases he
    refine ⟨⟨fun he => ?_, fun hm => absurd hm hn⟩, fun _ => ⟨outcomes, s', rfl⟩⟩
    obtain ⟨e, s', he⟩ := he
    cases he
  case error e s' =>
    have hw := h.of_error hp
    obtain ⟨fine, m, hm, -, he⟩ := hw
    have hmem : m ∈ b.moments (·.perform errand) s :=
      hm ▸ List.mem_append_right fine (List.mem_singleton_self m)
    refine ⟨⟨fun _ => ⟨m, hmem, ?last⟩, fun _ => ⟨e, s', rfl⟩⟩, fun hf => absurd hf ?fine⟩
    case last => rw [he]; rfl
    case fine => exact (h.of_error hp).not_fine

theorem perform_asked (b : Bench Script) (hb : b.engine = Script.engine) {s t : State Script}
    (hm : State.Matches Script.Mended s t) :
    ((b.perform errand).after s).world.asked <+: ((b.perform errand).after t).world.asked := by
  have he : b.engine.Coupled Script.Mended Script.Led b.engine := hb ▸ Script.engine_coupled
  have hc : (b.perform errand).Coupled _ _ (b.perform errand) :=
    (relates_coupled he rfl).perform fun scale _ => coupled_fits scale
  cases hc.after hm
  case inl h => exact Script.Led.of_eq (congrArg (List.map Call.asked) h.world.calls_eq.symm)
  case inr h => exact h

-- A run ends with the first call that fails or the first look that sees the signal, and with what
-- that failed with; clients that do not succeed are no failures. Had the call not failed, the same
-- would have been called for up to there.
theorem first_failure_ends_run (hf : ∀ scale ∈ errand.scales, scale.iterations ≤ maxCount) :
    (∀ {σ : Type} (b : Bench σ) (s : State σ),
      let moments := b.moments (·.perform errand) s
      ((∃ e s', b.perform errand s = .error e s') ↔
        ∃ m ∈ moments, m.exchange.failure?.isSome) ∧
      (∀ e s', b.perform errand s = .error e s' →
        ∃ (fine : List (Moment σ)) (m : Moment σ), moments = fine ++ [m] ∧
        (∀ m ∈ fine, m.exchange.failure? = none) ∧ m.exchange.failure? = some e) ∧
      ((∀ m ∈ moments, m.exchange.failure? = none) →
        ∃ outcomes s', b.perform errand s = .ok outcomes s')) ∧
    ∀ (policy : FailurePolicy) (script script' : Script) (reporter : Reporter)
      (reactions : List (List Reaction)), script.Mended script' →
      let run (script : Script) : State Script :=
        ((⟨Script.engine, policy⟩ : Bench Script).perform errand).after
          ⟨script, reporter, reactions⟩
      (run script).world.asked <+: (run script').world.asked := by
  refine ⟨fun b s => ?own, fun policy script script' reporter reactions hm => ?mended⟩
  case own =>
    have h := perform_failure b hf s
    exact ⟨h.left, fun e s' he => (perform_bears b hf s).of_error he, h.right⟩
  case mended =>
    have hs : State.Matches Script.Mended (⟨script, reporter, reactions⟩ : State Script)
        ⟨script', reporter, reactions⟩ := ⟨hm, rfl, rfl⟩
    exact perform_asked ⟨Script.engine, policy⟩ rfl hs

-- The second start fails, and with a script that mends it the run goes on from there.
theorem first_failure_ends_run_tiers :
    let b : Bench Script := ⟨Script.engine, .exclude⟩
    let script : Script := { Script.blank true with
      starts := [none, some .malformedCatalog]
      takes  := [⟨⟨none, 7, false⟩, none, false⟩] }
    let s (script : Script) : State Script := ⟨script, [], []⟩
    let run (script : Script) : State Script :=
      ((⟨Script.engine, .exclude⟩ : Bench Script).perform (.one (.tiers .load))).after
        ⟨script, [], []⟩
    (∃ (fine : List (Moment Script)) (m : Moment Script),
      b.moments (·.perform (.one (.tiers .load))) (s script) = fine ++ [m] ∧
      m.exchange.failure? = some (.fault .malformedCatalog)) ∧
    (run script).world.asked <+: (run { script with starts := [] }).world.asked := by
  intro b script s run
  have hf : ∀ scale ∈ (Errand.one (.tiers .load)).scales, scale.iterations ≤ maxCount := by
    decide +kernel
  have ⟨h, hp⟩ := first_failure_ends_run hf
  have ⟨s', he⟩ : ∃ s', b.perform (.one (.tiers .load)) (s script) =
      .error (.fault .malformedCatalog) s' := Action.exists_error (by decide +kernel)
  have ⟨fine, m, hm, _, hl⟩ := (h b (s script)).right.left _ _ he
  have hs : script.Mended { script with starts := [] } :=
    .intro (fun _ => .inl rfl) (fun _ => .inr rfl) (fun _ => .inl rfl) (fun _ => .inl rfl)
  have hc := hp .exclude script { script with starts := [] } [] [] hs
  exact ⟨⟨fine, m, hm, hl⟩, hc⟩

end Bench

end EngineBench
