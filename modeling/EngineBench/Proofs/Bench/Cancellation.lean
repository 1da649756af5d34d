import EngineBench.Proofs.Bench.Hearing
import EngineBench.Proofs.Bench.Standing
import EngineBench.Proofs.Shutdown.Signals

namespace EngineBench

open Engine
open Engine.Exchange (Kind)
open Shutdown (Ear Board Listening Signalled Abandoned)

namespace Bench

variable {σ : Type} {b : Bench σ} {ear : σ → Option Ear} {errand : Errand} {s : State σ}
  {before current late : List (Moment σ)} {left : Agenda}

-- Nothing failed that was asked for.
def Answered (moments : List (Moment σ)) : Prop :=
  ∀ m ∈ moments, m.exchange.isCall → m.exchange.failure? = none

-- How a run closes that was told of the signal: what is asked for late, what the run comes to,
-- which depends on what was asked for at the signal or late and on what was left then, and what it
-- has reported in the end.
structure Closes (b : Bench σ) (errand : Errand) (s : State σ) (current late : List (Moment σ))
    (left : Agenda) : Prop where
  quiet    : .run ∉ Moment.kinds late
  once     : (Moment.kinds late).Nodup
  failed   : ∀ m ∈ current ++ late, m.exchange.isCall → ∀ e, m.exchange.failure? = some e →
    ∃ s', b.perform errand s = .error e s'
  through  : Answered (current ++ late) → left = [] →
    ∃ outcomes s', b.perform errand s = .ok outcomes s'
  cut      : Answered (current ++ late) → left ≠ [] →
    ∃ s', b.perform errand s = .error (.fault .shutdown) s'
  reported : ∃ reports, ((b.perform errand).after s).reporter = s.reporter.told reports ∧
    reports.map Report.scale? ++ left.scales.map some = errand.scales.map some

theorem results_quiet {moments : List (Moment σ)} (h : .run ∉ Moment.kinds moments) :
    Moment.results moments = [] := by
  refine List.filterMap_eq_nil_iff.mpr fun m hm => ?_
  have hr : m.exchange.kind ≠ .run := fun hr => h (hr ▸ List.mem_map_of_mem hm)
  cases hx : m.exchange
  case run => exact absurd (congrArg Exchange.kind hx) hr
  all_goals rfl

-- What is left when a run has ended.
def remaining (b : Bench σ) (errand : Errand) (s : State σ) : Agenda :=
  (Agenda.of errand.scales).after b.policy (Moment.results (b.moments (·.perform errand) s))

theorem perform_remaining (he : errand.Proper) (s : State σ) :
    (b.perform errand).Ends s (fun _ _ => b.remaining errand s = [])
      (fun _ _ => b.remaining errand s ≠ []) := by
  have h := (perform_over (recording_over b) errand).ends_after (perform_stands he s)
  refine h.imp (fun _ _ h => h.pace.left) fun _ _ h => ?_
  obtain ⟨left, hn, h⟩ := h
  exact fun hr => hn (h.pace.left.symm.trans hr)

theorem exists_stands (he : errand.Proper) (s : State σ) :
    ∃ ks, Stands b.policy (.of errand.scales) s.reporter ks (b.remaining errand s)
      ((b.recording.perform errand).after (s.recorded [])) := by
  refine Action.Ends.after (x := b.recording.perform errand)
    (I := fun t => ∃ ks, Stands b.policy (.of errand.scales) s.reporter ks
      ((Agenda.of errand.scales).after b.policy (Moment.results t.world.1)) t) ?_
  refine (perform_stands he s).imp (fun _ _ h => ⟨_, h.pace.left.symm ▸ h⟩) fun _ _ h => ?_
  obtain ⟨left, -, h⟩ := h
  exact ⟨_, h.pace.left.symm ▸ h⟩

-- But for calls there is nothing to fail but a look that sees the signal.
theorem failure?_of_not_call {x : Exchange} {e : Abort} (hc : ¬x.isCall)
    (hx : x.failure? = some e) : e = .fault .shutdown := by
  cases x
  case shutdownSeen seen => cases seen <;> cases hx; rfl
  case elapsed           => cases hx
  all_goals exact absurd rfl hc

-- A run whose last moments hold no client and no look that found nothing.
theorem closes (he : errand.Proper)
    (hm : b.moments (·.perform errand) s = before ++ current ++ late)
    (hb : current = [] → before = [])
    (hq : ∀ m ∈ late, m.exchange.kind ≠ .run ∧ m.exchange ≠ .shutdownSeen false) :
    b.Closes errand s current late
      ((Agenda.of errand.scales).after b.policy (Moment.results (before ++ current))) := by
  have hn : .run ∉ Moment.kinds late := by
    intro h
    obtain ⟨m, hm, hk⟩ := List.mem_map.mp h
    exact (hq m hm).left hk
  have hl : b.remaining errand s =
      (Agenda.of errand.scales).after b.policy (Moment.results (before ++ current)) := by
    rw [remaining, hm, Moment.results_append, results_quiet hn, List.append_nil]
  have hc : current ++ late = [] → before = [] := fun h => hb (List.append_eq_nil_iff.mp h).left
  have hf := perform_bears b he.counts s
  have hs := perform_remaining (b := b) he s
  obtain ⟨ks, ht⟩ := exists_stands (b := b) he s
  rw [← hl]
  refine ⟨hn, ?once, ?failed, ?through, ?cut, ?reported⟩
  case once =>
    have hd : (Moment.sinceLook (b.moments (·.perform errand) s)).Nodup := ht.pace.nodup
    rw [hm, Moment.sinceLook_append fun m h => (hq m h).right] at hd
    exact (List.nodup_append.mp hd).right.left
  case failed =>
    intro m hl _ e hx
    have hl : m ∈ b.moments (·.perform errand) s := by
      rw [hm, List.append_assoc]
      exact List.mem_append_right before hl
    cases hp : b.perform errand s
    case ok         => cases hx.symm.trans (hf.of_ok hp m hl)
    case error f s' => exact (hf.of_error hp).eq_of_mem hl hx ▸ ⟨s', rfl⟩
  case through =>
    intro ha hl
    cases hp : b.perform errand s
    case ok outcomes s' => exact ⟨outcomes, s', rfl⟩
    case error          => exact absurd hl (hs.of_error hp)
  case cut =>
    intro ha hl
    cases hp : b.perform errand s
    case ok => exact absurd (hs.of_ok hp) hl
    case error e s' =>
      have hw := hf.of_error hp
      rw [hm, List.append_assoc] at hw
      obtain ⟨m, hm, he⟩ := hw.exists_late hc
      have hx : ¬m.exchange.isCall := fun hx => by cases he.symm.trans (ha m hm hx)
      exact failure?_of_not_call hx he ▸ ⟨s', rfl⟩
  case reported =>
    have hr : ((b.perform errand).after s).reporter =
        ((b.recording.perform errand).after (s.recorded [])).reporter :=
      congrArg State.reporter ((perform_over (recording_over b) errand).after (t := s.recorded []))
    obtain ⟨reports, ht, ha⟩ := ht.reported
    exact ⟨reports, hr.trans ht, ha.trans (congrArg (List.map some) (Agenda.scales_of _))⟩

theorem closes_late (hl : b.engine.Listens ear) (he : errand.Proper) {m : Moment σ}
    (hm : b.moments (·.perform errand) s = before ++ m :: late) (hh : heard ear m.after = true) :
    b.Closes errand s [m] late
      ((Agenda.of errand.scales).after b.policy (Moment.results (before ++ [m]))) := by
  have hc : Course ear m.after late _ := (hm ▸ course_perform hl errand s).late
  refine closes he ?_ nofun fun m hm => ((hc.heard_all hh).right m hm).right
  rw [hm, List.append_assoc]
  rfl

theorem closes_all (hl : b.engine.Listens ear) (he : errand.Proper)
    (hh : heard ear s.world = true) :
    b.Closes errand s [] (b.moments (·.perform errand) s) (.of errand.scales) := by
  have hc := course_perform hl errand s
  have hm : b.moments (·.perform errand) s = [] ++ [] ++ b.moments (·.perform errand) s := rfl
  exact closes he hm (fun _ => rfl) fun m hm => ((hc.heard_all hh).right m hm).right

theorem quiet_of_heard {moments : List (Moment σ)} {w w' : σ} (hc : Course ear w moments w')
    (hh : heard ear w = true) : .run ∉ Moment.kinds moments ∧ heard ear w' = true := by
  obtain ⟨hw, hm⟩ := hc.heard_all hh
  refine ⟨fun hr => ?_, hw⟩
  obtain ⟨m, hm', hk⟩ := List.mem_map.mp hr
  exact (hm m hm').right.left hk

-- A listener is told once a signal was sent since it was made, or when nobody is left to send one.
-- An engine that looks as such a listener begins no client once it was told, in the run that is
-- under way or in a later one, and a run that was told closes with no more than a stop, a reset
-- and a start.
theorem signal_ends_runs (hl : b.engine.Listens ear) :
    (∀ (x : Ear) ms, Board.new.Reaches ms x.board → Listening x.listener ms →
      (x.told = true ↔ Signalled x.listener ms ∨ Abandoned ms)) ∧
    (∀ errands s,
      (∀ m ∈ b.moments (·.serve errands) s, m.exchange.kind = .run → heard ear m.before = false) ∧
      (heard ear s.world = true → .run ∉ Moment.kinds (b.moments (·.serve errands) s) ∧
        heard ear ((b.serve errands).after s).world = true) ∧
      ∀ before (m : Moment σ) late, b.moments (·.serve errands) s = before ++ m :: late →
        heard ear m.after = true →
        .run ∉ Moment.kinds late ∧ heard ear ((b.serve errands).after s).world = true) ∧
    ∀ (errand : Errand) s, errand.Proper →
      (heard ear s.world = true →
        b.Closes errand s [] (b.moments (·.perform errand) s) (.of errand.scales)) ∧
      ∀ before (m : Moment σ) late, b.moments (·.perform errand) s = before ++ m :: late →
        heard ear m.after = true →
        b.Closes errand s [m] late
          ((Agenda.of errand.scales).after b.policy (Moment.results (before ++ [m]))) := by
  refine ⟨fun x ms hr hx => hr.check_iff hx, fun errands s => ?heard, fun errand s he => ?closes⟩
  case heard =>
    have hc := course_serve hl errands s
    exact ⟨fun m hm hr => hc.not_heard hm hr, quiet_of_heard hc,
      fun before m late hm hh => quiet_of_heard (hm ▸ hc).late hh⟩
  case closes =>
    exact ⟨closes_all hl he, fun before m late hm hh => closes_late hl he hm hh⟩

theorem exists_split_of_any {α : Type} {xs : List α} {n : Nat} {p : α → Bool}
    (h : xs[n]?.any p = true) :
    ∃ before x late, xs = before ++ x :: late ∧ p x = true ∧ late = xs.drop (n + 1) := by
  obtain ⟨x, hx, hp⟩ := (Option.any_eq_true _ _).mp h
  obtain ⟨hn, rfl⟩ := List.getElem?_eq_some_iff.mp hx
  refine ⟨xs.take n, xs[n], xs.drop (n + 1), ?_, hp, rfl⟩
  rw [← List.drop_eq_getElem_cons hn, List.take_append_drop]

-- The signal comes with the last client of the first scale. The server is stopped, reset and
-- started for the second one, which is not run.
theorem signal_ends_runs_tiers :
    let b : Bench Script := ⟨Script.engine, .record⟩
    let errand : Errand := .one (.tiers .load)
    let s : State Script := ⟨{ Script.blank false with
      takes    := [.success, .success, ⟨⟨some 0, 0, false⟩, none, true⟩]
      board    := Board.new.newListener.1
      listener := some 0 }, [Collector.probe], []⟩
    ∃ before m late, b.moments (·.perform errand) s = before ++ m :: late ∧
      heard Script.ear m.after = true ∧ Moment.kinds late = [.stop, .reset, .start, .look] ∧
      b.Closes errand s [m] late
        ((Agenda.of errand.scales).after b.policy (Moment.results (before ++ [m]))) := by
  intro b errand s
  have he : errand.Proper := ⟨by decide, by decide +kernel⟩
  have ⟨_, _, h⟩ := signal_ends_runs (b := b) Script.engine_listens
  have hs : ((b.moments (·.perform errand) s)[11]?).any (heard Script.ear ·.after) = true := by
    decide +kernel
  have hk : Moment.kinds ((b.moments (·.perform errand) s).drop 12) =
      [.stop, .reset, .start, .look] := by decide +kernel
  obtain ⟨before, m, late, hm, hh, hl⟩ := exists_split_of_any hs
  exact ⟨before, m, late, hm, hh, hl ▸ hk, (h errand s he).right before m late hm hh⟩

end Bench

end EngineBench
