import EngineBench.Proofs.Bench.Policies
import EngineBench.Proofs.Bench.Reports
import EngineBench.Report.Fanout

namespace EngineBench

open Engine

namespace Reporting

variable {choices : List Choice}

theorem foldl_apply (choices : List Choice) (r : Reporting) :
    choices.foldl Choice.apply r = {
      custom := r.custom ++ choices.filterMap Choice.custom?
      lines  := r.lines || choices.any Choice.isLines
      table  := r.table || choices.any Choice.isTable } := by
  induction choices generalizing r
  case nil => simp
  case cons choice rest hi =>
    rw [List.foldl_cons, hi]
    cases choice <;> simp [List.filterMap_cons, Choice.apply, Choice.custom?, Choice.isLines,
      Choice.isTable, withCollector, enableLines, enableTable]

-- The order of the choices is that of the custom collectors only.
theorem chosen_reporter (choices : List Choice) :
    (chosen choices).reporter = choices.filterMap Choice.custom? ++
      (if choices.any Choice.isLines then [Collector.lines] else []) ++
      (if choices.any Choice.isTable then [Collector.table] else []) := by
  simp [chosen, foldl_apply, reporter, empty]

end Reporting

namespace Reporter

variable {reports : List Report} {r : Reporter} {c : Collector} {i : Nat}

theorem written_cons (a : Reaction) (reactions : List Reaction) :
    written (a :: reactions) = a.written ++ written reactions := by
  simp [written]

theorem printed_cons (a : Reaction) (reactions : List Reaction) :
    printed (a :: reactions) = a.printed ++ printed reactions := by
  simp [printed]

theorem logged_cons (a : Reaction) (reactions : List Reaction) :
    logged (a :: reactions) = a.log ++ logged reactions := by
  simp [logged]

theorem send_reactions (report : Report) (r : Reporter) :
    (r.send report).2 = r.map fun c => (c.take report).2 := by
  simp [send, List.unzip_snd]

theorem sendAll_told (reports : List Report) (r : Reporter) :
    (r.sendAll reports).1 = r.told reports := by
  induction reports generalizing r
  case nil => exact told_nil.symm
  case cons report rest hi =>
    have h := hi (r.send report).1
    rw [send_told, told_told] at h
    rwa [← send_told] at h

-- At each report every collector acts once, in its place.
theorem sendAll_reactions (reports : List Report) (r : Reporter) :
    (r.sendAll reports).2.length = reports.length ∧
      ∀ here ∈ (r.sendAll reports).2, here.length = r.length := by
  induction reports generalizing r
  case nil => simp [sendAll]
  case cons report rest hi =>
    have hl : (r.send report).1.length = r.length := by simp [send_told, told]
    obtain ⟨hr, hm⟩ := hi (r.send report).1
    refine ⟨congrArg Nat.succ hr, List.forall_mem_cons.mpr ⟨?_, hl ▸ hm⟩⟩
    simp [send_reactions]

-- A collector does in its place what it does by itself.
theorem part_eq_run (h : r[i]? = some c) : r.part i reports = c.run reports := by
  induction reports generalizing r c
  case nil => rfl
  case cons report rest hi =>
    have hr : (r.send report).1[i]? = some (c.take report).1 := by
      simp [send_told, told, h, Collector.take]
    have hf : (r.send report).2[i]? = some (c.take report).2 := by
      simp [send_reactions, h]
    have hp := hi hr
    simp only [part] at hp
    simp only [part, sendAll, List.filterMap_cons, hf, hp, Collector.run]

theorem part_alone : part 0 reports [c] = c.run reports :=
  part_eq_run rfl

end Reporter

namespace Collector

open Reporter (written printed logged written_cons printed_cons logged_cons)

variable {medium : Medium} {media : Nat → Medium} {reports past : List Report} {c : Collector}

-- A collector is given each report once, and knows the ones before it.
theorem run_getElem? (reports : List Report) (c : Collector) (k : Nat) :
    (c.run reports)[k]? = reports[k]?.map (c.react (c.past ++ reports.take k)) := by
  induction reports generalizing c k
  case nil => rfl
  case cons report rest hi =>
    cases k
    case zero   => simp [run, take]
    case succ k => simp [run, take, hi]

theorem writeLine_eq (medium : Medium) (line : String) :
    writeLine medium line =
      { written := medium.kept line, log := (medium.complaint? line).toList } := by
  cases medium <;> rfl

theorem buffer_eq_writer (medium : Medium) : buffer medium = writer fun _ => medium :=
  rfl

theorem writer_react (media : Nat → Medium) (past : List Report) (report : Report) :
    let medium := media (Report.lines past).length
    (writer media).react past report =
      { written := (report.line?.map medium.kept).getD ""
        log     := (report.line?.bind medium.complaint?).toList } := by
  cases h : report.line? <;> simp [writer, h, writeLine_eq]

-- The lines of a row of reports are written one after the other, each to the medium as it is then.
theorem run_writer (media : Nat → Medium) (reports past : List Report) :
    let lines := (Report.lines reports).zipIdx (Report.lines past).length
    let reactions := run reports ⟨past, (writer media).react⟩
    written reactions = String.join (lines.map fun p => (media p.2).kept p.1) ∧
      logged reactions = lines.filterMap (fun p => (media p.2).complaint? p.1) ∧
      printed reactions = "" ∧ ∀ a ∈ reactions, a.noted = [] := by
  induction reports generalizing past
  case nil => simp [Report.lines, run, written, logged, printed]
  case cons report rest hi =>
    have ⟨hw, hl, hp, hn⟩ := hi (past ++ [report])
    have hr : (Report.lines (past ++ [report])).length =
        (Report.lines past).length + (Report.lines [report]).length := by
      simp [Report.lines]
    have hs : Report.lines (report :: rest) = Report.lines [report] ++ Report.lines rest := by
      simp [Report.lines, ← List.filterMap_append]
    have ht : run (report :: rest) ⟨past, (writer media).react⟩ =
        (writer media).react past report :: run rest ⟨past ++ [report], (writer media).react⟩ :=
      rfl
    rw [hr] at hw hl
    simp only [ht, hs, List.zipIdx_append, List.map_append, String.join_append,
      List.filterMap_append, written_cons, logged_cons, printed_cons, writer_react, hw, hl, hp]
    cases h : report.line?
    case none      => simpa [Report.lines, h] using hn
    case some line =>
      have hc (f : String × Nat → Option Log.Record) (a : String × Nat) :
          [a].filterMap f = (f a).toList := by
        cases h : f a <;> simp [h]
      simpa [Report.lines, h, hc] using hn

-- The printed lines are those of the reports as well.
theorem run_lines (reports past : List Report) :
    let reactions := run reports ⟨past, lines.react⟩
    printed reactions = String.join ((Report.lines reports).map (· ++ "\n")) ∧
      logged reactions = [] := by
  induction reports generalizing past
  case nil => simp [Report.lines, run, logged, printed]
  case cons report rest hi =>
    have ⟨hp, hl⟩ := hi (past ++ [report])
    have hs : Report.lines (report :: rest) = Report.lines [report] ++ Report.lines rest := by
      simp [Report.lines, ← List.filterMap_append]
    have ht : run (report :: rest) ⟨past, lines.react⟩ =
        lines.react past report :: run rest ⟨past ++ [report], lines.react⟩ :=
      rfl
    simp only [ht, hs, printed_cons, logged_cons, hp, hl, List.map_append, String.join_append]
    cases h : report.line? <;> simp [Report.lines, lines, h]

end Collector

namespace Bench

variable {σ ρ α β : Type} {φ : σ → ρ} {e : Engine σ} {e₀ : Engine ρ}

-- Actions of a bench that lie over actions of its engine alone take nothing from the collectors.
def Aside (φ : σ → ρ) (x : Action (State σ) α) : Prop :=
  ∃ y : Action ρ α, x.Over (fun s => φ s.world) y

namespace Aside

variable {x : Action (State σ) α} {s t : State σ}

theorem pure (a : α) : Aside φ (Pure.pure a) :=
  ⟨Pure.pure a, .pure a⟩

theorem throw (f : Abort) : Aside φ (throw f : Action (State σ) α) :=
  ⟨MonadExcept.throw f, fun _ => rfl⟩

theorem bind {f : α → Action (State σ) β} (hx : Aside φ x) (hf : ∀ a, Aside φ (f a)) :
    Aside φ (x >>= f) := by
  have ⟨y, hy⟩ := hx
  have ⟨g, hg⟩ := Classical.axiomOfChoice hf
  exact ⟨y >>= g, hy.bind hg⟩

theorem attempt (hx : Aside φ x) : Aside φ x.attempt :=
  Exists.elim hx fun _ h => ⟨_, h.attempt⟩

theorem regardless (hx : Aside φ x) : Aside φ x.regardless :=
  Exists.elim hx fun _ h => ⟨_, h.regardless⟩

theorem ite {c : Prop} [Decidable c] {y : Action (State σ) α} (hx : Aside φ x) (hy : Aside φ y) :
    Aside φ (if c then x else y) := by
  split
  case isTrue  => exact hx
  case isFalse => exact hy

theorem ofExcept (a : Except Fault α) : Aside φ (Action.ofExcept a) :=
  ⟨Action.ofExcept a, .ofExcept a⟩

theorem onEngine {x : Action σ α} {y : Action ρ α} (h : x.Over φ y) : Aside φ (onEngine x) := by
  refine ⟨y, fun s => ?_⟩
  have hs := h s.world
  simp only [Action.Ends, Bench.onEngine] at *
  cases hx : x s.world <;> simp only [hx] at hs ⊢ <;> exact hs

theorem observe {f : σ → α × σ} {g : ρ → α × ρ} (h : ∀ w, g (φ w) = ((f w).1, φ (f w).2)) :
    Aside φ (observe f) :=
  onEngine (y := fun w => .ok (g w).1 (g w).2) fun w => by simp only [Action.Ends, h]

-- So they do not tell states apart that differ in their collectors.
theorem level (hx : Aside φ x) (h : φ s.world = φ t.world) :
    x.answer s = x.answer t ∧ φ (x.after s).world = φ (x.after t).world := by
  have ⟨y, hy⟩ := hx
  have ha := hy.answer (t := s)
  have hs := hy.after (t := s)
  simp only [h] at ha hs
  exact ⟨ha.symm.trans hy.answer, hs.symm.trans hy.after⟩

end Aside

section

variable {p : FailurePolicy} (ho : e.Over φ e₀) (hm : e₀.Mute)

include ho

theorem isRunning_aside : Aside φ (isRunning ⟨e, p⟩) :=
  ⟨fun w => .ok (e₀.isRunning w) w,
    fun s => congrArg (EStateM.Result.ok · _) (ho.isRunning s.world)⟩

theorem checkShutdown_aside : Aside φ (checkShutdown ⟨e, p⟩) :=
  .bind (.observe ho.shutdownSeen) fun _ => .ite (.throw _) (.pure _)

theorem runTimed_aside (scale : Scale) : Aside φ (runTimed ⟨e, p⟩ scale) :=
  .bind (.onEngine (ho.runClient scale).attempt) fun outcome =>
    .bind (.observe ho.elapsed) fun _ => .bind (.ofExcept outcome) fun _ => .pure _

theorem lastStop_aside (graceful : Bool) : Aside φ (lastStop ⟨e, p⟩ graceful) :=
  .bind (isRunning_aside ho) fun _ => .ite (.onEngine ho.stop) (.pure _)

include hm

theorem logged_aside (records : Log) : Aside φ (logged ⟨e, p⟩ records) :=
  .onEngine (y := fun w => .ok () w) fun w => by
    rw [← hm.log records (φ w)]
    exact congrArg (EStateM.Result.ok _) (ho.log records w)

theorem report_aside (r : Report) : Aside φ (report ⟨e, p⟩ r) :=
  ⟨fun w => .ok () w, fun s => congrArg (EStateM.Result.ok _) <| by
    simp only [← ho.print, ← ho.log, hm.print, hm.log]⟩

theorem relates_aside :
    Relates (fun _ (x _ : Action (State σ) _) => Aside φ x) (⟨e, p⟩ : Bench σ) ⟨e, p⟩ where
  report          := report_aside ho hm
  toRelatesScales := .of_clients {
    pure       := .pure
    bind       := .bind
    logged     := logged_aside ho hm
    isRunning  := isRunning_aside ho
    resetState := .onEngine ho.resetState
    start      := .onEngine ho.start
    stop       := .onEngine ho.stop
  } rfl fun scale => .bind (checkShutdown_aside ho) fun _ => runTimed_aside ho scale

theorem perform_aside (errand : Errand) : Aside φ (perform ⟨e, p⟩ errand) :=
  (relates_aside ho hm).perform fun _ _ => .inl fun _ _ => .throw _

theorem serve_aside (errands : List Errand) : Aside φ (serve ⟨e, p⟩ errands) := by
  induction errands
  case nil                 => exact .pure _
  case cons errand rest hi => exact .bind (perform_aside ho hm errand).regardless fun _ => hi

theorem finish_aside (graceful : Bool) : Aside φ (finish ⟨e, p⟩ graceful) := by
  rw [finish_eq]
  exact .bind (lastStop_aside ho graceful).attempt fun stopped =>
    .bind (report_aside ho hm _) fun _ => .ofExcept stopped

theorem live_aside (errands : List Errand) (finish : Option Bool) :
    Aside φ (live ⟨e, p⟩ errands finish) :=
  .bind (serve_aside ho hm errands) fun _ => by
    cases finish
    case none          => exact .pure _
    case some graceful => exact (finish_aside ho hm graceful).regardless

end

end Bench

open Reporter (written printed logged part) in
-- However a reporter was put together, its collectors do what each of them does alone, in the order
-- of the custom ones, the printed lines and the table. The lines get through or not, each with its
-- own trouble and none twice. Where logs and prints do nothing to an engine, runs that differ in
-- their collectors ask it for the same, are told the same and end alike.
theorem collectors_keep_apart (choices : List Choice) (reports : List Report) :
    let r := (Reporting.chosen choices).reporter
    r = choices.filterMap Choice.custom? ++
      (if choices.any Choice.isLines then [Collector.lines] else []) ++
      (if choices.any Choice.isTable then [Collector.table] else []) ∧
    (r.sendAll reports).1 = r.told reports ∧
    (r.sendAll reports).2.length = reports.length ∧
    (∀ here ∈ (r.sendAll reports).2, here.length = r.length) ∧
    (∀ i c, r[i]? = some c → r.part i reports = part 0 reports [c] ∧
      ∀ k, (r.part i reports)[k]? = reports[k]?.map (c.react (c.past ++ reports.take k))) ∧
    (∀ i media, r[i]? = some (Collector.writer media) →
      written (r.part i reports) =
        String.join ((Report.lines reports).zipIdx.map fun p => (media p.2).kept p.1) ∧
      logged (r.part i reports) =
        (Report.lines reports).zipIdx.filterMap (fun p => (media p.2).complaint? p.1) ∧
      printed (r.part i reports) = "") ∧
    (∀ i, r[i]? = some Collector.lines →
      printed (r.part i reports) = String.join ((Report.lines reports).map (· ++ "\n")) ∧
      logged (r.part i reports) = []) ∧
    ∀ {σ ρ : Type} {e : Engine σ} {e₀ : Engine ρ} {φ : σ → ρ}, e.Over φ e₀ → e₀.Mute →
      ∀ policy (s t : Bench.State σ), φ s.world = φ t.world →
        let b : Bench σ := ⟨e, policy⟩
        (∀ errand, (b.perform errand).answer s = (b.perform errand).answer t) ∧
        ∀ errands finish,
          b.notes (·.live errands finish) s = b.notes (·.live errands finish) t ∧
          φ ((b.live errands finish).after s).world = φ ((b.live errands finish).after t).world := by
  intro r
  have ⟨hl, hm⟩ := r.sendAll_reactions reports
  refine ⟨Reporting.chosen_reporter choices, r.sendAll_told reports, hl, hm, fun i c h => ?alone,
    fun i media h => ?written, fun i h => ?printed,
    fun ho hm policy s t h => ⟨fun errand => ?answer, ?notes⟩⟩
  case alone =>
    rw [Reporter.part_eq_run h, Reporter.part_alone]
    exact ⟨rfl, Collector.run_getElem? reports c⟩
  case written =>
    have ⟨hw, hl, hp, _⟩ := Collector.run_writer media reports []
    rw [Reporter.part_eq_run h]
    exact ⟨hw, hl, hp⟩
  case printed =>
    rw [Reporter.part_eq_run h]
    exact Collector.run_lines reports []
  case answer => exact ((Bench.perform_aside ho hm errand).level h).left
  case notes =>
    intro errands finish
    have ⟨_, hn⟩ := (Bench.live_aside (p := policy) ho.noting hm.noting errands finish).level
      (s := s.noted []) (t := t.noted []) (congrArg (Prod.mk []) h)
    exact ⟨(Prod.mk.inj hn).left, ((Bench.live_aside ho hm errands finish).level h).right⟩

open Reporter (written logged part) in
-- The first collector refuses all lines, the third one takes six characters of the first line and
-- does not flush the second one.
theorem collectors_keep_apart_troubled :
    let third (n : Nat) : Collector.Medium :=
      if n = 0 then .stopsAt 6 "no space" else .refusesFlushes
    let choices : List Choice := [.table, .collector (.buffer .refusesWrites), .lines,
      .collector .probe, .table, .collector (.writer third), .lines]
    let scales := (Benchmark.tiers .load).catalog.scales
    let reports := scales.map (Report.failure "load" · 1 "no time") ++ [.finalize]
    let r := (Reporting.chosen choices).reporter
    let b : Bench Script := ⟨Script.engine, .record⟩
    r.length = 5 ∧
    (logged (r.part 0 reports)).length = 2 ∧ written (r.part 0 reports) = "" ∧
    (logged (r.part 2 reports)).length = 2 ∧
      written (r.part 2 reports) = "load [load [large] failed: no time\n" ∧
    b.notes (·.live [.one (.tiers .load)] (some true)) ⟨Script.blank true, r, []⟩ =
      b.notes (·.live [.one (.tiers .load)] (some true)) ⟨Script.blank true, [], []⟩ := by
  intro third choices scales reports r b
  have ⟨hr, _, _, _, _, hw, _, hb⟩ := collectors_keep_apart choices reports
  have ⟨hw₀, hl₀, _⟩ := hw 0 _ (congrArg some (Collector.buffer_eq_writer .refusesWrites))
  have ⟨hw₂, hl₂, _⟩ := hw 2 third rfl
  refine ⟨congrArg List.length hr, ?logged₀, ?written₀, ?logged₂, ?written₂, ?notes⟩
  case logged₀  => exact (congrArg List.length hl₀).trans (by decide +kernel)
  case written₀ => exact hw₀.trans (by decide +kernel)
  case logged₂  => exact (congrArg List.length hl₂).trans (by decide +kernel)
  case written₂ => exact hw₂.trans (by decide +kernel)
  case notes =>
    have hs : Script.mute (Script.blank true) = Script.mute (Script.blank true) := rfl
    have ⟨_, hl⟩ := hb Script.engine_over_mute Script.muteEngine_mute .record
      ⟨Script.blank true, r, []⟩ ⟨Script.blank true, [], []⟩ hs
    exact (hl [.one (.tiers .load)] (some true)).left

end EngineBench
