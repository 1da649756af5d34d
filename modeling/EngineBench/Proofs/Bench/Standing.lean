import EngineBench.Proofs.Bench.Pace

namespace EngineBench

open Engine
open Engine.Exchange (Kind)

namespace Bench

variable {σ : Type} {b : Bench σ} {policy : FailurePolicy} {agenda left rest : Agenda}
  {r : Reporter} {ks : List Kind} {t t' : State (List (Moment σ) × σ)} {name : String} {mode : Mode}
  {scale : Scale} {scales : List Scale}

-- A run that began with some agenda and some reporter keeps its pace, and has reported the scales
-- that are through.
structure Stands (policy : FailurePolicy) (agenda : Agenda) (r : Reporter) (ks : List Kind)
    (left : Agenda) (t : State (List (Moment σ) × σ)) : Prop where
  pace     : Pace policy agenda ks left t.world.1
  reported : ∃ reports, t.reporter = r.told reports ∧
    reports.map Report.scale? ++ left.scales.map some = agenda.scales.map some

-- Something was left when a run was cut off.
def Halts (policy : FailurePolicy) (agenda : Agenda) (r : Reporter)
    (t : State (List (Moment σ) × σ)) : Prop :=
  ∃ left, left ≠ [] ∧ Stands policy agenda r allKinds left t

theorem scales_due {n : Nat} :
    (Agenda.due scale (n + 1) rest).scales = scale :: rest.scales :=
  rfl

theorem scale?_of : (o : Outcome) → (Report.of name o).scale? = some o.scale
  | .completed _ | .failed .. => rfl

namespace Stands

theorem mono {ks' : List Kind} (h : Stands policy agenda r ks left t) (hk : ∀ k ∈ ks, k ∈ ks') :
    Stands policy agenda r ks' left t :=
  ⟨h.pace.mono hk, h.reported⟩

-- What neither reports nor brings the agenda forward.
theorem of_pace {ks' : List Kind} (h : Stands policy agenda r ks left t)
    (hp : Pace policy agenda ks' left t'.world.1) (hr : t'.reporter = t.reporter) :
    Stands policy agenda r ks' left t' :=
  ⟨hp, hr ▸ h.reported⟩

-- A scale that is cut off is still due.
theorem halts {n : Nat} (h : Stands policy agenda r ks (.due scale (n + 1) rest) t)
    (hc : CutIn policy agenda scale rest t'.world.1) (hr : t'.reporter = t.reporter) :
    Halts policy agenda r t' := by
  obtain ⟨left, hp⟩ := hc
  exact ⟨_, List.cons_ne_nil _ _, hp, hr ▸ h.reported⟩

-- A scale that is through is reported.
theorem reportOutcome {n : Nat} {outcome : Outcome}
    (h : Stands policy agenda r ks (.due scale (n + 1) rest) t) (ho : outcome.scale = scale)
    (hp : Pace policy agenda [.run] rest t'.world.1) (hr : t'.reporter = t.reporter)
    {E : Abort → State (List (Moment σ) × σ) → Prop} :
    (b.recording.reportOutcome name outcome).Ends t'
      (fun _ t₁ => Stands policy agenda r [.run] rest t₁) E := by
  obtain ⟨reports, ht, ha⟩ := h.reported
  rw [reportOutcome_eq]
  refine ⟨hp, reports ++ [.of name outcome], ?told, ?due⟩
  case told => exact (Reporter.send_told _).trans (by rw [hr, ht, Reporter.told_told])
  case due => simpa [scales_due, scale?_of, ho] using ha

end Stands

theorem runScales_stands (hs : ∀ scale ∈ scales, scale.iterations ≤ maxCount)
    (hk : ∀ k ∈ ks, k ∈ idle mode) (he : scales = [] → ks = [.run])
    (h : Stands b.policy agenda r ks (.of scales ++ rest) t) :
    (b.recording.runScales name mode scales).Ends t
      (fun _ t' => Stands b.policy agenda r [.run] rest t')
      (fun _ t' => Halts b.policy agenda r t') := by
  induction scales generalizing ks t
  case nil => exact .pure (he rfl ▸ h)
  case cons scale scales hi =>
    have ⟨hs, hr⟩ := List.forall_mem_cons.mp hs
    obtain ⟨n, hn⟩ : ∃ n, scale.iterations = n + 1 :=
      Nat.exists_eq_succ_of_ne_zero (Nat.ne_of_gt scale.runs)
    rw [Agenda.due_of] at h
    have hq : ((b.recording.runScale name mode scale).after t).reporter = t.reporter :=
      Silent.runScale.after t
    have hp := runScale_paced name hs (h.pace.mono hk)
    have hp := (hp.and_after (I := fun t' => t'.reporter = t.reporter) hq).and (runScale_scale t)
    rw [hn] at h
    refine (hp.imp_error fun _ _ hc => h.halts hc.left hc.right).bind fun outcome t₁ h₁ => ?_
    refine (h.reportOutcome h₁.right h₁.left.left h₁.left.right).bind fun _ t₂ h₂ => ?_
    exact (hi hr (by cases mode <;> decide) (fun _ => rfl) h₂).bind fun _ _ h => .pure h

theorem prepareBenchmark_stands (h : Stands b.policy agenda r [.run] left t) (hl : left ≠ []) :
    (b.recording.prepareBenchmark mode).Ends t
      (fun _ t' => Stands b.policy agenda r (idle mode) left t')
      (fun _ t' => Halts b.policy agenda r t') := by
  cases mode
  case load => exact .pure h
  case query =>
    have hr : b.recording.isRunning.Ends t (fun _ t' => Stands b.policy agenda r [.run] left t')
        (fun _ t' => Halts b.policy agenda r t') := h
    refine hr.bind fun running t₁ h₁ => ?_
    split
    case isFalse => exact .pure (h₁.mono (by decide))
    case isTrue =>
      have hq : ((onEngine b.recording.engine.start).after t₁).reporter = t₁.reporter :=
        (Silent.onEngine _).after t₁
      have hp := (start_paced h₁.pace (by decide) (by decide)).and_after
        (I := fun t' => t'.reporter = t₁.reporter) hq
      exact hp.imp (fun _ _ h => h₁.of_pace h.left h.right)
        fun _ _ h => ⟨left, hl, h₁.of_pace h.left h.right⟩

-- Where catalogs are not empty, something is left until the last scale is through.
theorem runBenchmark_stands {m : Benchmark} (hm : m.catalog.scales ≠ [])
    (hs : ∀ scale ∈ m.catalog.scales, scale.iterations ≤ maxCount)
    (h : Stands b.policy agenda r [.run] (.of m.catalog.scales ++ rest) t) :
    (b.recording.runBenchmark m).Ends t
      (fun _ t' => Stands b.policy agenda r [.run] rest t')
      (fun _ t' => Halts b.policy agenda r t') := by
  have hl : (b.recording.logged [.info (announcement m)]).Ends t
      (fun _ t' => Stands b.policy agenda r [.run] (.of m.catalog.scales ++ rest) t')
      (fun _ t' => Halts b.policy agenda r t') := ⟨h.pace, h.reported⟩
  refine hl.bind fun _ t₁ h₁ => ?_
  have hn : Agenda.of m.catalog.scales ++ rest ≠ [] := by simp [Agenda.of, hm]
  refine (prepareBenchmark_stands h₁ hn).bind fun _ t₂ h₂ => ?_
  exact runScales_stands hs (fun _ h => h) (fun hm' => absurd hm' hm) h₂

theorem runAll_stands {ms : List Benchmark} (hm : ∀ m ∈ ms, m.catalog.scales ≠ [])
    (hs : ∀ scale ∈ (Errand.all ms).scales, scale.iterations ≤ maxCount)
    (h : Stands b.policy agenda r [.run] (.of (Errand.all ms).scales) t) :
    (b.recording.runAll ms).Ends t
      (fun _ t' => Stands b.policy agenda r [.run] [] t')
      (fun _ t' => Halts b.policy agenda r t') := by
  induction ms generalizing t
  case nil => exact .pure h
  case cons m rest hi =>
    have ⟨hm, hms⟩ := List.forall_mem_cons.mp hm
    have ⟨hs, hr⟩ := List.forall_mem_append.mp hs
    have hb : (Errand.all (m :: rest)).scales = m.catalog.scales ++ (Errand.all rest).scales := rfl
    rw [hb, Agenda.of_append] at h
    refine (runBenchmark_stands hm hs h).bind fun _ t₁ h₁ => ?_
    exact (hi hms hr h₁).bind fun _ _ h => .pure h

-- A run is over when nothing is left, and is cut off only before.
theorem perform_stands {errand : Errand} (he : errand.Proper) (s : State σ) :
    (b.recording.perform errand).Ends (s.recorded [])
      (fun _ t => Stands b.policy (.of errand.scales) s.reporter [.run] [] t)
      (fun _ t => Halts b.policy (.of errand.scales) s.reporter t) := by
  have h : Stands b.policy (.of errand.scales) s.reporter [.run] (.of errand.scales)
      (s.recorded []) :=
    ⟨⟨List.nodup_nil, nofun, rfl⟩, [], Reporter.told_nil.symm, rfl⟩
  cases errand
  case one m =>
    have hm := he.filled m (List.mem_singleton_self m)
    exact runBenchmark_stands hm he.counts ((List.append_nil (Agenda.of _)).symm ▸ h)
  case all ms => exact runAll_stands he.filled he.counts h

end Bench

end EngineBench
