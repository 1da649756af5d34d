import EngineBench.Proofs.Live.Workshop

namespace EngineBench

open Host (Exchange)
open Session

variable {σ : Type} {h : Host σ} {view : σ → Scene} {c : Config} {workload : Path} {pid : Pid}
  {v v' : Scene} {xs : List Exchange} {fault? : Option Fault}

namespace Client

theorem run_answers (hs : h.Shows view c.sinkPath) (workload : Path) {s : Session σ}
    (hq : (view s.world).Quiet) :
    ∃ a : Except Fault Invocation, (run h c workload).answer s = a.mapError .fault ∧
      Runs c workload (view s.world) (view ((run h c workload).after s).world)
        (s.exchanges h (run · c workload)) a := by
  have hx := exchanges_world_ends (fun h => run h c workload)
    (Q := fun r xs w => Runs c workload (view s.world) (view w) xs (.ok r))
    (E := fun e xs w => ∃ f, e = .fault f ∧ Runs c workload (view s.world) (view w) xs (.error f))
    (run_relates h.noting_over.relates.toRelatesFaults c workload) s (run_runs hs workload hq _ rfl)
  cases h' : run h c workload s
  case ok r _ => exact ⟨.ok r, Action.answer_ok h', hx.of_ok h'⟩
  case error =>
    obtain ⟨f, rfl, hy⟩ := hx.of_error h'
    exact ⟨.error f, Action.answer_error h', hy⟩

section

variable {clocks : List Duration} {input : FileHandle} {output : FileHandle}
  {a : Except Fault Invocation}

theorem Tends.whole_faults (hx : Tends v v' xs clocks fault?) :
    (whole c workload input output pid xs).filterMap Exchange.spoils? = fault?.toList := by
  rw [whole, List.filterMap_append, List.filterMap_append, hx.faults]
  exact List.append_nil _

theorem Tends.whole_clocks (hx : Tends v v' xs clocks fault?) :
    (whole c workload input output pid xs).filterMap Exchange.clock? = clocks := by
  rw [whole, List.filterMap_append, List.filterMap_append, hx.clocks]
  exact List.append_nil _

theorem Tends.filterMap_eq_nil {α : Type} {f : Exchange → Option α}
    (hx : Tends v v' xs clocks fault?) (hf : ∀ r a, r.tends → f ⟨r, a⟩ = none) :
    xs.filterMap f = [] :=
  List.filterMap_eq_nil_iff.mpr fun _ hm => hf _ _ (hx.asks _ hm)

theorem Tends.whole_commands (hx : Tends v v' xs clocks fault?) :
    (whole c workload input output pid xs).filterMap Exchange.command? =
      [command c (.file output)] := by
  have hn : xs.filterMap Exchange.command? = [] :=
    hx.filterMap_eq_nil fun r _ hr => by cases r <;> first | rfl | cases hr
  rw [whole, List.filterMap_append, List.filterMap_append, hn]
  rfl

theorem Tends.whole_spawned (hx : Tends v v' xs clocks fault?) :
    (whole c workload input output pid xs).filterMap Exchange.spawned? = [pid] := by
  have hn : xs.filterMap Exchange.spawned? = [] :=
    hx.filterMap_eq_nil fun r _ hr => by cases r <;> first | rfl | cases hr
  rw [whole, List.filterMap_append, List.filterMap_append, hn]
  rfl

-- Nothing was refused to a client that was spawned before it was.
theorem Tends.not_mem_whole (hx : Tends v v' xs clocks fault?) {x : Exchange}
    (hr : x.request.tends = false) (hs : x.spoils?.isSome) :
    x ∉ whole c workload input output pid xs := by
  intro hm
  simp only [whole, List.mem_append, List.mem_cons, List.not_mem_nil, or_false] at hm
  obtain ((rfl | rfl | rfl) | hm) | rfl := hm
  case inl.inr => exact Bool.noConfusion (hr.symm.trans (hx.asks x hm))
  all_goals cases hs

theorem Runs.quiet (hx : Runs c workload v v' xs a) (hq : v.Quiet) : v'.Quiet := by
  cases hx
  case cut hg            => exact (hg.quiet hq).left
  case unopened hg       => exact (hg.quiet hq).left
  case unmade hg         => exact (hg.quiet hq).left
  case unspawned hq      => exact hq
  case failed hq         => exact hq
  case served _ hq _ _ _ => exact hq

theorem Runs.faults (hx : Runs c workload v v' xs a) :
    (∃ r, a = .ok r ∧ xs.filterMap Exchange.spoils? = []) ∨
      ∃ f, a = .error f ∧ xs.filterMap Exchange.spoils? = [f] := by
  cases hx
  case cut               => exact .inr ⟨_, rfl, rfl⟩
  case unopened          => exact .inr ⟨_, rfl, rfl⟩
  case unmade            => exact .inr ⟨_, rfl, rfl⟩
  case unspawned         => exact .inr ⟨_, rfl, rfl⟩
  case failed hx _       => exact .inr ⟨_, rfl, hx.whole_faults⟩
  case served hx _ _ _ _ => exact .inl ⟨_, rfl, hx.whole_faults⟩

theorem Runs.served_of_ok {r : Invocation} (hx : Runs c workload v v' xs (.ok r)) :
    ∃ output pid clocks, xs.filterMap Exchange.command? = [command c (.file output)] ∧
      xs.filterMap Exchange.spawned? = [pid] ∧ xs.filterMap Exchange.clock? = clocks ∧
      .release pid ∈ xs.map (·.request) ∧ ¬v'.runs pid ∧ v'.sink = v'.output pid ∧
      Told c pid v' clocks r := by
  cases hx
  case served hx _ hr ho ht =>
    refine ⟨_, _, _, hx.whole_commands, hx.whole_spawned, hx.whole_clocks, ?_, hr, ho, ht⟩
    simp [whole]

-- A run ends with the first thing that spoils it.
theorem Runs.error_of_mem (hx : Runs c workload v v' xs a) {x : Exchange} {f : Fault}
    (hm : x ∈ xs) (hs : x.spoils? = some f) : a = .error f := by
  have hf : f ∈ xs.filterMap Exchange.spoils? := List.mem_filterMap.mpr ⟨x, hm, hs⟩
  obtain ⟨_, _, hn⟩ | ⟨_, rfl, hn⟩ := hx.faults <;> rw [hn] at hf
  case inl => cases hf
  case inr => rw [List.mem_singleton.mp hf]

theorem Runs.unopened_of_mem (hx : Runs c workload v v' xs a) (hq : v.Quiet) {path : Path}
    {e : OsError} (hm : ⟨.openInput path, .ready (.error e)⟩ ∈ xs) :
    xs.filterMap Exchange.command? = [] ∧ v'.sink = v.sink := by
  cases hx
  case unopened hg       => exact ⟨rfl, (hg.quiet hq).right⟩
  case failed hx _       => exact absurd hm (hx.not_mem_whole rfl rfl)
  case served hx _ _ _ _ => exact absurd hm (hx.not_mem_whole rfl rfl)
  all_goals simp at hm

theorem Runs.unmade_of_mem (hx : Runs c workload v v' xs a) {path : Path} {e : OsError}
    (hm : ⟨.createOutput path, .error e⟩ ∈ xs) : xs.filterMap Exchange.command? = [] := by
  cases hx
  case unmade            => rfl
  case failed hx _       => exact absurd hm (hx.not_mem_whole rfl rfl)
  case served hx _ _ _ _ => exact absurd hm (hx.not_mem_whole rfl rfl)
  all_goals simp at hm

end

theorem runAll_quiet (hs : h.Shows view c.sinkPath) (workloads : List Path) :
    (runAll h c workloads).Preserves fun s => (view s.world).Quiet := by
  induction workloads
  case nil => exact .pure ()
  case cons workload rest ih =>
    have hr : (run h c workload).Preserves fun s => (view s.world).Quiet := fun s hq =>
      have ⟨_, _, hx⟩ := run_answers hs workload hq
      hx.quiet hq
    exact hr.regardless.bind fun _ => ih

theorem Told.of_ended {clocks : List Duration} {r : Invocation} (ht : Told c pid v clocks r)
    (hr : r.timedOut = false) : ∃ exit status, v.exit? pid = some (exit, status) ∧
      r.exitCode = status.code? ∧ r.bytesWritten = v.sink.length := by
  cases ht
  case ended he => exact ⟨_, _, he, rfl, rfl⟩
  case late     => cases hr

theorem Told.of_late {clocks : List Duration} {r : Invocation} (ht : Told c pid v clocks r)
    (hr : r.timedOut = true) : r.exitCode = none ∧ ∃ limit now, c.clientTimeout = some limit ∧
      clocks = [now] ∧ ¬v.DoneBy pid ⟨now.nanos + limit.nanos⟩ := by
  cases ht
  case ended           => cases hr
  case late hc hn _ hb => exact ⟨rfl, _, _, hc, hn, hb⟩

-- Whatever was run before, a run that succeeds leaves what its client has written in the sink, and
-- nothing else. It tells how the client ended, unless that took longer than it was given; then the
-- client was killed. A run fails for what was refused to it, and what a client does is not that.
theorem runs_share_sink (hs : h.Shows view c.sinkPath) (earlier : List Path) (workload : Path)
    {s : Session σ} (hq : (view s.world).Quiet) :
    let s := (runAll h c earlier).after s
    let path := c.workloadPath workload
    let answer := (run h c workload).answer s
    let xs := s.exchanges h (run · c workload)
    let v := view ((run h c workload).after s).world
    ((∃ r, answer = .ok r ∧ xs.filterMap Exchange.spoils? = []) ∨
      ∃ f, answer = .error (.fault f) ∧ xs.filterMap Exchange.spoils? = [f]) ∧
    (∀ r, answer = .ok r → ∃ sink pid,
      xs.filterMap Exchange.command? = [command c (.file sink)] ∧
      xs.filterMap Exchange.spawned? = [pid] ∧ .release pid ∈ xs.map (·.request) ∧
      ¬v.runs pid ∧ v.sink = v.output pid ∧
      (r.timedOut = false → ∃ exit status, v.exit? pid = some (exit, status) ∧
        r.exitCode = status.code? ∧ r.bytesWritten = v.sink.length) ∧
      (r.timedOut = true → r.exitCode = none ∧ ∃ limit now, c.clientTimeout = some limit ∧
        xs.filterMap Exchange.clock? = [now] ∧
        ¬v.DoneBy pid ⟨now.nanos + limit.nanos⟩)) ∧
    (∀ e, ⟨.openInput path, .ready (.error e)⟩ ∈ xs →
      answer = .error (.fault (.cannotOpenWorkload path e)) ∧
      xs.filterMap Exchange.command? = [] ∧ v.sink = (view s.world).sink) ∧
    (∀ e, ⟨.createOutput c.sinkPath, .error e⟩ ∈ xs →
      answer = .error (.fault (.cannotCreateSink c.sinkPath e)) ∧
      xs.filterMap Exchange.command? = []) ∧
    (∀ command e, ⟨.spawn command, .error e⟩ ∈ xs →
      answer = .error (.fault (.launch Role.client.name (.refused e)))) ∧
    v.Quiet := by
  intro s path answer xs v
  have hq : (view s.world).Quiet := runAll_quiet hs earlier _ hq
  have ⟨a, (ha : answer = _), (hx : Runs c workload _ v xs a)⟩ := run_answers hs workload hq
  have fails {x : Exchange} {f : Fault} (hm : x ∈ xs) (hs : x.spoils? = some f) :
      answer = .error (.fault f) := by
    rw [ha, hx.error_of_mem hm hs]
    rfl
  refine ⟨?faults, fun r hr => ?served, fun e hm => ?unopened, fun e hm => ?unmade,
    fun command e hm => ?unspawned, hx.quiet hq⟩
  case faults =>
    obtain ⟨r, rfl, hf⟩ | ⟨f, rfl, hf⟩ := hx.faults
    case inl => exact .inl ⟨r, ha, hf⟩
    case inr => exact .inr ⟨f, ha, hf⟩
  case served =>
    obtain rfl : a = .ok r := by
      cases a <;> cases ha.symm.trans hr
      rfl
    have ⟨output, pid, clocks, hc, hp, hn, hl, hr, ho, ht⟩ := hx.served_of_ok
    subst hn
    exact ⟨output, pid, hc, hp, hl, hr, ho, ht.of_ended, ht.of_late⟩
  case unopened  => exact ⟨fails hm rfl, hx.unopened_of_mem hq hm⟩
  case unmade    => exact ⟨fails hm rfl, hx.unmade_of_mem hm⟩
  case unspawned => exact fails hm rfl

-- A client that never reads is killed when its time is over; the next one closes its input at once,
-- and it is told how it ended.
theorem runs_share_sink_killed :
    let c : Config :=
      Setup.config { clientTimeout := some (.ofMillis 200) } ⟨"/engine"⟩ ⟨"server"⟩ ⟨"client"⟩
    let there : Path := ⟨"test10.dsl"⟩
    let h := Workshop.host [c.workloadPath there] c.sinkPath
    let stalls : Manner := ⟨[1, 2, 3, 4, 5], [], none, none⟩
    let closes : Manner := ⟨[6], [7], some (.error .brokenPipe), some (.code 3)⟩
    let s := (Session.start (Workshop.opened [stalls, closes])).1
    let s₂ := (runAll h c [there, ⟨"missing.dsl"⟩]).after s
    let v₁ := ((run h c there).after s).world.scene
    let v₂ := ((run h c there).after s₂).world.scene
    ((run h c there).answer s).toOption = some ⟨none, 5, true⟩ ∧
      ¬v₁.runs 1 ∧ v₁.sink = v₁.output 1 ∧
    ((run h c there).answer s₂).toOption = some ⟨some 3, 2, false⟩ ∧
      ¬v₂.runs 2 ∧ v₂.sink = v₂.output 2 := by
  intro c there h stalls closes s s₂ v₁ v₂
  have hs : h.Shows Workshop.scene c.sinkPath := Workshop.host_shows _ _
  have hq : s.world.scene.Quiet := fun _ hp => Bool.noConfusion hp.right
  have ⟨r₁, _, h₁⟩ : ∃ r s', run h c there s = .ok r s' := Action.exists_ok (by decide +kernel)
  have ⟨r₂, _, h₂⟩ : ∃ r s', run h c there s₂ = .ok r s' := Action.exists_ok (by decide +kernel)
  have hx₁ : (s.exchanges h (run · c there)).filterMap Exchange.spawned? = [1] := by
    decide +kernel
  have hx₂ : (s₂.exchanges h (run · c there)).filterMap Exchange.spawned? = [2] := by
    decide +kernel
  have ⟨_, hk₁, _⟩ := runs_share_sink hs [] there hq
  have ⟨_, hk₂, _⟩ := runs_share_sink hs [there, ⟨"missing.dsl"⟩] there hq
  have ⟨_, _, _, hp₁, _, hr₁, ho₁, _⟩ := hk₁ r₁ (Action.answer_ok h₁)
  have ⟨_, _, _, hp₂, _, hr₂, ho₂, _⟩ := hk₂ r₂ (Action.answer_ok h₂)
  cases hp₁.symm.trans hx₁
  cases hp₂.symm.trans hx₂
  exact ⟨by decide +kernel, hr₁, ho₁, by decide +kernel, hr₂, ho₂⟩

end Client

end EngineBench
