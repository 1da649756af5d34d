import EngineBench.Proofs.Bench.LoadProtocol

namespace EngineBench

open Engine

namespace Engine.Exchange

-- A client of one of a benchmark's scales, whatever it came to.
def ClientOf (m : Benchmark) (x : Exchange) : Prop :=
  ∃ scale ∈ m.catalog.scales, ∃ answer, x = .run scale answer

-- What a query benchmark may ask for, given that it found a server running or not.
def Query (m : Benchmark) (running : Bool) (xs : List Exchange) : Prop :=
  match running with
  | true  => ∀ x ∈ xs, x.ClientOf m
  | false => ∃ answer clients, xs = .start answer :: clients ∧ (∀ x ∈ clients, x.ClientOf m) ∧
      ∀ f, answer = .error f → clients = []

end Engine.Exchange

theorem View.Grows.exchanges {P : Exchange → Prop} {v v' : View} (h : v.Grows (P ·.exchange) v') :
    ∃ xs, v'.exchanges = v.exchanges ++ xs ∧ ∀ x ∈ xs, P x := by
  have ⟨more, hm, hs⟩ := h
  refine ⟨more.map (·.exchange), by simp [View.exchanges, hm], ?_⟩
  exact List.forall_mem_map.mpr hs

namespace Bench

open Engine.Exchange (client)

variable {σ : Type} {b : Bench σ} {S : Note → Prop} {t : State (List Note × σ)} {v : View}
  {m : Benchmark}

section

variable (he : b.engine.Steady)

include he

theorem covers_query (S : Note → Prop) : b.Covers S .query :=
  ⟨he, nofun, nofun⟩

-- A query benchmark keeps the server that it finds.
theorem runBenchmark_query_up (hm : m.mode = .query)
    (hs : ∀ n : Note, n.exchange.ClientOf m → S n) (h : v.Up S (b.view t)) :
    (b.noting.runBenchmark m).Ends t
      (fun _ t' => v.Up S (b.view t')) (fun _ t' => v.Grows S (b.view t')) := by
  refine ((Quiet.logged he _).up h).bind fun _ t₁ h₁ => ?_
  rw [hm]
  refine .bind (Q := fun _ t' => v.Up S (b.view t')) ?looked fun _ t₂ h₂ => ?ran
  case looked =>
    refine isRunning_ends.bind fun r t' ⟨ht, hr⟩ => ?_
    subst ht
    rw [hr, h₁.running]
    exact .pure h₁
  case ran =>
    have hc : ∀ scale ∈ m.catalog.scales, ∀ answer, S ⟨.run scale answer, true⟩ :=
      fun scale hn answer => hs _ ⟨scale, hn, answer, rfl⟩
    exact (runScales_ready (covers_query he S) hc h₂.ready).imp
      (fun _ _ h => ⟨h.grows, h.running rfl⟩) (fun _ _ h => h)

theorem runAll_query_up {queries : List Benchmark} (hq : ∀ q ∈ queries, q.mode = .query)
    (hs : ∀ q ∈ queries, ∀ n : Note, n.exchange.ClientOf q → S n) (h : v.Up S (b.view t)) :
    (b.noting.runAll queries).Ends t
      (fun _ t' => v.Up S (b.view t')) (fun _ t' => v.Grows S (b.view t')) := by
  induction queries generalizing t
  case nil => exact .pure h
  case cons q rest hi =>
    have ⟨hq, hqs⟩ := List.forall_mem_cons.mp hq
    have ⟨hs, hss⟩ := List.forall_mem_cons.mp hs
    exact (runBenchmark_query_up he hq hs h).bind fun _ _ h =>
      (hi hqs hss h).bind fun _ _ h => .pure h

-- A query benchmark that finds no server starts one first.
theorem runBenchmark_query_start (hm : m.mode = .query) (hr : (b.view t).running = false) :
    let P (t' : State (List Note × σ)) := ∃ answer clients,
      (b.view t').exchanges = (b.view t).exchanges ++ .start answer :: clients ∧
      (∀ x ∈ clients, x.ClientOf m) ∧ ∀ f, answer = .error f → clients = []
    (b.noting.runBenchmark m).Ends t (fun _ => P) (fun _ => P) := by
  intro P
  have hl : (b.noting.logged [.info (announcement m)]).Ends t (fun _ t' => b.view t' = b.view t)
      (fun _ => P) := congrArg (View.mk _) (he.log _ t.world.2)
  refine hl.bind fun _ t₁ h₁ => ?_
  rw [hm]
  refine .bind (Q := fun _ t' => b.view t' = (b.view t).add (.start (.ok ())) true) ?started ?ran
  case started =>
    refine isRunning_ends.bind fun r t' ⟨ht, hr'⟩ => ?_
    subst ht
    rw [hr', h₁, hr]
    refine (onEngine_ends he.start_ends).imp (fun _ t₂ h₂ => h₁ ▸ h₂) (fun f t₂ h₂ => ?_)
    have ⟨r, h₂⟩ := h₂
    refine ⟨.error f, [], ?_, List.forall_mem_nil _, fun _ _ => rfl⟩
    exact (congrArg View.exchanges h₂).trans (h₁ ▸ View.exchanges_add)
  case ran =>
    intro _ t₂ h₂
    let S (n : Note) := n.exchange.ClientOf m
    have hc : ∀ scale ∈ m.catalog.scales, ∀ answer, S ⟨.run scale answer, true⟩ :=
      fun scale hn answer => ⟨scale, hn, answer, rfl⟩
    have hu : (b.view t₂).Up S (b.view t₂) := ⟨.refl, h₂ ▸ rfl⟩
    have hp (t₃ : State (List Note × σ)) (h₃ : (b.view t₂).Grows S (b.view t₃)) : P t₃ := by
      have ⟨clients, hx, hs⟩ := h₃.exchanges
      refine ⟨.ok (), clients, ?_, hs, nofun⟩
      rw [hx, h₂, View.exchanges_add, List.append_assoc]
      rfl
    exact (runScales_ready (covers_query he S) hc hu.ready).imp (fun _ t₃ h₃ => hp t₃ h₃.grows)
      (fun _ t₃ h₃ => hp t₃ h₃)

theorem runBenchmark_query_exchanges (hm : m.mode = .query) (s : State σ) :
    Exchange.Query m (b.engine.isRunning s.world) (b.exchanges (·.runBenchmark m) s) := by
  cases hr : b.engine.isRunning s.world
  case false => exact (runBenchmark_query_start (t := s.noted []) he hm hr).after
  case true  =>
    let v := b.view (s.noted [])
    have hu : v.Up (·.exchange.ClientOf m) v := ⟨.refl, hr⟩
    have h := (runBenchmark_query_up he hm (fun _ h => h) hu).imp (fun _ _ h => h.grows)
      (fun _ _ h => h)
    have ⟨clients, hx, hs⟩ := h.after.exchanges
    have hx : b.exchanges (·.runBenchmark m) s = clients := hx
    exact hx ▸ hs

theorem runAll_query_exchanges {queries : List Benchmark} (hq : ∀ q ∈ queries, q.mode = .query)
    {s : State σ} (hr : b.engine.isRunning s.world = true) :
    ∀ x ∈ b.exchanges (·.runAll queries) s, ∃ q ∈ queries, x.ClientOf q := by
  let v := b.view (s.noted [])
  have hu : v.Up (fun n => ∃ q ∈ queries, n.exchange.ClientOf q) v := ⟨.refl, hr⟩
  have h := (runAll_query_up he hq (fun q hn _ h => ⟨q, hn, h⟩) hu).imp (fun _ _ h => h.grows)
    (fun _ _ h => h)
  have ⟨clients, hx, hs⟩ := View.Grows.exchanges (P := fun x => ∃ q ∈ queries, x.ClientOf q) h.after
  have hx : b.exchanges (·.runAll queries) s = clients := hx
  exact hx ▸ hs

end

theorem runAll_append {xs ys : List Benchmark} :
    b.runAll (xs ++ ys) = do
      let outcomes ← b.runAll xs
      let outcomes' ← b.runAll ys
      return outcomes ++ outcomes' := by
  induction xs
  case nil            => simp [runAll]
  case cons m rest hi =>
    simp only [List.cons_append, runAll, hi, bind_assoc, pure_bind, List.append_assoc]

theorem exchanges_runAll_ok {xs : List Benchmark} (ys : List Benchmark) {s s₁ : State σ}
    {outcomes : List Outcome} (h : b.runAll xs s = .ok outcomes s₁) :
    b.exchanges (·.runAll (xs ++ ys)) s =
      b.exchanges (·.runAll xs) s ++ b.exchanges (·.runAll ys) s₁ := by
  simp only [exchanges, runAll_append]
  rw [calls_bind_ok (x := (·.runAll xs)) (runAll_over b.noting_over xs) h fun notes =>
    .bind (runAll_over (b.noting_over_prepend notes) ys) fun _ => .pure _, List.map_append]
  simp only [calls, Action.after_map]

theorem exchanges_runAll_append (b : Bench σ) (xs ys : List Benchmark) (s : State σ) :
    ∃ more, b.exchanges (·.runAll (xs ++ ys)) s = b.exchanges (·.runAll xs) s ++ more := by
  cases h : b.runAll xs s
  case ok outcomes s₁ => exact ⟨_, exchanges_runAll_ok ys h⟩
  case error e s₁ =>
    refine ⟨[], ?_⟩
    simp only [exchanges, runAll_append, List.append_nil]
    rw [calls_bind_error (x := (·.runAll xs)) (runAll_over b.noting_over xs) h]

-- A load that is through ends with a client of its last scale, and leaves the server to others.
theorem runBenchmark_load_last (he : b.engine.Steady) (hm : m.mode = .load)
    (hn : m.catalog.scales ≠ []) {s s' : State σ} {outcomes : List Outcome}
    (h : b.runBenchmark m s = .ok outcomes s') :
    b.engine.isRunning s'.world = true ∧ ∃ scale ∈ m.catalog.scales.getLast?, ∃ before r,
      b.exchanges (·.runBenchmark m) s = before ++ [client scale r] := by
  have ⟨served, hd, hp, hx, hr⟩ := runBenchmark_loaded he hm h
  have hx : b.exchanges (·.runBenchmark m) s = _ := hx
  have hl := List.getLast?_eq_some_getLast hn
  refine ⟨hr (.inr hn), _, hl, ?_⟩
  rw [hx]
  refine Exchange.exists_loading_eq _ (by rw [hd]; exact hl) fun p hs hc => ?_
  have hd : 0 < b.policy.clientsDue p.1.iterations p.2 := FailurePolicy.clientsDue_pos p.1.runs
  rw [← hp p hs, hc] at hd
  exact absurd hd (Nat.lt_irrefl 0)

-- However a query benchmark ends, it asks for a start if it finds no server, and otherwise only for
-- its clients. So nothing happens to the server between the last client of a load that is through
-- and the clients of the queries that follow it, whatever comes before and after.
theorem queries_keep_server (he : b.engine.Steady) :
    (∀ (m : Benchmark) (s : State σ), m.mode = .query →
      Exchange.Query m (b.engine.isRunning s.world) (b.exchanges (·.runBenchmark m) s)) ∧
    ∀ (pre : List Benchmark) (m : Benchmark) (queries rest : List Benchmark) (s s₁ : State σ)
      (outcomes : List Outcome), m.mode = .load → m.catalog.scales ≠ [] →
      (∀ q ∈ queries, q.mode = .query) → b.runAll (pre ++ [m]) s = .ok outcomes s₁ →
      ∃ scale ∈ m.catalog.scales.getLast?, ∃ before r clients after,
        b.exchanges (·.runAll (pre ++ [m])) s = before ++ [client scale r] ∧
        b.exchanges (·.runAll (pre ++ [m] ++ queries)) s = before ++ [client scale r] ++ clients ∧
        b.exchanges (·.runAll (pre ++ [m] ++ queries ++ rest)) s =
          before ++ [client scale r] ++ clients ++ after ∧
        ∀ x ∈ clients, ∃ q ∈ queries, x.ClientOf q := by
  refine ⟨fun m s hm => runBenchmark_query_exchanges he hm s, ?_⟩
  intro pre m queries rest s s₁ outcomes hm hn hq h
  have ⟨scale, hl, before, r, hb, hr⟩ : ∃ scale ∈ m.catalog.scales.getLast?, ∃ before r,
      b.exchanges (·.runAll (pre ++ [m])) s = before ++ [client scale r] ∧
      b.engine.isRunning s₁.world = true := by
    have ⟨o₁, s₀, hp, h⟩ := Action.bind_eq_ok.mp (runAll_append ▸ h)
    have ⟨o₂, s₂, h, hs⟩ := Action.bind_eq_ok.mp h
    have ⟨o₃, s₃, h, hs'⟩ := Action.bind_eq_ok.mp h
    cases hs
    cases hs'
    have ⟨hr, scale, hl, before, r, hb⟩ := runBenchmark_load_last he hm hn h
    refine ⟨scale, hl, b.exchanges (·.runAll pre) s ++ before, r, ?_, hr⟩
    rw [exchanges_runAll_ok [m] hp, List.append_assoc, ← hb]
    simp only [exchanges, calls, runAll, pure_bind, Action.after_map]
  obtain ⟨after, ha⟩ := b.exchanges_runAll_append (pre ++ [m] ++ queries) rest s
  have hx := exchanges_runAll_ok queries h
  refine ⟨scale, hl, before, r, b.exchanges (·.runAll queries) s₁, after, hb, hb ▸ hx, ?calls,
    ?queries⟩
  case calls => rw [ha, hx, hb]
  case queries => exact runAll_query_exchanges he hq hr

-- The last scale of the load is aborted here, and the queries meet its server all the same.
theorem queries_keep_server_tiers :
    let b : Bench Script := ⟨Script.engine, .abortScale⟩
    let failing : Take := ⟨⟨some 1, 0, false⟩, none, false⟩
    let s : State Script :=
      ⟨{ Script.blank false with takes := [.success, .success, .success, failing] }, [], []⟩
    Exchange.Query (.tiers .query) false (b.exchanges (·.runBenchmark (.tiers .query)) s) ∧
    ∃ scale ∈ (Benchmark.tiers .load).catalog.scales.getLast?, ∃ before r clients after,
      b.exchanges (·.runAll [.tiers .load]) s = before ++ [client scale r] ∧
      b.exchanges (·.runAll [.tiers .load, .tiers .query]) s =
        before ++ [client scale r] ++ clients ∧
      b.exchanges (·.runAll [.tiers .load, .tiers .query, .tiers .load]) s =
        before ++ [client scale r] ++ clients ++ after ∧
      ∀ x ∈ clients, ∃ q ∈ [Benchmark.tiers .query], x.ClientOf q := by
  intro b failing s
  have ⟨hq, hh⟩ := queries_keep_server (b := b) Script.engine_lawful.toSteady
  have ⟨outcomes, s₁, h⟩ : ∃ outcomes s₁, b.runAll ([] ++ [.tiers .load]) s = .ok outcomes s₁ :=
    Action.exists_ok (by decide +kernel)
  refine ⟨hq _ s rfl, ?_⟩
  exact hh [] (.tiers .load) [.tiers .query] [.tiers .load] s s₁ outcomes rfl nofun
    (List.forall_mem_singleton.mpr rfl) h

end Bench

end EngineBench
