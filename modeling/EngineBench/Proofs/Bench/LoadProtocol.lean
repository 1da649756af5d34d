import EngineBench.Proofs.Bench.Growth
import EngineBench.Proofs.Bench.Over

namespace EngineBench

open Engine

namespace Engine.Exchange

-- A client that answered.
def client (scale : Scale) (r : Invocation) : Exchange :=
  run scale (.ok r)

-- The server is stopped and started again.
def restart : List Exchange :=
  [stop (.ok ()), start (.ok ())]

-- The server is stopped if one is running, and a new one is started on a reset state.
def renewal (running : Bool) : List Exchange :=
  (if running then [stop (.ok ())] else []) ++ [reset (.ok ()), start (.ok ())]

-- The clients of a scale, with a restart before each but the first.
def clients (scale : Scale) : List Invocation → List Exchange
  | []        => []
  | r :: rest => client scale r :: rest.flatMap fun r => restart ++ [client scale r]

-- Scale after scale. Each but the first finds the server of the one before.
def loading (running : Bool) : List (Scale × List Invocation) → List Exchange
  | []                       => []
  | (scale, results) :: rest => renewal running ++ clients scale results ++ loading true rest

theorem clients_cons {scale : Scale} {r : Invocation} {rs : List Invocation} (h : rs ≠ []) :
    clients scale (r :: rs) = [client scale r] ++ restart ++ clients scale rs := by
  cases rs
  case nil       => exact absurd rfl h
  case cons r rs => simp [clients]

theorem exists_clients_eq (scale : Scale) {rs : List Invocation} (h : rs ≠ []) :
    ∃ before r, clients scale rs = before ++ [client scale r] := by
  induction rs
  case nil => exact absurd rfl h
  case cons r rest hi =>
    by_cases hr : rest = []
    case pos => exact ⟨[], r, hr ▸ rfl⟩
    case neg =>
      have ⟨before, r', hb⟩ := hi hr
      exact ⟨[client scale r] ++ restart ++ before, r', by simp [clients_cons hr, hb]⟩

-- The last request of a load is a client of its last scale.
theorem exists_loading_eq (running : Bool) {served : List (Scale × List Invocation)} {scale : Scale}
    (hs : scale ∈ (served.map Prod.fst).getLast?) (hr : ∀ p ∈ served, p.2 ≠ []) :
    ∃ before r, loading running served = before ++ [client scale r] := by
  induction served generalizing running
  case nil => cases hs
  case cons p rest hi =>
    have ⟨hp, hr⟩ := List.forall_mem_cons.mp hr
    cases rest
    case nil =>
      cases hs
      have ⟨before, r, hb⟩ := exists_clients_eq p.1 hp
      exact ⟨renewal running ++ before, r, by simp [loading, hb]⟩
    case cons =>
      have ⟨before, r, hb⟩ := hi true hs hr
      refine ⟨renewal running ++ clients p.1 p.2 ++ before, r, ?_⟩
      rw [loading, hb]
      simp only [List.append_assoc]

end Engine.Exchange

namespace FailurePolicy

-- How many of the clients that are left are run: all, or those up to the first that does not
-- succeed.
def clientsDue (policy : FailurePolicy) (left : Nat) (results : List Invocation) : Nat :=
  match policy, results.findIdx? (!·.succeeded) with
  | .abortScale, some i => i + 1
  | _, _                => left

variable {policy : FailurePolicy} {r : Invocation} {rs : List Invocation} {left : Nat}

theorem clientsDue_last (h : policy = .abortScale → r.succeeded) : policy.clientsDue 1 [r] = 1 := by
  cases policy
  case abortScale => simp [clientsDue, h rfl]
  all_goals rfl

theorem clientsDue_abort (h : ¬r.succeeded) : abortScale.clientsDue left [r] = 1 := by
  simp [clientsDue, h]

theorem clientsDue_pos (h : 0 < left) : 0 < policy.clientsDue left rs := by
  simp only [clientsDue]
  split
  case h_1 => exact Nat.succ_pos _
  case h_2 => exact h

theorem clientsDue_cons (h : policy = .abortScale → r.succeeded) :
    policy.clientsDue (left + 1) (r :: rs) = policy.clientsDue left rs + 1 := by
  cases policy
  case abortScale =>
    simp only [clientsDue, List.findIdx?_cons, h rfl]
    cases rs.findIdx? (!·.succeeded) <;> rfl
  all_goals rfl

end FailurePolicy

namespace View

def exchanges (v : View) : List Exchange :=
  v.calls.map (·.exchange)

theorem exchanges_add {v : View} {x : Exchange} {r : Bool} :
    (v.add x r).exchanges = v.exchanges ++ [x] := by
  simp [exchanges, add]

-- Since the first view some calls were made, and now the server is running.
structure Through (xs : List Exchange) (v v' : View) : Prop where
  exchanges : v'.exchanges = v.exchanges ++ xs
  running   : v'.running = true

theorem Through.trans {xs ys : List Exchange} {v v₁ v₂ : View} (h : v.Through xs v₁)
    (h' : v₁.Through ys v₂) : v.Through (xs ++ ys) v₂ :=
  ⟨by rw [h'.exchanges, h.exchanges, List.append_assoc], h'.running⟩

-- Some scales were gone through, each on a server of its own.
def Loaded (policy : FailurePolicy) (scales : List Scale) (v v' : View) : Prop :=
  ∃ served : List (Scale × List Invocation), served.map Prod.fst = scales ∧
    (∀ p ∈ served, p.2.length = policy.clientsDue p.1.iterations p.2) ∧
    v'.exchanges = v.exchanges ++ Exchange.loading v.running served ∧
    (v.running = true ∨ scales ≠ [] → v'.running = true)

end View

namespace Engine

variable {σ α : Type} {e : Engine σ} {w : List Note × σ}

theorem noted_exchanges (exchange : Except Abort α → Exchange) (hc : ∀ a, (exchange a).isCall)
    {x : Action σ α} :
    (e.noted exchange x).Ends w
      (fun a w' => (e.view w').exchanges = (e.view w).exchanges ++ [exchange (.ok a)])
      (fun _ _ => True) := by
  refine (noted_ends exchange hc .any).imp (fun _ _ h => ?_) (fun _ _ _ => trivial)
  rw [h.left, View.exchanges_add]

theorem Steady.start_through (he : e.Steady) :
    e.noting.start.Ends w (fun _ w' => (e.view w).Through [.start (.ok ())] (e.view w'))
      (fun _ _ => True) := by
  refine he.start_ends.imp (fun _ _ h => ?_) (fun _ _ _ => trivial)
  exact h ▸ ⟨View.exchanges_add, rfl⟩

theorem Steady.restart_through (he : e.Steady) :
    e.noting.restart.Ends w (fun _ w' => (e.view w).Through Exchange.restart (e.view w'))
      (fun _ _ => True) := by
  refine (noted_exchanges .stop fun _ => rfl).bind fun _ w₁ h₁ => ?_
  refine he.start_through.imp (fun _ w₂ h₂ => ?_) (fun _ _ h => h)
  exact ⟨by rw [h₂.exchanges, h₁, List.append_assoc]; rfl, h₂.running⟩

end Engine

namespace Bench

open Engine.Exchange (client clients)

variable {σ : Type} {b : Bench σ} {t : State (List Note × σ)} {name : String} {scale : Scale}

theorem Quiet.same {α : Type} {x : Action (State (List Note × σ)) α} (hx : b.Quiet x) :
    x.Ends t (fun _ t' => b.view t' = b.view t) (fun _ _ => True) :=
  hx.ends.imp (fun _ _ h => h) (fun _ _ _ => trivial)

section

variable (he : b.engine.Steady)

include he

theorem betweenIterations_load (iteration : Nat) (hr : (b.view t).running = true) :
    (b.noting.betweenIterations .load scale iteration).Ends t
      (fun _ t' => (b.view t).Through
        (if iteration + 1 < scale.iterations then Exchange.restart else []) (b.view t'))
      (fun _ _ => True) := by
  have hq : b.Quiet (Action.ofBreach (nextCount iteration)) := .ofBreach _
  refine .bind (hq.same.and (ofBreach_ends _ t)) fun next t₁ ⟨h₁, hn⟩ => ?_
  rw [← (nextCount_eq_ok_iff.mp hn).right, ← h₁]
  split
  case isTrue  => exact onEngine_ends he.restart_through
  case isFalse => exact .pure ⟨(List.append_nil _).symm, h₁ ▸ hr⟩

-- A verdict says whether the client succeeded, and the server is restarted if there is a next one.
theorem iterate_load (iteration : Nat) (a : Accumulator) (hr : (b.view t).running = true) :
    (b.noting.iterate name .load scale iteration a).Ends t
      (fun verdict t' => ∃ r, match verdict with
        | .abort _ => b.policy = .abortScale ∧ ¬r.succeeded ∧
          (b.view t).Through [client scale r] (b.view t')
        | .goOn _  => (b.policy = .abortScale → r.succeeded) ∧
          (b.view t).Through ([client scale r] ++
            if iteration + 1 < scale.iterations then Exchange.restart else []) (b.view t'))
      (fun _ _ => True) := by
  refine .bind (Quiet.checkShutdown he).same fun _ t₁ h₁ => ?_
  refine .bind ((runTimed_ends he scale).imp (fun _ _ h => h) (fun _ _ _ => trivial)) ?_
  intro (r, duration) t₂ h₂
  refine .bind (Quiet.logged he _).same fun _ t₃ h₃ => ?_
  have hj := (Quiet.judge he a (Sample.of scale iteration duration r)).same (t := t₃)
  refine (hj.and (judge_ends _ _ _)).bind fun verdict t₄ ⟨h₄, hv⟩ => ?_
  have hc : (b.view t).Through [client scale r] (b.view t₄) := by
    rw [h₄, h₃, h₂, h₁]
    exact ⟨View.exchanges_add, hr⟩
  cases verdict
  case abort o =>
    have ⟨_, hp, hs⟩ := hv
    exact .pure ⟨r, hp, hs, hc⟩
  case goOn a =>
    refine .bind (betweenIterations_load he iteration hc.running) fun _ t₅ h₅ => ?_
    exact .pure ⟨r, hv.right, hc.trans h₅⟩

-- The clients that are left find the server running, the first as the others.
theorem runIterations_load (left iteration : Nat) (a : Accumulator)
    (hi : iteration + (left + 1) = scale.iterations) (hr : (b.view t).running = true) :
    (b.noting.runIterations name .load scale (left + 1) iteration a).Ends t
      (fun _ t' => ∃ rs, rs ≠ [] ∧ rs.length = b.policy.clientsDue (left + 1) rs ∧
        (b.view t).Through (clients scale rs) (b.view t'))
      (fun _ _ => True) := by
  induction left generalizing iteration a t
  case zero =>
    rw [runIterations_succ]
    refine (iterate_load he iteration a hr).bind fun verdict t₁ h₁ => ?_
    cases verdict
    case abort =>
      have ⟨r, hp, hs, hv⟩ := h₁
      exact .pure ⟨[r], nofun, hp ▸ (FailurePolicy.clientsDue_abort hs).symm, hv⟩
    case goOn a =>
      have ⟨r, hp, hv⟩ := h₁
      rw [if_neg (by omega)] at hv
      exact .pure ⟨[r], nofun, (FailurePolicy.clientsDue_last hp).symm, hv⟩
  case succ left hd =>
    rw [runIterations_succ]
    refine (iterate_load he iteration a hr).bind fun verdict t₁ h₁ => ?_
    cases verdict
    case abort =>
      have ⟨r, hp, hs, hv⟩ := h₁
      exact .pure ⟨[r], nofun, hp ▸ (FailurePolicy.clientsDue_abort hs).symm, hv⟩
    case goOn a =>
      have ⟨r, hp, hv⟩ := h₁
      rw [if_pos (by omega)] at hv
      refine (hd (iteration + 1) a (by omega) hv.running).imp (fun _ t₂ h₂ => ?_) (fun _ _ h => h)
      have ⟨rs, hn, hc, hv'⟩ := h₂
      refine ⟨r :: rs, nofun, FailurePolicy.clientsDue_cons hp ▸ congrArg (· + 1) hc, ?_⟩
      exact Exchange.clients_cons hn ▸ hv.trans hv'

theorem prepareScale_load :
    (b.noting.prepareScale .load).Ends t
      (fun _ t' => (b.view t).Through (Exchange.renewal (b.view t).running) (b.view t'))
      (fun _ _ => True) := by
  have hd (t : State (List Note × σ)) :
      (do onEngine b.noting.engine.resetState; onEngine b.noting.engine.start).Ends t
        (fun _ t' => (b.view t).Through (Exchange.renewal false) (b.view t'))
        (fun _ _ => True) := by
    refine .bind (onEngine_ends (noted_exchanges .reset fun _ => rfl)) fun _ t₁ h₁ => ?_
    refine (onEngine_ends (s := t₁) he.start_through).imp (fun _ t₂ h₂ => ?_) (fun _ _ h => h)
    refine ⟨h₂.exchanges.trans ?_, h₂.running⟩
    rw [h₁, List.append_assoc]
    rfl
  refine isRunning_ends.bind fun r t' ⟨ht, hr⟩ => ?_
  subst ht
  split
  case isFalse hr' =>
    have hr' : (b.view t').running = false := by simpa [hr] using hr'
    exact hr' ▸ hd t'
  case isTrue hr' =>
    have hr' : (b.view t').running = true := hr ▸ hr'
    refine .bind (onEngine_ends (noted_exchanges .stop fun _ => rfl)) fun _ t₁ h₁ => ?_
    refine (hd t₁).imp (fun _ t₂ h₂ => ⟨h₂.exchanges.trans ?_, h₂.running⟩) (fun _ _ h => h)
    rw [hr', show (b.view t₁).exchanges = _ from h₁, List.append_assoc]
    rfl

theorem runScale_load :
    (b.noting.runScale name .load scale).Ends t
      (fun _ t' => ∃ rs, rs ≠ [] ∧ rs.length = b.policy.clientsDue scale.iterations rs ∧
        (b.view t).Through (Exchange.renewal (b.view t).running ++ clients scale rs) (b.view t'))
      (fun _ _ => True) := by
  refine (prepareScale_load he).bind fun _ t₁ h₁ => ?_
  have ⟨left, hi⟩ := Nat.exists_eq_add_one.mpr scale.runs
  rw [hi]
  refine (runIterations_load he left 0 (.new scale) (by omega) h₁.running).imp
    (fun _ t₂ h₂ => ?_) (fun _ _ h => h)
  have ⟨rs, hn, hc, hv⟩ := h₂
  exact ⟨rs, hn, hc, h₁.trans hv⟩

theorem runScales_load (scales : List Scale) :
    (b.noting.runScales name .load scales).Ends t
      (fun _ t' => (b.view t).Loaded b.policy scales (b.view t')) (fun _ _ => True) := by
  induction scales generalizing t
  case nil =>
    refine .pure ⟨[], rfl, List.forall_mem_nil _, (List.append_nil _).symm, fun h => ?_⟩
    exact h.resolve_right (absurd rfl)
  case cons scale rest hd =>
    refine (runScale_load he).bind fun outcome t₁ h₁ => ?_
    have ⟨rs, _, hc, hv⟩ := h₁
    refine .bind (Quiet.reportOutcome he name outcome).same fun _ t₂ h₂ => ?_
    refine hd.bind fun _ t₃ h₃ => .pure ?_
    have ⟨served, hs, hp, hv', hr⟩ := h₃
    have hu : (b.view t₂).running = true := h₂ ▸ hv.running
    refine ⟨(scale, rs) :: served, congrArg _ hs, List.forall_mem_cons.mpr ⟨hc, hp⟩, ?calls,
      ?running⟩
    case calls => rw [hv', hu, h₂, hv.exchanges, List.append_assoc]; rfl
    case running => exact fun _ => hr (.inl hu)

theorem runBenchmark_load {m : Benchmark} (hm : m.mode = .load) :
    (b.noting.runBenchmark m).Ends t
      (fun _ t' => (b.view t).Loaded b.policy m.catalog.scales (b.view t')) (fun _ _ => True) := by
  refine .bind (Quiet.logged he _).same fun _ t₁ h₁ => ?_
  rw [hm, ← h₁]
  exact runScales_load he _

end

theorem runBenchmark_loaded (he : b.engine.Steady) {m : Benchmark} (hm : m.mode = .load)
    {s s' : State σ} {outcomes : List Outcome} (h : b.runBenchmark m s = .ok outcomes s') :
    View.Loaded b.policy m.catalog.scales ⟨[], b.engine.isRunning s.world⟩
      ⟨b.calls (·.runBenchmark m) s, b.engine.isRunning s'.world⟩ := by
  have ⟨t, ht, hs⟩ := (runBenchmark_over b.noting_over m).of_ok (t := s.noted []) h
  have hl := (runBenchmark_load he hm).of_ok ht
  simp only [calls, Action.after, ht]
  exact hs ▸ hl

-- A load benchmark that is through has renewed the server once for every scale, whatever it found,
-- and has restarted it between the clients of a scale. The server of the last scale is left
-- running.
theorem runBenchmark_load_calls (he : b.engine.Steady) {m : Benchmark} (hm : m.mode = .load)
    {s s' : State σ} {outcomes : List Outcome} (h : b.runBenchmark m s = .ok outcomes s') :
    ∃ served : List (Scale × List Invocation), served.map Prod.fst = m.catalog.scales ∧
      (∀ p ∈ served, p.2.length = b.policy.clientsDue p.1.iterations p.2) ∧
      b.exchanges (·.runBenchmark m) s = Exchange.loading (b.engine.isRunning s.world) served ∧
      (m.catalog.scales ≠ [] → b.engine.isRunning s'.world = true) := by
  have ⟨served, hd, hp, hx, hr⟩ := runBenchmark_loaded he hm h
  exact ⟨served, hd, hp, hx, fun hn => hr (.inr hn)⟩

theorem runBenchmark_load_calls_tiers :
    ∃ (served : List (Scale × List Invocation)) (outcomes : List Outcome) (s' : State Script),
      (⟨Script.engine, .abortScale⟩ : Bench Script).runBenchmark (.tiers .load)
        ⟨Script.blank true, [], []⟩ = .ok outcomes s' ∧
      served.map Prod.fst = (Benchmark.tiers .load).catalog.scales ∧
      (∀ p ∈ served, p.2.length = FailurePolicy.abortScale.clientsDue p.1.iterations p.2) ∧
      (⟨Script.engine, .abortScale⟩ : Bench Script).exchanges (·.runBenchmark (.tiers .load))
        ⟨Script.blank true, [], []⟩ = Exchange.loading true served ∧
      s'.world.running = true := by
  have ⟨outcomes, s', h⟩ := Action.exists_ok
    (x := (⟨Script.engine, .abortScale⟩ : Bench Script).runBenchmark (.tiers .load))
    (s := ⟨Script.blank true, [], []⟩) (by decide +kernel)
  have ⟨served, hm, hp, hc, hr⟩ := runBenchmark_load_calls Script.engine_lawful.toSteady rfl h
  exact ⟨served, outcomes, s', h, hm, hp, hc, hr nofun⟩

end Bench

end EngineBench
