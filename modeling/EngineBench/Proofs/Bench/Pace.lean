import EngineBench.Bench.Agenda
import EngineBench.Proofs.Bench.FailFast
import EngineBench.Proofs.Bench.Reports

namespace EngineBench

open Engine
open Engine.Exchange (Kind)

namespace Engine.Moment

variable {σ : Type} {moments before late : List (Moment σ)} {m : Moment σ}

theorem sinceLook_concat : sinceLook (moments ++ [m]) =
    if m.exchange.isPassed then [] else sinceLook moments ++ [m.exchange.kind] := by
  simp only [sinceLook, List.foldl_append, List.foldl_cons, List.foldl_nil]

theorem sinceLook_append (h : ∀ m ∈ late, m.exchange ≠ .shutdownSeen false) :
    sinceLook (before ++ late) = sinceLook before ++ kinds late := by
  induction late generalizing before
  case nil               => simp [kinds]
  case cons m late hi =>
    have ⟨hm, hl⟩ := List.forall_mem_cons.mp h
    have hp : m.exchange.isPassed = false := by
      cases hx : m.exchange
      case shutdownSeen seen =>
        cases seen
        case true  => rfl
        case false => exact absurd hx hm
      all_goals rfl
    have ha : before ++ m :: late = before ++ [m] ++ late := by simp
    rw [ha, hi hl, sinceLook_concat, hp]
    simp [kinds]

theorem results_singleton : results [m] = m.exchange.result?.toList := by
  simp only [results, List.filterMap_cons, List.filterMap_nil]
  cases m.exchange.result? <;> rfl

theorem results_append : results (before ++ late) = results before ++ results late :=
  List.filterMap_append

end Engine.Moment

namespace Agenda

variable {policy : FailurePolicy} {agenda rest : Agenda} {scale : Scale} {left : Nat}
  {r : Invocation} {rs rs' : List Invocation}

theorem after_append :
    agenda.after policy (rs ++ rs') = (agenda.after policy rs).after policy rs' :=
  List.foldl_append

-- Some clients of a scale are due, and then the rest.
def due (scale : Scale) : Nat → Agenda → Agenda
  | 0, rest        => rest
  | left + 1, rest => (scale, left + 1) :: rest

theorem next_abort (h : policy = .abortScale ∧ ¬r.succeeded) :
    next policy (due scale (left + 1) rest) r = rest := by
  simp [next, due, h]

theorem next_due (h : policy = .abortScale → r.succeeded) :
    next policy (due scale (left + 1) rest) r = due scale left rest := by
  cases left
  case zero => simp [next, due]
  case succ => simpa [next, due] using h

theorem of_append {scales scales' : List Scale} :
    of (scales ++ scales') = of scales ++ of scales' :=
  List.map_append

theorem scales_of (xs : List Scale) : (of xs).scales = xs := by
  simp [of, scales, Function.comp_def]

theorem due_of {scales : List Scale} :
    of (scale :: scales) ++ rest = due scale scale.iterations (of scales ++ rest) := by
  have hs := scale.runs
  simp only [of, List.map_cons, List.cons_append]
  generalize scale.iterations = n at *
  cases n
  case zero => cases hs
  case succ => rfl

end Agenda

namespace Engine

-- Since the last look that found nothing no kind of call was made twice, and none but some. Some of
-- the agenda is left.
structure Pace (policy : FailurePolicy) (agenda : Agenda) (ks : List Kind) (left : Agenda)
    (moments : List (Moment σ)) : Prop where
  nodup : (Moment.sinceLook moments).Nodup
  mem   : ∀ k ∈ Moment.sinceLook moments, k ∈ ks
  left  : agenda.after policy (Moment.results moments) = left

namespace Pace

variable {σ : Type} {policy : FailurePolicy} {agenda left : Agenda} {ks ks' : List Kind}
  {moments : List (Moment σ)} {m : Moment σ}

theorem mono (h : Pace policy agenda ks left moments) (hk : ∀ k ∈ ks, k ∈ ks') :
    Pace policy agenda ks' left moments :=
  ⟨h.nodup, fun k hm => hk k (h.mem k hm), h.left⟩

theorem concat (h : Pace policy agenda ks left moments) (hk : m.exchange.kind ∉ ks) :
    Pace policy agenda (m.exchange.kind :: ks)
      (left.after policy (Moment.results [m])) (moments ++ [m]) := by
  have hl : agenda.after policy (Moment.results (moments ++ [m])) =
      left.after policy (Moment.results [m]) := by
    rw [Moment.results_append, Agenda.after_append, h.left]
  cases hp : m.exchange.isPassed
  case true =>
    have hs : Moment.sinceLook (moments ++ [m]) = [] := by simp [Moment.sinceLook_concat, hp]
    exact ⟨hs ▸ List.nodup_nil, fun k hk => by simp [hs] at hk, hl⟩
  case false =>
    have hs : Moment.sinceLook (moments ++ [m]) =
        Moment.sinceLook moments ++ [m.exchange.kind] := by simp [Moment.sinceLook_concat, hp]
    have hn : m.exchange.kind ∉ Moment.sinceLook moments := fun hm => hk (h.mem _ hm)
    refine ⟨?nodup, fun k hm => ?kinds, hl⟩
    case nodup => rw [hs]; exact List.nodup_append.mpr ⟨h.nodup, by simp, by grind⟩
    case kinds =>
      rw [hs] at hm
      cases List.mem_append.mp hm
      case inl hm => exact List.mem_cons_of_mem _ (h.mem k hm)
      case inr hm => exact List.mem_singleton.mp hm ▸ List.mem_cons_self

theorem pass (h : Pace policy agenda ks left moments) (hm : m.exchange = .shutdownSeen false) :
    Pace policy agenda [] left (moments ++ [m]) := by
  have hs : Moment.sinceLook (moments ++ [m]) = [] := by
    simp [Moment.sinceLook_concat, hm, Exchange.isPassed]
  have hr : Moment.results (moments ++ [m]) = Moment.results moments := by
    simp [Moment.results, hm, Exchange.result?]
  exact ⟨hs ▸ List.nodup_nil, fun k hk => by simp [hs] at hk, hr ▸ h.left⟩

section

variable {α : Type} {w : List (Moment σ) × σ}

-- A call or look of a new kind, whatever it comes to, as long as it is no client that answers.
theorem recorded_ends {exchange : Except Abort α → Exchange} {x : Action σ α} {k : Kind}
    (hk : k ∉ ks) (he : ∀ a, (exchange a).kind = k)
    (h : Pace policy agenda ks left w.1) :
    (recorded exchange x).Ends w
      (fun a w' => Pace policy agenda (k :: ks)
        (left.after policy (exchange (.ok a)).result?.toList) w'.1)
      (fun e w' => Pace policy agenda (k :: ks)
        (left.after policy (exchange (.error e)).result?.toList) w'.1) := by
  have hm (a : Except Abort α) (s' : σ) : Pace policy agenda (k :: ks)
      (left.after policy (exchange a).result?.toList) (w.1 ++ [⟨exchange a, w.2, s'⟩]) := by
    have hc := h.concat (m := ⟨exchange a, w.2, s'⟩) ((he a).symm ▸ hk)
    simpa only [he a, Moment.results_singleton] using hc
  simp only [Action.Ends, recorded]
  cases x w.2
  case ok a s    => exact hm (.ok a) s
  case error e s => exact hm (.error e) s

end

end Pace

end Engine

namespace Bench

-- With a verdict that aborts nothing is left of a scale.
def Verdict.left (n : Nat) : Verdict → Nat
  | .goOn _  => n
  | .abort _ => 0

variable {σ : Type} {b : Bench σ} {policy : FailurePolicy} {agenda left rest : Agenda}
  {ks : List Kind} {t : State (List (Moment σ) × σ)} {name : String} {mode : Mode} {scale : Scale}
  {iteration n : Nat} {a : Accumulator}

-- The kinds of calls and looks that a record has.
def allKinds : List Kind :=
  [.run, .start, .reset, .stop, .look]

section

variable (h : Pace b.policy agenda ks left t.world.1) (hs : ∀ k ∈ ks, k ∈ allKinds)

include h hs

-- A call of a new kind other than a client.
theorem call_paced {exchange : Except Abort Unit → Exchange} {x : Action σ Unit} {k : Kind}
    (hk : k ∉ ks) (hm : k ∈ allKinds) (he : ∀ a, (exchange a).kind = k)
    (hr : ∀ a, (exchange a).result? = none) :
    (onEngine (recorded exchange x)).Ends t
      (fun _ t' => Pace b.policy agenda (k :: ks) left t'.world.1)
      (fun _ t' => Pace b.policy agenda allKinds left t'.world.1) := by
  have hc := h.recorded_ends hk he (x := x)
  simp only [hr] at hc
  exact onEngine_ends (hc.imp_error fun _ _ h => h.mono (List.forall_mem_cons.mpr ⟨hm, hs⟩))

theorem stop_paced (hk : .stop ∉ ks) :
    (onEngine b.recording.engine.stop).Ends t
      (fun _ t' => Pace b.policy agenda (.stop :: ks) left t'.world.1)
      (fun _ t' => Pace b.policy agenda allKinds left t'.world.1) :=
  call_paced h hs hk (by decide) (fun _ => rfl) fun _ => rfl

theorem reset_paced (hk : .reset ∉ ks) :
    (onEngine b.recording.engine.resetState).Ends t
      (fun _ t' => Pace b.policy agenda (.reset :: ks) left t'.world.1)
      (fun _ t' => Pace b.policy agenda allKinds left t'.world.1) :=
  call_paced h hs hk (by decide) (fun _ => rfl) fun _ => rfl

theorem start_paced (hk : .start ∉ ks) :
    (onEngine b.recording.engine.start).Ends t
      (fun _ t' => Pace b.policy agenda (.start :: ks) left t'.world.1)
      (fun _ t' => Pace b.policy agenda allKinds left t'.world.1) :=
  call_paced h hs hk (by decide) (fun _ => rfl) fun _ => rfl

theorem checkShutdown_paced (hk : .look ∉ ks) :
    b.recording.checkShutdown.Ends t
      (fun _ t' => Pace b.policy agenda [] left t'.world.1)
      (fun _ t' => Pace b.policy agenda allKinds left t'.world.1) := by
  have hm : ∀ k ∈ .look :: ks, k ∈ allKinds := List.forall_mem_cons.mpr ⟨by decide, hs⟩
  exact checkShutdown_ends_of (Q := fun w : List (Moment σ) × σ => Pace b.policy agenda [] left w.1)
    (E := fun _ w => Pace b.policy agenda allKinds left w.1)
    (fun hs => h.pass (congrArg Exchange.shutdownSeen hs))
    fun _ => (h.concat (m := ⟨.shutdownSeen _, t.world.2, _⟩) hk).mono hm

end

-- A client that answers brings the agenda forward.
theorem runTimed_paced (scale : Scale) (h : Pace b.policy agenda [] left t.world.1) :
    (b.recording.runTimed scale).Ends t
      (fun p t' => Pace b.policy agenda [.run] (left.next b.policy p.1) t'.world.1)
      (fun _ t' => Pace b.policy agenda [.run] left t'.world.1) :=
  runTimed_ends_of
    (Q := fun r (w : List (Moment σ) × σ) => Pace b.policy agenda [.run] (left.next b.policy r) w.1)
    (E := fun _ w => Pace b.policy agenda [.run] left w.1)
    (h.recorded_ends List.not_mem_nil (fun _ => rfl)) (fun _ _ h => h) (fun _ _ h => h)

theorem logged_record (records : Log) {E : Abort → State (List (Moment σ) × σ) → Prop} :
    (b.recording.logged records).Ends t (fun _ t' => t'.world.1 = t.world.1) E :=
  rfl

theorem logAll_record (logs : List Log) {E : Abort → State (List (Moment σ) × σ) → Prop} :
    (b.recording.logAll logs).Ends t (fun _ t' => t'.world.1 = t.world.1) E := by
  induction logs generalizing t
  case nil                  => exact .pure rfl
  case cons records rest hi =>
    exact (logged_record records).bind fun _ _ h => hi.imp (fun _ _ h' => h'.trans h) fun _ _ h => h

-- A verdict is always reached while counts fit, and nothing is asked for it.
theorem judge_record {s : Sample} (ha : a.Counts scale iteration) (hi : iteration < maxCount)
    (hs : s.label = scale.label) {E : Abort → State (List (Moment σ) × σ) → Prop} :
    (b.recording.judge a s).Ends t
      (fun v t' => (t'.world.1 = t.world.1 ∧ v.Counts scale (iteration + 1)) ∧
        v.Fits b.policy a s) E := by
  refine .and ?_ (judge_ends a s t)
  obtain ⟨logs, r, hj, hc⟩ := exists_judge_eq b.policy a s
  obtain ⟨v, rfl, hv⟩ := hc scale iteration ha hi hs
  rw [hj b.recording rfl]
  exact (logAll_record logs).bind fun _ _ h => .pure ⟨h, hv⟩

-- What may have been asked for when some clients of a scale are due. After the last of them there
-- is no restart.
def asked : Nat → List Kind
  | 0     => [.run]
  | _ + 1 => [.run, .start, .reset, .stop]

-- A run was cut off before a scale was through.
def CutIn (policy : FailurePolicy) (agenda : Agenda) (scale : Scale) (rest : Agenda)
    (moments : List (Moment σ)) : Prop :=
  ∃ left, Pace policy agenda allKinds (.due scale (left + 1) rest) moments

theorem restart_paced (h : Pace b.policy agenda [.run] left t.world.1) :
    (onEngine b.recording.engine.restart).Ends t
      (fun _ t' => Pace b.policy agenda [.start, .stop, .run] left t'.world.1)
      (fun _ t' => Pace b.policy agenda allKinds left t'.world.1) := by
  rw [onEngine_restart]
  exact (stop_paced h (by decide) (by decide)).bind fun _ _ h =>
    start_paced h (by decide) (by decide)

theorem betweenIterations_paced (hi : iteration < maxCount)
    (hl : iteration + 1 + n = scale.iterations)
    (h : Pace b.policy agenda [.run] (.due scale n rest) t.world.1) :
    (b.recording.betweenIterations mode scale iteration).Ends t
      (fun _ t' => Pace b.policy agenda (asked n) (.due scale n rest) t'.world.1)
      (fun _ t' => CutIn b.policy agenda scale rest t'.world.1) := by
  cases mode
  case query => exact .pure (h.mono (by cases n <;> simp [asked]))
  case load =>
    simp only [betweenIterations, if_pos, nextCount_eq_ok_iff.mpr ⟨hi, rfl⟩, Action.ofBreach,
      pure_bind]
    cases n
    case zero =>
      rw [if_neg (by omega)]
      exact .pure h
    case succ n =>
      rw [if_pos (by omega)]
      exact (restart_paced h).imp (fun _ _ h => h.mono (by simp [asked])) (fun _ _ h => ⟨n, h⟩)

theorem iterate_paced (hm : scale.iterations ≤ maxCount)
    (hn : iteration + 1 + n = scale.iterations) (ha : a.Counts scale iteration)
    (h : Pace b.policy agenda (asked (n + 1)) (.due scale (n + 1) rest) t.world.1) :
    (b.recording.iterate name mode scale iteration a).Ends t
      (fun v t' => Pace b.policy agenda (asked (v.left n)) (.due scale (v.left n) rest) t'.world.1 ∧
        v.Counts scale (iteration + 1))
      (fun _ t' => CutIn b.policy agenda scale rest t'.world.1) := by
  have hi : iteration < maxCount := by omega
  have hc := checkShutdown_paced h (by simp [asked, allKinds]) (by simp [asked])
  refine (hc.imp_error fun _ _ h => ⟨n, h⟩).bind fun _ t₁ h₁ => ?_
  have hr := runTimed_paced scale h₁
  refine (hr.imp_error fun _ _ h => ⟨n, h.mono (by decide)⟩).bind fun p t₂ h₂ => ?_
  refine (logged_record _).bind fun _ t₃ hl => ?_
  refine (judge_record (s := .of scale iteration p.2 p.1) ha hi rfl).bind fun v t₄ hj => ?_
  obtain ⟨⟨hj, hv⟩, hf⟩ := hj
  rw [← hl, ← hj] at h₂
  cases v
  case abort o =>
    rw [Agenda.next_abort (r := p.1) hf.right] at h₂
    exact .pure ⟨h₂, hv⟩
  case goOn a' =>
    rw [Agenda.next_due (r := p.1) hf.right] at h₂
    exact (betweenIterations_paced hi hn h₂).bind fun _ _ h => .pure ⟨h, hv⟩

theorem runIterations_paced (hm : scale.iterations ≤ maxCount)
    (hl : iteration + n = scale.iterations) (ha : a.Counts scale iteration)
    (h : Pace b.policy agenda (asked n) (.due scale n rest) t.world.1) :
    (b.recording.runIterations name mode scale n iteration a).Ends t
      (fun _ t' => Pace b.policy agenda [.run] rest t'.world.1)
      (fun _ t' => CutIn b.policy agenda scale rest t'.world.1) := by
  induction n generalizing iteration a t
  case zero => exact .pure h
  case succ n hd =>
    rw [runIterations_succ]
    refine (iterate_paced hm (by omega) ha h).bind fun v t₁ h₁ => ?_
    cases v
    case abort  => exact .pure h₁.left
    case goOn a => exact hd (by omega) h₁.right h₁.left

-- What may have been asked for when a scale begins.
def idle : Mode → List Kind
  | .load  => [.run]
  | .query => [.start, .run]

theorem prepareScale_paced (h : Pace b.policy agenda (idle mode) left t.world.1) :
    (b.recording.prepareScale mode).Ends t
      (fun _ t' => Pace b.policy agenda [.run, .start, .reset, .stop] left t'.world.1)
      (fun _ t' => Pace b.policy agenda allKinds left t'.world.1) := by
  cases mode
  case query => exact .pure (h.mono (by decide))
  case load =>
    have hd {t : State (List (Moment σ) × σ)}
        (h : Pace b.policy agenda [.stop, .run] left t.world.1) :
        (onEngine b.recording.engine.resetState >>= fun _ =>
          onEngine b.recording.engine.start).Ends t
          (fun _ t' => Pace b.policy agenda [.run, .start, .reset, .stop] left t'.world.1)
          (fun _ t' => Pace b.policy agenda allKinds left t'.world.1) :=
      (reset_paced h (by decide) (by decide)).bind fun _ _ h =>
        (start_paced h (by decide) (by decide)).imp (fun _ _ h => h.mono (by decide)) fun _ _ h => h
    have hr : b.recording.isRunning.Ends t
        (fun _ t' => Pace b.policy agenda [.run] left t'.world.1)
        (fun _ t' => Pace b.policy agenda allKinds left t'.world.1) := h
    refine hr.bind fun r t₁ h₁ => ?_
    split
    case isFalse => exact hd (h₁.mono (by decide))
    case isTrue  => exact (stop_paced h₁ (by decide) (by decide)).bind fun _ _ h => hd h

theorem runScale_paced (name : String) (hm : scale.iterations ≤ maxCount)
    (h : Pace b.policy agenda (idle mode) (.due scale scale.iterations rest) t.world.1) :
    (b.recording.runScale name mode scale).Ends t
      (fun _ t' => Pace b.policy agenda [.run] rest t'.world.1)
      (fun _ t' => CutIn b.policy agenda scale rest t'.world.1) := by
  obtain ⟨n, hn⟩ : ∃ n, scale.iterations = n + 1 :=
    Nat.exists_eq_succ_of_ne_zero (Nat.ne_of_gt scale.runs)
  rw [hn] at h
  refine ((prepareScale_paced h).imp_error fun _ _ h => ⟨n, h⟩).bind fun _ t₁ h₁ => ?_
  exact runIterations_paced hm (Nat.zero_add _) (.new scale) (hn ▸ h₁)

end Bench

end EngineBench
