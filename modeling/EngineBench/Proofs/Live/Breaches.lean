import EngineBench.Live.Rehearsal
import EngineBench.Live.Timetable
import EngineBench.Options.CommandLine
import EngineBench.Proofs.Live.Exchanges
import EngineBench.Proofs.Live.Readiness

namespace EngineBench

open Host (Exchange)
open Session

variable {σ α β : Type}

namespace Timer

-- A limit that begins now ends later than any moment.
def Unreachable (now limit : Duration) : Prop :=
  lastSecond < (⟨now.nanos + limit.nanos⟩ : Duration).wholeSecs

theorem after_unreachable {now limit : Duration} (h : Unreachable now limit) :
    after now limit = .error .deadlineOverflow := by
  have hm : moment? now limit = none := if_neg (Nat.not_le_of_lt h)
  simp only [after, after?, hm, Option.map_none]

theorem after_reachable {now limit : Duration} (h : ¬Unreachable now limit) :
    ∃ t, after now limit = .ok t := by
  have hm : moment? now limit = some ⟨now.nanos + limit.nanos⟩ := if_pos (Nat.le_of_not_lt h)
  simp only [after, after?, hm, Option.map_some]
  exact ⟨_, rfl⟩

theorem unreachable_ofSecs_iff {now : Duration} {secs : Nat} :
    Unreachable now (.ofSecs secs) ↔ lastSecond < now.wholeSecs + secs := by
  have h : (⟨now.nanos + (Duration.ofSecs secs).nanos⟩ : Duration).wholeSecs =
      now.wholeSecs + secs := Nat.add_mul_div_right _ _ (by decide)
  rw [Unreachable, h]

end Timer

namespace Session

theorem spawned_never_breaches (h : Host σ) (command : Host.Command) (refused : OsError → Fault) :
    (spawned h command refused).NeverBreaches := by
  refine .bind (.of_ok fun _ => ⟨_, _, rfl⟩) fun answer => ?_
  cases answer
  case ok    => exact fun _ => trivial
  case error => exact .fail _

theorem never_breaches_relates (h : Host σ) :
    RelatesFaults (fun _ x (_ : Action (Session σ) _) => x.NeverBreaches) h h where
  pure _        := .of_ok fun _ => ⟨_, _, rfl⟩
  bind          := .bind
  fail          := .fail
  running hx hy := .bind (.of_ok fun _ => ⟨_, _, rfl⟩) fun _ => .ite hx hy
  clock _       := .of_ok fun _ => ⟨_, _, rfl⟩
  ask _ _       := .of_ok fun _ => ⟨_, _, rfl⟩
  note _        := .of_ok fun _ => ⟨_, _, rfl⟩
  heed          := .of_ok fun _ => ⟨_, _, rfl⟩
  lending command refused _ _ hf := .bind (spawned_never_breaches h command refused) fun pid s =>
    releasing_ends (hf pid s)

end Session

-- A limit that is out of reach from the first instant that the clock showed.
def Overdue (limit : Duration) (xs : List Exchange) : Prop :=
  ∃ t, xs.findSome? Exchange.clock? = some t ∧ Timer.Unreachable t limit

section

variable {limit t : Duration} {xs ys : List Exchange}

theorem overdue_now_iff : Overdue limit (⟨.now, t⟩ :: xs) ↔ Timer.Unreachable t limit := by
  have h : (⟨.now, t⟩ :: xs).findSome? Exchange.clock? = some t := rfl
  simp only [Overdue, h, Option.some.injEq, exists_eq_left']

theorem overdue_append_iff (hy : ∀ y ∈ ys, y.clock? = none) :
    Overdue limit (ys ++ xs) ↔ Overdue limit xs := by
  simp only [Overdue, List.findSome?_append, List.findSome?_eq_none_iff.mpr hy, Option.none_or]

theorem not_overdue (hx : ∀ x ∈ xs, x.clock? = none) : ¬Overdue limit xs := by
  simp [Overdue, List.findSome?_eq_none_iff.mpr hx]

end

-- An end of an activity that breaches if and only if its limit was out of reach.
def Reckoned (limit : Duration) (e : Abort) (xs : List Exchange) : Prop :=
  ∀ p, e = .breach p ↔ p = .deadlineOverflow ∧ Overdue limit xs

namespace Reckoned

variable {limit : Duration} {e : Abort} {xs : List Exchange}

theorem of_fault (he : ∃ f, e = .fault f) (hx : ¬Overdue limit xs) : Reckoned limit e xs := by
  intro p
  constructor
  case mp =>
    intro hp
    have ⟨f, hf⟩ := he
    cases hf.symm.trans hp
  case mpr => exact fun hp => absurd hp.right hx

theorem of_overdue (hx : Overdue limit xs) : Reckoned limit (.breach .deadlineOverflow) xs :=
  fun _ => ⟨fun hp => ⟨(Abort.breach.inj hp).symm, hx⟩,
    fun hp => congrArg Abort.breach hp.left.symm⟩

-- What is known of both endings, told of the answer.
theorem answer {x : Action σ α} {s : σ} {D : Prop} (hx : x.Ends s (fun _ _ => ¬Overdue limit xs)
    (fun e _ => Reckoned limit e xs ∧ (Overdue limit xs → D))) :
    (∀ p, x.answer s = .error (.breach p) ↔ p = .deadlineOverflow ∧ Overdue limit xs) ∧
      (Overdue limit xs → D) := by
  simp only [Action.Ends, Action.answer] at *
  cases hr : x s <;> simp only [hr] at hx ⊢
  case ok =>
    refine ⟨fun p => ⟨fun hp => ?_, fun hp => absurd hp.right hx⟩, fun ho => absurd ho hx⟩
    cases hp
  case error =>
    exact ⟨fun p => .trans ⟨Except.error.inj, congrArg Except.error⟩ (hx.left p), hx.right⟩

end Reckoned

-- An activity that looks at the clock and then reckons with a limit.
theorem Action.Adds.reckon_bind {h : Host σ} {limit : Duration}
    {f : Duration → Timer → Action (Session (List Exchange × σ)) α}
    (hf : ∀ now t, (f now t).Adds (fun _ _ => True) (fun e _ => ∃ f, e = .fault f)) :
    (ask h.noting .now >>= fun now => Action.ofBreach (Timer.after now limit) >>= f now).Adds
      (fun _ xs => ∃ t ys, xs = ⟨.now, t⟩ :: ys ∧ ¬Timer.Unreachable t limit)
      (fun e xs => ∃ t ys, xs = ⟨.now, t⟩ :: ys ∧ Reckoned limit e xs ∧
        (Timer.Unreachable t limit → ys = [])) := by
  refine .ask_bind fun (now : Duration) => ?_
  by_cases hu : Timer.Unreachable now limit
  case pos =>
    rw [Timer.after_unreachable hu]
    exact .throw ⟨now, [], rfl, .of_overdue (overdue_now_iff.mpr hu), fun _ => rfl⟩
  case neg =>
    have ⟨t, ht⟩ := Timer.after_reachable hu
    rw [ht]
    refine (hf now t).imp (fun _ ys _ => ⟨now, ys, rfl, hu⟩) fun e ys he => ?_
    exact ⟨now, ys, rfl, .of_fault he (mt overdue_now_iff.mp hu), fun h' => absurd h' hu⟩

namespace Action.Adds

variable {h : Host σ} {x : Action (Session (List Exchange × σ)) α} {P : α → List Exchange → Prop}
  {D : Abort → List Exchange → Prop}

theorem and_never_breaches (hx : x.Adds P D) (hn : x.NeverBreaches) :
    x.Adds P (fun e xs => D e xs ∧ ∃ f, e = .fault f) := by
  intro s
  have h₁ := hx s
  have h₂ := hn s
  simp only [Ends] at *
  cases hr : x s <;> simp only [hr] at h₁ h₂ ⊢
  case ok => exact h₁
  case error =>
    obtain ⟨xs, hw, hd⟩ := h₁
    exact ⟨xs, hw, hd, h₂⟩

end Action.Adds

namespace Server

variable {h : Host σ}

theorem removeIfThere_clocks (path : Path) :
    (removeIfThere h.noting path).Adds (fun _ xs => ∀ x ∈ xs, x.clock? = none)
      (fun _ xs => ∀ x ∈ xs, x.clock? = none) := by
  refine (removeIfThere_adds path).imp ?gone ?stuck
  case gone => rintro _ _ (rfl | rfl) <;> exact List.forall_mem_singleton.mpr rfl
  case stuck =>
    rintro _ _ ⟨e, _, _, rfl⟩
    exact List.forall_mem_singleton.mpr rfl

theorem clear_clocks (c : Config) :
    (clear h.noting c).Adds (fun _ xs => ∀ x ∈ xs, x.clock? = none)
      (fun _ xs => ∀ x ∈ xs, x.clock? = none) := by
  refine .ask_bind fun there => ?_
  cases there
  case false => exact .note (List.forall_mem_singleton.mpr rfl)
  case true =>
    refine .note_bind <| .bind ((removeIfThere_clocks c.socketPath).imp (fun _ _ hx => hx) ?stuck)
      fun _ xs hx => ?cleared
    case stuck => exact fun _ _ hx => List.forall_mem_cons.mpr ⟨rfl, hx⟩
    case cleared =>
      refine .note ?_
      rw [List.append_nil]
      exact List.forall_mem_cons.mpr ⟨rfl, hx⟩

theorem untilReady_reckons (c : Config) (pid : Pid) :
    (untilReady h.noting c pid).Adds
      (fun _ xs => ∃ t ys, xs = ⟨.now, t⟩ :: ys ∧ ¬Timer.Unreachable t c.readyTimeout)
      (fun e xs => ∃ t ys, xs = ⟨.now, t⟩ :: ys ∧ Reckoned c.readyTimeout e xs ∧
        (Timer.Unreachable t c.readyTimeout → ys = [])) := by
  refine .note_bind <| .reckon_bind fun now timer => ?_
  have hn := awaitReady_relates (never_breaches_relates h.noting) pid c.socketPath timer .first
    now.nanos
  exact ((awaitReady_adds pid c.socketPath timer .first now.nanos).and_never_breaches hn).imp
    (fun _ _ _ => trivial) (fun _ _ he => he.right)

-- The ways in which a launch breaches or not.
theorem launch_reckons (c : Config) :
    (launch h.noting c).Adds (fun _ xs => ¬Overdue c.readyTimeout xs)
      (fun e xs => Reckoned c.readyTimeout e xs ∧ (Overdue c.readyTimeout xs → ∃ ys pid t,
        xs = ys ++ [⟨.spawn (command c), .ok pid⟩, ⟨.now, t⟩, ⟨.release pid, ()⟩])) := by
  rw [launch_eq]
  have hn := clear_relates (never_breaches_relates h.noting) c
  have hc := (clear_clocks (h := h) c).and_never_breaches hn
  refine .bind (hc.imp (fun _ _ hx => hx) ?uncleared) fun _ xs hx => ?_
  case uncleared =>
    rintro e xs ⟨hx, he⟩
    exact ⟨.of_fault he (not_overdue hx), fun ho => absurd ho (not_overdue hx)⟩
  simp only [keeping, spawned, bind_assoc]
  refine .ask_bind fun answer => .allowed_bind (fun pid ha => ?spawned) fun e ha => ?refused
  case spawned =>
    subst ha
    have hs (zs : List Exchange) : Overdue c.readyTimeout
        (xs ++ ⟨.spawn (command c), .ok pid⟩ :: zs) ↔ Overdue c.readyTimeout zs := by
      rw [overdue_append_iff hx, ← List.singleton_append]
      exact overdue_append_iff (List.forall_mem_singleton.mpr rfl)
    refine .bind (.releasingOnFailure <|
      (untilReady_reckons c pid).imp (fun _ _ hy => hy) ?failed) ?ready
    case failed =>
      rintro e _ ⟨t, ys, rfl, hr, hu⟩
      have ho : Overdue c.readyTimeout (⟨.now, t⟩ :: ys ++ [⟨.release pid, ()⟩]) ↔
        Overdue c.readyTimeout (⟨.now, t⟩ :: ys) := overdue_now_iff.trans overdue_now_iff.symm
      refine ⟨fun p => ?reckoned, fun hv => ?alone⟩
      case reckoned => rw [hs, ho, hr p]
      case alone =>
        rw [hu (overdue_now_iff.mp (ho.mp ((hs _).mp hv)))]
        exact ⟨xs, pid, t, rfl⟩
    case ready =>
      rintro _ _ ⟨t, ys, rfl, hu⟩
      refine .pure ?_
      rw [List.append_nil, hs]
      exact mt overdue_now_iff.mp hu
  case refused =>
    subst ha
    have hy : ∀ x ∈ xs ++ [(⟨.spawn (command c), .error e⟩ : Exchange)], x.clock? = none :=
      List.forall_mem_append.mpr ⟨hx, List.forall_mem_singleton.mpr rfl⟩
    exact ⟨.of_fault ⟨_, rfl⟩ (not_overdue hy), fun ho => absurd ho (not_overdue hy)⟩

end Server

namespace Control

theorem stopServer_reckons (h : Host σ) (c : Config) (server : Server) :
    (stopServer h.noting c server).Adds
      (fun _ xs => ∃ t ys, xs = ⟨.now, t⟩ :: ys ∧ ¬Timer.Unreachable t c.stopTimeout)
      (fun e xs => ∃ t ys, xs = ⟨.now, t⟩ :: ys ∧ Reckoned c.stopTimeout e xs ∧
        (Timer.Unreachable t c.stopTimeout → ys = [])) := by
  refine .note_bind <| .reckon_bind fun now timer => ?_
  have hn := never_breaches_relates h.noting
  have hg (before : List Exchange) := (h.noting_over_prepend before).relates.toRelatesFaults
  refine (Action.Adds.of_over fun before => .bind (sendToken_relates (hg before) c timer) fun _ =>
    endServer_relates (hg before) c timer server).and_never_breaches ?_ |>.imp
      (fun _ _ _ => trivial) (fun _ _ he => he.right)
  exact .bind (sendToken_relates hn c timer) fun _ => endServer_relates hn c timer server

theorem start_reckons (h : Host σ) (c : Config) (s : Session σ) :
    (start h c).Ends s (fun _ _ => ¬Overdue c.readyTimeout (s.exchanges h (start · c)))
      (fun e _ => Reckoned c.readyTimeout e (s.exchanges h (start · c)) ∧
        (Overdue c.readyTimeout (s.exchanges h (start · c)) → ∃ ys pid t,
          s.exchanges h (start · c) =
            ys ++ [⟨.spawn (Server.command c), .ok pid⟩, ⟨.now, t⟩, ⟨.release pid, ()⟩])) := by
  cases hs : s.server
  case some server =>
    have hr : isRunning s := Option.isSome_of_eq_some hs
    rw [Action.Ends, start_running h c hr, exchanges_start_running h c hr]
    exact not_overdue (List.forall_mem_nil _)
  case none =>
    have hl := exchanges_ends (Server.launch · c) (launch_over h.noting_over c) s
      (Server.launch_reckons c _)
    rw [Action.Ends, start_none h c hs, exchanges_start_none h c hs]
    exact Action.Ends.bind hl fun _ _ hn => hn

theorem stop_reckons (h : Host σ) (c : Config) (s : Session σ) :
    (stop h c).Ends s (fun _ _ => ¬Overdue c.stopTimeout (s.exchanges h (stop · c)))
      (fun e _ => Reckoned c.stopTimeout e (s.exchanges h (stop · c)) ∧
        (Overdue c.stopTimeout (s.exchanges h (stop · c)) → ∃ server t, s.server = some server ∧
          s.exchanges h (stop · c) = [⟨.now, t⟩, ⟨.release server.pid, ()⟩])) := by
  cases hs : s.server
  case none =>
    rw [Action.Ends, stop_none h c hs, exchanges_stop_none h c hs]
    exact not_overdue (List.forall_mem_nil _)
  case some server =>
    refine stop_exchanges_ends h c hs (Q := fun xs _ => ¬Overdue c.stopTimeout xs)
      (E := fun e xs _ => Reckoned c.stopTimeout e xs ∧ (Overdue c.stopTimeout xs →
        ∃ held t, some server = some held ∧ xs = [⟨.now, t⟩, ⟨.release held.pid, ()⟩]))
      (Action.Adds.releasing ((stopServer_reckons h c server).imp ?stopped ?failed) _)
    case stopped =>
      rintro _ _ ⟨t, ys, rfl, hu⟩
      exact mt overdue_now_iff.mp hu
    case failed =>
      rintro e _ ⟨t, ys, rfl, hr, hu⟩
      refine ⟨fun p => (hr p).trans (and_congr_right' ?overdue), fun hv => ⟨server, t, rfl, ?alone⟩⟩
      case overdue => exact overdue_now_iff.trans overdue_now_iff.symm
      case alone =>
        rw [hu (overdue_now_iff.mp hv)]
        rfl

-- A client run never breaches. A start breaches if and only if its limit is out of reach at the
-- first instant that the clock shows, and a stop likewise; the server, just spawned or not yet told
-- to end, is then let go of. Limits of whole seconds are out of reach from the last second on.
theorem breaches_are_unreachable_limits (h : Host σ) (c : Config) (s : Session σ) :
    let started := s.exchanges h (start · c)
    let stopped := s.exchanges h (stop · c)
    (∀ scale p, (runClient h c scale).answer s ≠ .error (.breach p)) ∧
    (∀ p, (start h c).answer s = .error (.breach p) ↔
      p = .deadlineOverflow ∧ Overdue c.readyTimeout started) ∧
    (∀ p, (stop h c).answer s = .error (.breach p) ↔
      p = .deadlineOverflow ∧ Overdue c.stopTimeout stopped) ∧
    (Overdue c.readyTimeout started → ∃ xs pid t,
      started = xs ++ [⟨.spawn (Server.command c), .ok pid⟩, ⟨.now, t⟩, ⟨.release pid, ()⟩]) ∧
    (Overdue c.stopTimeout stopped → ∃ server t, s.server = some server ∧
      stopped = [⟨.now, t⟩, ⟨.release server.pid, ()⟩]) ∧
    ∀ t secs, Timer.Unreachable t (.ofSecs secs) ↔ Timer.lastSecond < t.wholeSecs + secs := by
  intro started stopped
  have ⟨hs, hs'⟩ := Reckoned.answer (start_reckons h c s)
  have ⟨ht, ht'⟩ := Reckoned.answer (stop_reckons h c s)
  refine ⟨fun scale => ?_, hs, ht, hs', ht', fun _ _ => Timer.unreachable_ofSecs_iff⟩
  have hr : (runClient h c scale).NeverBreaches :=
    runClient_relates (never_breaches_relates h) c scale
  exact hr.answer s

-- One second more than the clock has makes the difference.
theorem breaches_are_unreachable_limits_last_second :
    let host := Rehearsal.host
    let c (secs : Nat) : Config :=
      Setup.config { stopTimeout := some (.ofSecs secs) } ⟨"/engine"⟩ ⟨"server"⟩ ⟨"client"⟩
    let s : Session Rehearsal := (start host (c 10)).after (Session.start Rehearsal.blank).1
    (∀ p, (stop host (c 9223372036854775807)).answer s ≠ .error (.breach p)) ∧
    (stop host (c 9223372036854775808)).answer s = .error (.breach .deadlineOverflow) ∧
    ∃ server t, s.server = some server ∧ s.exchanges host (stop · (c 9223372036854775808)) =
      [⟨.now, t⟩, ⟨.release server.pid, ()⟩] := by
  intro host c s
  have hx : (s.exchanges host (stop · (c 9223372036854775807))).findSome? Exchange.clock? =
    some .zero := by decide +kernel
  have hy : (s.exchanges host (stop · (c 9223372036854775808))).findSome? Exchange.clock? =
    some .zero := by decide +kernel
  have ⟨_, _, hl, _⟩ := breaches_are_unreachable_limits host (c 9223372036854775807) s
  have ⟨_, _, hm, _, hr, _⟩ := breaches_are_unreachable_limits host (c 9223372036854775808) s
  have ho : Overdue (.ofSecs 9223372036854775808)
      (s.exchanges host (stop · (c 9223372036854775808))) :=
    ⟨.zero, hy, Timer.unreachable_ofSecs_iff.mpr (by decide)⟩
  refine ⟨fun p hp => ?_, (hm _).mpr ⟨rfl, ho⟩, hr ho⟩
  have ⟨_, t, ht, hu⟩ := (hl p).mp hp
  cases Option.some.inj (ht.symm.trans hx)
  exact absurd (Timer.unreachable_ofSecs_iff.mp hu) (by decide)

-- The longest limits that the command line takes, for a start and for a stop.
theorem longest_limits_breach :
    let host := Rehearsal.host
    let c (o : Options) := (Setup.ofOptions o).config ⟨"/engine"⟩ ⟨"server"⟩ ⟨"client"⟩
    let s : Session Rehearsal := (Session.start Rehearsal.blank).1
    (∃ o, (CommandLine.read ["bench", "--ready-timeout-s", "18446744073709551615"]).toOption =
      some o ∧ (start host (c o)).answer s = .error (.breach .deadlineOverflow)) ∧
    ∃ o, (CommandLine.read ["bench", "--stop-timeout-s", "18446744073709551615"]).toOption =
      some o ∧ (stop host (c o)).answer ((start host (c o)).after s) =
        .error (.breach .deadlineOverflow) := by
  intro host c s
  refine ⟨⟨{ readyTimeout := 18446744073709551615 }, by decide +kernel, ?start⟩,
    { stopTimeout := 18446744073709551615 }, by decide +kernel, ?stop⟩
  case start =>
    let o : Options := { readyTimeout := 18446744073709551615 }
    have ⟨_, h⟩ := Action.exists_error (x := start host (c o)) (s := s)
      (e := .breach .deadlineOverflow) (by decide +kernel)
    exact Action.answer_error h
  case stop =>
    let o : Options := { stopTimeout := 18446744073709551615 }
    have ⟨_, h⟩ := Action.exists_error (x := stop host (c o)) (s := (start host (c o)).after s)
      (e := .breach .deadlineOverflow) (by decide +kernel)
    exact Action.answer_error h

end Control

end EngineBench
