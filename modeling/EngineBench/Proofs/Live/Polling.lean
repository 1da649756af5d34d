import EngineBench.Live.Timetable
import EngineBench.Proofs.Live.Instants
import EngineBench.Proofs.Live.Readiness

namespace EngineBench

open Host (Exchange)
open Session

variable {σ α β : Type}

namespace Server

-- The pauses that are asked for, if there is time enough.
def Backoff.after : Nat → Backoff
  | 0 => first
  | k + 1 => (after k).next

theorem Backoff.after_nanos (k : Nat) :
    (after k).nanos = min (firstPause * Nat.pow 2 k) longestPause := by
  induction k
  case zero => rfl
  case succ k hi =>
    have hp : Nat.pow 2 (k + 1) = Nat.pow 2 k * 2 := rfl
    simp only [after, next, hi, hp, firstPause, longestPause]
    omega

theorem Backoff.le_after_nanos (k : Nat) : firstPause ≤ (after k).nanos := by
  have hp : 0 < Nat.pow 2 k := Nat.two_pow_pos k
  rw [after_nanos]
  simp only [firstPause, longestPause]
  omega

-- One more pause leaves room for one pause less: it is no shorter than the first one, or nothing is
-- left after it.
theorem Backoff.pause_room {b : Backoff} {n first left rest : Nat} (hb : first ≤ b.nanos)
    (hl : 0 < left) (hr : rest ≤ left - b.pause left) (hn : n * first < rest + first) :
    (n + 1) * first < left + first := by
  simp only [pause] at hr
  rw [Nat.succ_mul]
  obtain rfl | hp := Nat.eq_zero_or_pos n
  case inl => omega
  case inr =>
    have hm : first ≤ n * first := Nat.le_mul_of_pos_left first hp
    generalize n * first = m at *
    omega

end Server

namespace Timetable

-- What one look adds to the journal.
def look (tt : Timetable) (pid : Pid) (path : Path) (t : Duration) : List Exchange :=
  match tt.ended? t with
  | some status => [⟨.poll pid, .ok (some status)⟩]
  | none => [⟨.poll pid, .ok none⟩, ⟨.isThere path, tt.socket t⟩]

-- A wait from the look at `t` on, before which there were `k` pauses.
inductive Course (tt : Timetable) (pid : Pid) (path : Path) (timer : Timer) :
    Nat → Duration → List Exchange → Except Fault Unit → Prop
  | done : tt.verdict? path timer t = some r →
    Course tt pid path timer k t (tt.look pid path t) r
  | again : tt.verdict? path timer t = none →
    d.nanos = (Server.Backoff.after k).pause (timer.deadline.nanos - t.nanos) →
    t.nanos + d.nanos ≤ t'.nanos → Course tt pid path timer (k + 1) t' xs r →
    Course tt pid path timer k t
      (tt.look pid path t ++ ⟨.sleep d, .ready ()⟩ :: ⟨.now, t'⟩ :: xs) r

section

variable {tt : Timetable} {pid : Pid} {path : Path} {timer : Timer} {k : Nat} {t : Duration}
  {xs : List Exchange} {r : Except Fault Unit}

theorem verdict?_eq_none_iff : tt.verdict? path timer t = none ↔
    tt.ended? t = none ∧ tt.socket t = false ∧ t.nanos < timer.deadline.nanos := by
  have hd : timer.deadline ≤ t ↔ timer.deadline.nanos ≤ t.nanos := Iff.rfl
  simp only [verdict?]
  cases tt.ended? t <;> cases tt.socket t <;> simp [hd]

theorem host_follows (tt : Timetable) (pid : Pid) (path : Path) :
    tt.host.Follows id pid path tt where
  now _     := ⟨rfl, rfl⟩
  poll _    := ⟨rfl, rfl⟩
  isThere _ := ⟨rfl, rfl⟩
  sleep _ _ := ⟨rfl, Nat.le_refl _⟩
  log _ _   := rfl
  print _ _ := rfl

-- A server that does not end is found ready, if its socket is there at least from the deadline on.
theorem verdict?_eq_ok (hv : tt.verdict? path timer t = some r) (he : tt.exit? = none)
    (hs : timer.deadline ≤ t → tt.socket t) : r = .ok () := by
  simp only [verdict?, ended?, he] at hv
  split at hv
  case isTrue => exact (Option.some.inj hv).symm
  case isFalse hn =>
    split at hv
    case isTrue hl => exact absurd (hs hl) hn
    case isFalse   => cases hv

theorem look_clocks : (tt.look pid path t).filterMap Exchange.clock? = [] := by
  simp only [look]
  split <;> rfl

theorem look_sleeps : (tt.look pid path t).filterMap Exchange.slept? = [] := by
  simp only [look]
  split <;> rfl

theorem look_polls : (tt.look pid path t).filterMap Exchange.polled? = [pid] := by
  simp only [look]
  split <;> rfl

-- A wait as a list of pauses and the last look. Every pause but the last one is at least as long as
-- the first, and none goes past the deadline.
structure Waits (tt : Timetable) (pid : Pid) (path : Path) (timer : Timer) (k : Nat) (t : Duration)
    (xs : List Exchange) (r : Except Fault Unit) (pauses : List Pause) (last : Duration) :
    Prop where
  clocks    : t :: xs.filterMap Exchange.clock? = pauses.map Pause.start ++ [last]
  sleeps    : xs.filterMap Exchange.slept? = pauses.map Pause.length
  polls     : xs.filterMap Exchange.polled? = List.replicate (pauses.length + 1) pid
  undecided : ∀ p ∈ pauses, tt.verdict? path timer p.start = none
  decided   : tt.verdict? path timer last = some r
  lengths   : ∀ i p, pauses[i]? = some p → p.length.nanos =
    (Server.Backoff.after (k + i)).pause (timer.deadline.nanos - p.start.nanos)
  few       : pauses.length * Server.firstPause <
    timer.deadline.nanos - t.nanos + Server.firstPause
  brief     : (pauses.map fun p => p.length.nanos).foldr (· + ·) 0 ≤ timer.deadline.nanos - t.nanos

theorem Course.waits (hc : tt.Course pid path timer k t xs r) :
    ∃ pauses last, tt.Waits pid path timer k t xs r pauses last := by
  induction hc
  case done t r k hv =>
    refine ⟨[], t, ⟨?_, ?_, ?_, ?_, hv, ?_, ?_, ?_⟩⟩
    all_goals simp [look_clocks, look_sleeps, look_polls, Server.firstPause]
  case again t k t' xs r d hv hd ht _ hi =>
    have ⟨pauses, last, hw⟩ := hi
    have ⟨_, _, hl⟩ := verdict?_eq_none_iff.mp hv
    have hr : timer.deadline.nanos - t'.nanos ≤ timer.deadline.nanos - t.nanos - d.nanos := by omega
    refine ⟨⟨t, d⟩ :: pauses, last, ⟨?clocks, ?sleeps, ?polls, ?undecided, hw.decided, ?lengths,
      ?few, ?brief⟩⟩
    case clocks =>
      simp only [List.filterMap_append, look_clocks, List.nil_append, List.filterMap_cons,
        Exchange.clock?, List.map_cons, List.cons_append, hw.clocks]
    case sleeps =>
      simp only [List.filterMap_append, look_sleeps, List.nil_append, List.filterMap_cons,
        Exchange.slept?, List.map_cons, hw.sleeps]
    case polls =>
      simp only [List.filterMap_append, look_polls, List.filterMap_cons, Exchange.polled?, hw.polls,
        List.length_cons, List.replicate_succ, List.singleton_append]
    case undecided => exact List.forall_mem_cons.mpr ⟨hv, hw.undecided⟩
    case lengths =>
      intro i p hp
      cases i
      case zero =>
        cases Option.some.inj hp
        exact hd
      case succ i =>
        have hk : k + (i + 1) = k + 1 + i := by omega
        rw [hk]
        exact hw.lengths i p hp
    case few =>
      rw [hd] at hr
      exact Server.Backoff.pause_room (Server.Backoff.le_after_nanos k) (Nat.sub_pos_of_lt hl) hr
        hw.few
    case brief =>
      have hs := hw.brief
      have hp := Nat.min_le_right (Server.Backoff.after k).nanos (timer.deadline.nanos - t.nanos)
      simp only [Server.Backoff.pause] at hd
      simp only [List.map_cons, List.foldr_cons]
      omega

end

end Timetable

namespace Server

open Timetable (Course verdict?)

variable {h : Host σ} {clock : σ → Duration} {tt : Timetable} {pid : Pid} {path : Path}

theorem look_bind (hf : h.Follows clock pid path tt) {t : Duration}
    {f : Bool → Action (Session (List Exchange × σ)) α} {Q : α → List Exchange → Duration → Prop}
    {E : Abort → List Exchange → Duration → Prop}
    (he : ∀ status, tt.ended? t = some status →
      E (.fault (notReady (.exitedEarly status))) (tt.look pid path t) t)
    (hl : tt.ended? t = none → (f (tt.socket t)).AddsAt clock t
      (fun a xs => Q a (tt.look pid path t ++ xs)) (fun e xs => E e (tt.look pid path t ++ xs))) :
    (look h.noting pid path >>= f).AddsAt clock t Q E := by
  simp only [look, bind_assoc]
  refine .ask_bind (P := fun a t' => a = Except.ok (tt.ended? t) ∧ t' = t)
    (fun w hw => hw ▸ hf.poll w) ?_
  rintro _ t ⟨rfl, rfl⟩
  simp only [allowed, pure_bind]
  simp only [Timetable.look] at he hl
  cases hs : tt.ended? t <;> simp only [hs] at he hl ⊢
  case some status => exact .throw (he status rfl)
  case none =>
    refine .ask_bind (P := fun a t' => a = tt.socket t ∧ t' = t)
      (fun w hw => hw ▸ hf.isThere w) ?_
    rintro _ t ⟨rfl, rfl⟩
    exact hl trivial

theorem awaitReady_adds_at (hf : h.Follows clock pid path tt) {timer : Timer} {b : Backoff}
    {now k : Nat} {t : Duration} (hb : b = .after k) (hn : now = t.nanos) :
    (awaitReady h.noting pid path timer b now).AddsAt clock t
      (fun _ xs _ => Course tt pid path timer k t xs (.ok ()))
      (fun e xs _ => ∃ f, e = .fault f ∧ Course tt pid path timer k t xs (.error f)) := by
  induction b, now using awaitReady.induct timer generalizing k t
  case case1 b now hi =>
    subst hb hn
    rw [awaitReady]
    refine look_bind hf (fun status he => ⟨_, rfl, .done ?exited⟩) fun he => ?_
    case exited => simp only [verdict?, he]
    cases hs : tt.socket t
    case true =>
      refine .note hf.log ?_
      rw [List.append_nil]
      exact .done (by simp only [verdict?, he, hs, if_true])
    case false =>
      simp only [Bool.false_eq_true, if_false]
      split
      case isTrue hl =>
        refine .throw ⟨_, rfl, ?_⟩
        rw [List.append_nil]
        refine .done ?_
        have hd : timer.deadline ≤ t := hl
        simp only [verdict?, he, hs, hd, Bool.false_eq_true, if_false, if_true]
      case isFalse hl =>
        have hv : tt.verdict? path timer t = none :=
          Timetable.verdict?_eq_none_iff.mpr ⟨he, hs, Nat.lt_of_not_le hl⟩
        refine .ask_bind (P := fun a t' => a = Awaited.ready () ∧
          t.nanos + (Backoff.after k).pause (timer.deadline.nanos - t.nanos) ≤ t'.nanos)
          (fun w hw => hw ▸ hf.sleep _ w) ?_
        rintro _ t' ⟨rfl, ht⟩
        refine .settled_bind hf.log hf.print (fun hc => by cases hc) fun _ _ => ?_
        refine .ask_bind (P := fun a t₁ => a = t' ∧ t₁ = t') (fun w hw => hw ▸ hf.now w) ?_
        rintro _ t' ⟨rfl, rfl⟩
        refine (hi hl t' (k := k + 1) rfl (Nat.max_eq_right ht)).imp ?ready ?failed
        case ready => exact fun _ xs _ hc => .again hv rfl ht hc
        case failed =>
          rintro _ xs _ ⟨f, rfl, hc⟩
          exact ⟨f, rfl, .again hv rfl ht hc⟩

theorem untilReady_adds_at {c : Config} (hf : h.Follows clock pid c.socketPath tt) {timer : Timer}
    {t : Duration} (ht : Timer.after? t c.readyTimeout = some timer) :
    (untilReady h.noting c pid).AddsAt clock t
      (fun _ xs _ => ∃ ys, xs = ⟨.now, t⟩ :: ys ∧
        Course tt pid c.socketPath timer 0 t ys (.ok ()))
      (fun e xs _ => ∃ f ys, e = .fault f ∧ xs = ⟨.now, t⟩ :: ys ∧
        Course tt pid c.socketPath timer 0 t ys (.error f)) := by
  refine .note_bind hf.log ?_
  refine .ask_bind (P := fun a t' => a = t ∧ t' = t) (fun w hw => hw ▸ hf.now w) ?_
  rintro _ t ⟨rfl, rfl⟩
  simp only [Timer.after, ht, Action.ofBreach, pure_bind]
  refine (awaitReady_adds_at hf (b := .first) (k := 0) rfl rfl).imp ?ready ?failed
  case ready => exact fun _ ys _ hc => ⟨ys, rfl, hc⟩
  case failed =>
    rintro _ ys _ ⟨f, rfl, hc⟩
    exact ⟨f, ys, rfl, rfl, hc⟩

theorem untilReady_course {c : Config} (hf : h.Follows clock pid c.socketPath tt) {timer : Timer}
    (s : Session σ) (ht : Timer.after? (clock s.world) c.readyTimeout = some timer) :
    ∃ r ys, (untilReady h c pid).answer s = r.mapError .fault ∧
      s.exchanges h (untilReady · c pid) = ⟨.now, clock s.world⟩ :: ys ∧
      Course tt pid c.socketPath timer 0 (clock s.world) ys r := by
  have ho : (untilReady h.noting c pid).Over (map Prod.snd) (untilReady h c pid) :=
    untilReady_relates h.noting_over.relates c pid
  have hs := exchanges_ends (untilReady · c pid) ho s (untilReady_adds_at hf ht (s.noted []) rfl)
  cases hx : untilReady h c pid s
  case ok =>
    have ⟨ys, hw, hc⟩ := hs.of_ok hx
    exact ⟨.ok (), ys, Action.answer_ok hx, hw, hc⟩
  case error =>
    obtain ⟨f, ys, rfl, hw, hc⟩ := hs.of_error hx
    exact ⟨.error f, ys, Action.answer_error hx, hw, hc⟩

-- The server is looked at until one look decides. The pauses between the looks double from 10 ms up
-- to 500 ms and end with the deadline at the latest.
theorem readiness_polled {c : Config} (hf : h.Follows clock pid c.socketPath tt) {timer : Timer}
    (s : Session σ) (ht : Timer.after? (clock s.world) c.readyTimeout = some timer) :
    let xs := s.exchanges h (untilReady · c pid)
    let answer := (untilReady h c pid).answer s
    (∃ (pauses : List Pause) (last : Duration) (r : Except Fault Unit),
      xs.filterMap Exchange.clock? = pauses.map Pause.start ++ [last] ∧
      xs.filterMap Exchange.slept? = pauses.map Pause.length ∧
      xs.filterMap Exchange.polled? = List.replicate (pauses.length + 1) pid ∧
      (pauses.map Pause.start ++ [last]).head? = some (clock s.world) ∧
      (∀ p ∈ pauses, tt.verdict? c.socketPath timer p.start = none) ∧
      tt.verdict? c.socketPath timer last = some r ∧ answer = r.mapError .fault ∧
      (∀ k p, pauses[k]? = some p → 0 < p.length.nanos ∧ p.length.nanos =
        min (min (10000000 * Nat.pow 2 k) 500000000) (timer.deadline.nanos - p.start.nanos)) ∧
      pauses.length * 10000000 < c.readyTimeout.nanos + 10000000 ∧
      (pauses.map fun p => p.length.nanos).foldr (· + ·) 0 ≤ c.readyTimeout.nanos) ∧
    ∀ u ≤ timer.deadline, tt.exit? = none → (∀ t, u ≤ t → tt.socket t) → answer = .ok () := by
  intro xs answer
  have ⟨r, ys, ha, (hx : xs = _), hc⟩ := untilReady_course hf s ht
  have ⟨pauses, last, hw⟩ := hc.waits
  have hd : timer.deadline.nanos - (clock s.world).nanos = c.readyTimeout.nanos := by
    rw [Timer.after?_deadline ht, Nat.add_sub_cancel_left]
  refine ⟨⟨pauses, last, r, ?clocks, ?sleeps, ?polls, ?start, hw.undecided, hw.decided, ha,
    ?lengths, hd ▸ hw.few, hd ▸ hw.brief⟩, fun u hu he hs => ?there⟩
  case clocks => exact hx ▸ hw.clocks
  case sleeps => exact hx ▸ hw.sleeps
  case polls  => exact hx ▸ hw.polls
  case start  => rw [← hw.clocks, List.head?_cons]
  case lengths =>
    intro k p hp
    have hl := hw.lengths k p hp
    have ⟨_, _, hp⟩ := Timetable.verdict?_eq_none_iff.mp (hw.undecided p (List.mem_of_getElem? hp))
    rw [Nat.zero_add] at hl
    refine ⟨hl ▸ Backoff.pause_pos (Nat.sub_pos_of_lt hp), ?_⟩
    rw [hl, Backoff.pause, Backoff.after_nanos]
    rfl
  case there =>
    have hr := Timetable.verdict?_eq_ok hw.decided he fun hl => hs last (Nat.le_trans hu hl)
    rw [hr] at ha
    exact ha

-- The last pause ends with the deadline, and just then the socket is there.
theorem readiness_polled_deadline :
    let tt : Timetable := ⟨none, fun t => 40000000 ≤ t.nanos⟩
    let c : Config :=
      Setup.config { readyTimeout := some (.ofMillis 50) } ⟨"/engine"⟩ ⟨"server"⟩ ⟨"client"⟩
    let s : Session Duration := (Session.start .zero).1
    let xs := s.exchanges tt.host (untilReady · c 0)
    (untilReady tt.host c 0).answer s = .ok () ∧
    xs.filterMap Exchange.slept? = [.ofMillis 10, .ofMillis 20, .ofMillis 20] ∧
    ∃ pauses : List Pause, xs.filterMap Exchange.slept? = pauses.map Pause.length ∧
      ∀ k p, pauses[k]? = some p → 0 < p.length.nanos ∧
        p.length.nanos =
          min (min (10000000 * Nat.pow 2 k) 500000000) (50000000 - p.start.nanos) := by
  intro tt c s xs
  have hf : tt.host.Follows id 0 c.socketPath tt := tt.host_follows 0 c.socketPath
  have ht : Timer.after? (id s.world) c.readyTimeout = some ⟨.ofMillis 50, .ofMillis 50⟩ := by
    decide +kernel
  have ⟨⟨pauses, _, _, _, hs, _, _, _, _, _, hl, _⟩, hr⟩ := readiness_polled hf s ht
  refine ⟨hr ⟨40000000⟩ (by decide +kernel) rfl fun t ht => ?_, by decide +kernel, pauses, hs, hl⟩
  exact decide_eq_true ht

end Server

end EngineBench
