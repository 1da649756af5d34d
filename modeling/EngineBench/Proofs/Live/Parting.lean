import EngineBench.Live.Parting
import EngineBench.Proofs.Live.Instants

namespace EngineBench

open Host (Exchange)

variable {σ : Type} {h : Host σ} {view : σ → Instant} {server : Pid}

namespace Duration

theorem max_nanos (a b : Duration) : (max a b).nanos = Nat.max a.nanos b.nanos := by
  simp only [max, Nat.max_def]
  split <;> rfl

theorem le_max_left (a b : Duration) : a ≤ max a b :=
  Nat.le_trans (Nat.le_max_left a.nanos b.nanos) (Nat.le_of_eq (max_nanos a b).symm)

theorem le_max_right (a b : Duration) : b ≤ max a b :=
  Nat.le_trans (Nat.le_max_right a.nanos b.nanos) (Nat.le_of_eq (max_nanos a b).symm)

theorem max_le {a b c : Duration} (ha : a ≤ c) (hb : b ≤ c) : max a b ≤ c :=
  Nat.le_trans (Nat.le_of_eq (max_nanos a b)) (Nat.max_le.mpr ⟨ha, hb⟩)

end Duration

namespace Instant

variable {m m₁ m₂ m₃ : Instant} {t t' : Duration}

theorem EndedBy.mono (he : m.EndedBy t) (ht : t ≤ t') : m.EndedBy t' :=
  he.imp fun _ ⟨status, hx, hu⟩ => ⟨status, hx, Nat.le_trans hu ht⟩

theorem Before.refl (m : Instant) : m.Before m :=
  ⟨Nat.le_refl _, fun _ he => he, fun _ _ he => he⟩

theorem Before.trans (h₁ : m₁.Before m₂) (h₂ : m₂.Before m₃) : m₁.Before m₃ where
  onward        := Nat.le_trans h₁.onward h₂.onward
  stays t he    := h₂.stays t (h₁.stays t he)
  known t ht he := h₁.known t ht (h₂.known t (Nat.le_trans ht h₁.onward) he)

end Instant

namespace Host

-- How things may stand after something that keeps to a deadline.
def Passes (h : Host σ) (view : σ → Instant) (deadline : Duration) (m m' : Instant) : Prop :=
  m.Before m' ∧ (h.Punctual view → m.now ≤ deadline → m'.now ≤ deadline)

theorem Passes.trans {deadline : Duration} {m₁ m₂ m₃ : Instant}
    (h₁ : h.Passes view deadline m₁ m₂) (h₂ : h.Passes view deadline m₂ m₃) :
    h.Passes view deadline m₁ m₃ :=
  ⟨h₁.left.trans h₂.left, fun hp ht => h₂.right hp (h₁.right hp ht)⟩

namespace Attends

theorem passes_prompt (ha : h.Attends view server) {r : Request} (hr : r.waits = false)
    (deadline : Duration) (w : σ) :
    h.Passes view deadline (view w) (view (h.respond r w).2) :=
  ⟨ha.later r w, fun hp ht => (hp.prompt r w hr).symm ▸ ht⟩

theorem passes_timed (ha : h.Attends view server) {r : Request} {timer : Timer}
    (hr : r.timer? = some timer) (w : σ) :
    h.Passes view timer.deadline (view w) (view (h.respond r w).2) :=
  ⟨ha.later r w, fun hp ht => hp.inTime r timer w hr ht⟩

-- What a wait for the server, whose timer is reckoned anew, tells of an earlier deadline.
theorem late_at (ha : h.Attends view server) {o : Option Timer} {w : σ} {l : Timer}
    {hl : o = some l} {deadline : Duration}
    (ho : (h.respond (.awaitExit server o) w).1 = .late l hl) (hd : deadline ≤ l.deadline) :
    let m := view (h.respond (.awaitExit server o) w).2
    deadline ≤ m.now ∧ ¬m.EndedBy deadline := by
  subst hl
  have ⟨hn, he⟩ := ha.late l w l rfl ho
  exact ⟨Nat.le_trans hd hn, fun h => he (h.mono hd)⟩

theorem ended_at (ha : h.Attends view server) (hp : h.Punctual view) {o : Option Timer} {l : Timer}
    {w : σ} {status : ExitStatus} (hl : o = some l) (hw : (view w).now ≤ l.deadline)
    (ho : (h.respond (.awaitExit server o) w).1 = .ready (.ok status)) :
    (view (h.respond (.awaitExit server o) w).2).EndedBy l.deadline := by
  subst hl
  exact (ha.ended l w status ho).mono (hp.inTime _ l w rfl hw)

end Attends

-- The exchanges that go with an ending: one that leads to its fault, or none that leads to any.
def Foiled (server : Pid) (xs : List Exchange) : Option Fault → Prop
  | none => ∀ x ∈ xs, ∀ f, ¬x.Foils server f
  | some f => ∃ x ∈ xs, x.Foils server f

namespace Foiled

variable {xs ys : List Exchange} {fault? : Option Fault}

theorem append_right (hx : Foiled server xs none) (hy : Foiled server ys fault?) :
    Foiled server (xs ++ ys) fault? := by
  cases fault?
  case none => exact List.forall_mem_append.mpr ⟨hx, hy⟩
  case some f =>
    obtain ⟨x, hx, hf⟩ := hy
    exact ⟨x, List.mem_append_right _ hx, hf⟩

theorem append_left (hx : Foiled server xs fault?) (hy : Foiled server ys none) :
    Foiled server (xs ++ ys) fault? := by
  cases fault?
  case none => exact List.forall_mem_append.mpr ⟨hx, hy⟩
  case some f =>
    obtain ⟨x, hx, hf⟩ := hx
    exact ⟨x, List.mem_append_left _ hx, hf⟩

theorem nil : Foiled server [] none :=
  List.forall_mem_nil _

theorem cons {x : Exchange} (hx : ∀ f, ¬x.Foils server f) (hs : Foiled server xs fault?) :
    Foiled server (x :: xs) fault? := by
  have hx : Foiled server [x] none := List.forall_mem_singleton.mpr hx
  exact hx.append_right hs

theorem single {x : Exchange} {f : Fault} (hx : x.Foils server f) : Foiled server [x] (some f) :=
  ⟨x, List.mem_singleton_self x, hx⟩

end Foiled

end Host

namespace Timer

variable {now limit : Duration} {timer : Timer}

theorem after?_limit (h : after? now limit = some timer) : timer.limit = limit := by
  simp only [after?, Option.map_eq_some_iff] at h
  obtain ⟨_, _, rfl⟩ := h
  rfl

-- What is left of the time of a timer ends with it, unless it is over.
theorem after?_timeLeft (h : after? now limit = some timer) {t : Duration}
    (ht : t ≤ timer.deadline) : after? t (Control.timeLeft t timer) =
      some ⟨Control.timeLeft t timer, timer.deadline⟩ := by
  simp only [after?, moment?, Option.map_eq_some_iff] at h
  obtain ⟨_, hm, rfl⟩ := h
  split at hm <;> cases hm
  case isTrue hs =>
    have he : t.nanos + (now.nanos + limit.nanos - t.nanos) = now.nanos + limit.nanos :=
      Nat.add_sub_of_le ht
    simp only [after?, moment?, Control.timeLeft, he, if_pos hs, Option.map_some]

theorem le_after?_timeLeft {t : Duration} {l : Timer}
    (h : after? t (Control.timeLeft t timer) = some l) : timer.deadline ≤ l.deadline := by
  have hl := after?_deadline h
  have hd : timer.deadline.nanos ≤ l.deadline.nanos := by
    simp only [Control.timeLeft] at hl
    omega
  exact hd

end Timer

namespace Parting

variable (p : Parting)

theorem instant_endedBy_iff {t u : Duration} :
    (p.instant t).EndedBy u ↔
      ∃ exit status, p.server = some (exit, status) ∧ exit ≤ t ∧ exit ≤ u := by
  simp only [Instant.EndedBy, instant, Option.filter_eq_some_iff, decide_eq_true_eq, and_assoc]

theorem instant_before {t t' : Duration} (ht : t ≤ t') : (p.instant t).Before (p.instant t') where
  onward := ht
  stays u := by
    simp only [instant_endedBy_iff]
    rintro ⟨exit, status, hx, he, hu⟩
    exact ⟨exit, status, hx, Nat.le_trans he ht, hu⟩
  known u hu := by
    simp only [instant_endedBy_iff]
    rintro ⟨exit, status, hx, _, he⟩
    exact ⟨exit, status, hx, Nat.le_trans he hu, he⟩

-- What becomes of a wait with a timer.
structure Waits (exit? : Option (Duration × ExitStatus)) (timer : Timer) (t : Duration)
    (a : Awaited (some timer) (Except OsError ExitStatus)) (t' : Duration) : Prop where
  settled : a ≠ .cancelled
  onward  : t ≤ t'
  inTime  : t ≤ timer.deadline → t' ≤ timer.deadline
  ended   : ∀ status, a = .ready (.ok status) → ∃ exit, exit? = some (exit, status) ∧ exit ≤ t'
  late    : ∀ l hl, a = .late l hl → timer.deadline ≤ t' ∧
    ∀ exit status, exit? = some (exit, status) → ¬exit ≤ timer.deadline

theorem awaitEnd_waits (exit? : Option (Duration × ExitStatus)) (timer : Timer) (t : Duration) :
    Waits exit? timer t (awaitEnd exit? timer t).1 (awaitEnd exit? timer t).2 := by
  have late (hn : ∀ exit status, exit? = some (exit, status) → ¬exit ≤ timer.deadline) :
      Waits exit? timer t (.late timer rfl) (Duration.max t timer.deadline) :=
    ⟨fun h => (by cases h), Duration.le_max_left .., fun ht => Duration.max_le ht (Nat.le_refl _),
      fun _ h => (by cases h), fun _ _ _ => ⟨Duration.le_max_right .., hn⟩⟩
  simp only [awaitEnd]
  split
  case h_1 exit status =>
    split
    case isTrue hx =>
      refine ⟨fun h => (by cases h), Duration.le_max_left .., fun ht => ?inTime, ?ended,
        fun _ _ h => (by cases h)⟩
      case inTime =>
        exact Duration.max_le ht (Nat.le_trans hx (Duration.max_le ht (Nat.le_refl _)))
      case ended =>
        rintro _ ⟨⟩
        exact ⟨exit, rfl, Duration.le_max_right ..⟩
    case isFalse hx =>
      refine late ?_
      rintro _ _ ⟨⟩ hl
      exact hx (Nat.le_trans hl (Duration.le_max_right ..))
  case h_2 =>
    refine late ?_
    rintro _ _ ⟨⟩

theorem host_attends : p.host.Attends p.instant serverPid where
  now _ := ⟨rfl, rfl⟩
  later r t := by
    cases r
    case awaitExit pid timer =>
      cases timer
      case none       => exact .refl _
      case some timer => exact p.instant_before (awaitEnd_waits _ timer t).onward
    case sleep d => exact p.instant_before (Nat.le_add_right _ _)
    all_goals exact .refl _
  log _ _ := rfl
  print _ _ := rfl
  fresh _ _ h := by cases h
  fed _ _ _ _ h := by cases h
  awaited pid timer t h := by
    cases timer
    case none       => cases h
    case some timer => exact (awaitEnd_waits _ timer t).settled h
  ended timer t status ho := by
    have ⟨exit, hx, he⟩ := (awaitEnd_waits p.server timer t).ended status ho
    exact p.instant_endedBy_iff.mpr ⟨exit, status, hx, he, he⟩
  late timer t l hl ho := by
    have ⟨hd, hn⟩ := (awaitEnd_waits p.server timer t).late l hl ho
    refine ⟨hd, fun he => ?_⟩
    have ⟨exit, status, hx, _, he⟩ := p.instant_endedBy_iff.mp he
    exact hn exit status hx he

theorem host_punctual : p.host.Punctual p.instant where
  prompt r t hr := by
    cases r <;> first | rfl | cases hr
  inTime r timer t ht hw := by
    cases r
    case feed => exact hw
    case awaitExit pid o =>
      cases ht
      exact (awaitEnd_waits _ timer t).inTime hw
    all_goals cases ht

end Parting

end EngineBench
