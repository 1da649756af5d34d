import EngineBench.Proofs.Shutdown.Signals
import EngineBench.Shutdown.Deed

namespace EngineBench

namespace Shutdown

variable {α : Type}

namespace Board

-- Signals were sent, and nothing else was done.
inductive Signals (b : Board) : Board → Prop
  | one  : Signals b b.signal.1
  | more : Signals b b₁ → Signals b b₁.signal.1

variable {b b' : Board} {l : Nat}

-- A listener has read all there is and was not told anything.
structure Calm (b : Board) (l : Nat) : Prop where
  listener  : b.listener? l = some ⟨b.sent, false⟩
  hasHandle : b.hasHandle = true

theorem Calm.newListener (hh : b.hasHandle = true) :
    b.newListener.1.Calm b.listeners.length :=
  ⟨listener?_newListener.trans (if_pos rfl), hh⟩

theorem Calm.check (h : b.Calm l) : b.check l = (b, false) := by
  have hl : b.look ⟨b.sent, false⟩ = ⟨b.sent, false⟩ := by
    simp [look, received, h.hasHandle]
  have hs : b.listeners.set l (some ⟨b.sent, false⟩) = b.listeners := by
    have hx := listener?_eq_some.mp h.listener
    obtain ⟨hb, hx⟩ := List.getElem?_eq_some_iff.mp hx
    rw [← hx, List.set_getElem_self]
  simp only [Board.check, h.listener, hl, hs]

namespace Signals

theorem trans {b₁ b₂ : Board} (h : b.Signals b₁) (h' : b₁.Signals b₂) : b.Signals b₂ := by
  induction h'
  case one     => exact .more h
  case more hi => exact .more hi

theorem reaches (h : b.Signals b') : ∃ n, b.Reaches (List.replicate (n + 1) .signal) b' := by
  induction h
  case one => exact ⟨0, Reaches.refl.move trivial⟩
  case more hi =>
    have ⟨n, hr⟩ := hi
    refine ⟨n + 1, ?_⟩
    rw [List.replicate_succ']
    exact hr.move trivial

theorem listener? (h : b.Signals b') (l : Nat) : b'.listener? l = b.listener? l := by
  have hs (b : Board) : b.signal.1.listener? l = b.listener? l := listener?_move (m := .signal)
  induction h
  case one     => exact hs b
  case more hi => exact (hs _).trans hi

-- A listener that was calm is told by the first look.
theorem told (h : b.Signals b') (hc : b.Calm l) : (b'.check l).2 = true := by
  refine check_iff.mpr ⟨_, (h.listener? l).trans hc.listener, .inr (.inl ?_)⟩
  have hs (b₁ : Board) (hl : b₁.listener? l = b.listener? l) :
      b₁.signal.1.sent = b₁.sent + 1 := by
    have hn : b₁.hasListener = true := hasListener_iff.mpr ⟨l, by rw [hl, hc.listener]; rfl⟩
    exact (sent_move b₁ .signal).trans (if_pos ⟨rfl, hn⟩)
  induction h
  case one            => exact hs b rfl ▸ Nat.lt_succ_self _
  case more b₁ h hi => exact hs b₁ (h.listener? l) ▸ Nat.lt_succ_of_lt hi

end Signals

end Board

namespace Executor

variable {e e' e₁ e₂ : Executor α} {l n : Nat} {job : Job α} {step : Unfinished}
  {steps : List Unfinished} {tasks : List (Task α)}

namespace Advances

theorem refl : e.Advances e :=
  ⟨[], rfl, (List.append_nil _).symm⟩

theorem trans (h : e.Advances e₁) (h' : e₁.Advances e₂) : e.Advances e₂ := by
  have ⟨ran, hq, ha⟩ := h
  have ⟨ran', hq', ha'⟩ := h'
  exact ⟨ran ++ ran', by rw [hq, hq', List.append_assoc], by
    rw [ha', ha, List.filterMap_append, List.append_assoc]⟩

theorem past : e.Advances (e.past n) :=
  ⟨e.queue.take n, (List.take_append_drop n e.queue).symm, rfl⟩

end Advances

-- Tasks append what they have to append, whether or not some of them signal.
theorem foldl_perform (tasks : List (Task α)) (e : Executor α) :
    tasks.foldl perform e =
      { e with
        board    := (tasks.foldl perform e).board
        appended := e.appended ++ tasks.filterMap Task.value? } := by
  induction tasks generalizing e
  case nil => simp
  case cons task rest hi =>
    rw [List.foldl_cons, hi, List.filterMap_cons]
    cases task <;> simp [perform, signal, Task.value?]

theorem foldl_perform_quiet (h : .signal ∉ tasks) (e : Executor α) :
    (tasks.foldl perform e).board = e.board := by
  induction tasks generalizing e
  case nil => rfl
  case cons task rest hi =>
    have ⟨ht, hr⟩ := not_or.mp (mt List.mem_cons.mpr h)
    cases task
    case append => exact hi hr _
    case signal => exact absurd rfl ht

theorem foldl_perform_signals (h : .signal ∈ tasks) (e : Executor α) :
    e.board.Signals (tasks.foldl perform e).board := by
  induction tasks generalizing e
  case nil => cases h
  case cons task rest hi =>
    by_cases hr : .signal ∈ rest
    case pos =>
      cases task
      case append value => exact hi hr (e.perform (.append value))
      case signal       => exact .trans .one (hi hr e.signal)
    case neg =>
      cases (List.mem_cons.mp h).resolve_right hr
      exact (foldl_perform_quiet hr e.signal) ▸ .one

theorem takeTurn_eq (e : Executor α) :
    e.takeTurn = { e.past turn with board := e.takeTurn.board } :=
  foldl_perform (e.queue.take turn) { e with queue := e.queue.drop turn }

theorem takeTurn_quiet (h : .signal ∉ e.queue.take turn) : e.takeTurn = e.past turn := by
  rw [takeTurn_eq]
  exact congrArg (fun board => { e.past turn with board })
    (foldl_perform_quiet h { e with queue := e.queue.drop turn })

theorem takeTurn_signals (h : .signal ∈ e.queue.take turn) : e.board.Signals e.takeTurn.board :=
  foldl_perform_signals h { e with queue := e.queue.drop turn }

theorem takeTurn_advances : e.Advances e.takeTurn := by
  rw [takeTurn_eq]
  exact .past (n := turn)

theorem past_past (m n : Nat) (e : Executor α) : (e.past m).past n = e.past (m + n) := by
  simp [past, List.drop_drop, List.take_add]

theorem check_calm (h : e.board.Calm l) : e.check l = (e, false) := by
  simp only [check, h.check]

-- Signals were sent, and some tasks were run.
def Alarms (e e' : Executor α) : Prop :=
  e.board.Signals e'.board ∧ e.Advances e'

-- A job is cancelled by the first look after an alarm.
def Cancelled (l : Nat) (e e' : Executor α) : Prop :=
  ∃ e₁ : Executor α, e.Alarms e₁ ∧ e' = (e₁.check l).1

theorem Alarms.look (h : e.Alarms e') (hc : e.board.Calm l) :
    ∃ e₁, e'.check l = (e₁, true) ∧ e.Cancelled l e₁ :=
  ⟨(e'.check l).1, Prod.ext rfl (h.left.told hc), e', h, rfl⟩

theorem Alarms.signalIf (h : e.Alarms e') (b : Bool) : e.Alarms (e'.signalIf b) := by
  cases b
  case false => exact h
  case true  => exact ⟨.more h.left, h.right⟩

theorem Alarms.hailed (h : e.Alarms e') : e.Alarms (e'.drawn.signalIf e'.chance.hailed) :=
  have hd : e.Alarms e'.drawn := h
  hd.signalIf _

theorem Alarms.takeTurn (h : e.Alarms e') : e.Alarms e'.takeTurn := by
  have ⟨hb, ha⟩ := h
  refine ⟨?_, ha.trans takeTurn_advances⟩
  by_cases hs : .signal ∈ e'.queue.take turn
  case pos => exact hb.trans (takeTurn_signals hs)
  case neg => exact takeTurn_quiet hs ▸ hb

theorem Alarms.past (h : (e.past n).Alarms e') : e.Alarms e' :=
  ⟨h.left, Advances.past.trans h.right⟩

theorem Cancelled.past (h : (e.past n).Cancelled l e') : e.Cancelled l e' :=
  h.imp fun _ ⟨ha, he⟩ => ⟨ha.past, he⟩

theorem runTasks_quiet (hc : e.board.Calm l) (h : .signal ∉ e.queue.take (n * turn)) :
    e.runTasks l n = (e.past (n * turn), false) := by
  induction n generalizing e
  case zero => simp [runTasks, past]
  case succ n hi =>
    rw [Nat.succ_mul, Nat.add_comm, List.take_add, List.mem_append, not_or] at h
    have ht := takeTurn_quiet h.left
    have hn := hi (e := e.past turn) hc h.right
    simp only [runTasks, ht, check_calm (e := e.past turn) hc, hn, past_past]
    simp [Nat.succ_mul, Nat.add_comm]

-- After an alarm the first turn is the last one.
theorem runTasks_alarm (hc : e.board.Calm l) (h : e.Alarms e') :
    (∃ e₁, e'.runTasks l n = (e₁, true) ∧ e.Cancelled l e₁) ∨
      n = 0 ∧ e'.runTasks l n = (e', false) := by
  cases n
  case zero => exact .inr ⟨rfl, rfl⟩
  case succ n =>
    have ⟨e₁, hl, hx⟩ := h.takeTurn.look hc
    exact .inl ⟨e₁, by simp [runTasks, hl], hx⟩

theorem runTasks_signals (hc : e.board.Calm l) (h : .signal ∈ e.queue.take (n * turn)) :
    ∃ e', e.runTasks l n = (e', true) ∧ e.Cancelled l e' := by
  induction n generalizing e
  case zero => simp at h
  case succ n hi =>
    by_cases hf : .signal ∈ e.queue.take turn
    case pos =>
      have ha : e.Alarms e.takeTurn := ⟨takeTurn_signals hf, takeTurn_advances⟩
      have ⟨e₁, hl, hx⟩ := ha.look hc
      exact ⟨e₁, by simp [runTasks, hl], hx⟩
    case neg =>
      rw [Nat.succ_mul, Nat.add_comm, List.take_add, List.mem_append] at h
      have ⟨e', hr, hx⟩ := hi (e := e.past turn) hc (h.resolve_left hf)
      refine ⟨e', ?_, hx.past⟩
      simpa [runTasks, takeTurn_quiet hf, check_calm (e := e.past turn) hc] using hr

@[simp]
theorem lookIf_false (l : Nat) (e : Executor α) : e.lookIf false l = (e, false) :=
  rfl

theorem lookIf_calm (hc : e.board.Calm l) (b : Bool) : e.lookIf b l = (e, false) := by
  cases b
  case false => rfl
  case true  => exact check_calm hc

theorem Alarms.lookIf (h : e.Alarms e') (hc : e.board.Calm l) (b : Bool) :
    (∃ e₁, e'.lookIf b l = (e₁, true) ∧ e.Cancelled l e₁) ∨
      b = false ∧ e'.lookIf b l = (e', false) := by
  cases b
  case false => exact .inr ⟨rfl, rfl⟩
  case true  => exact .inl (h.look hc)

theorem arrive_quiet (hc : e.board.Calm l) (hh : e.chance.hailed = false) :
    e.arrive l = (e.drawn, false) := by
  have hl := lookIf_calm (e := e.drawn) hc e.chance.early
  simpa [arrive, signalIf, hh] using hl

-- If there was an alarm before a poll, that poll finds out, unless it finishes the job first.
theorem pend_alarm (step : Unfinished) (hc : e.board.Calm l)
    (h : e.Alarms (e'.drawn.signalIf e'.chance.hailed)) :
    ∃ e₁, e'.pend l step = (e₁, true) ∧ e.Cancelled l e₁ := by
  obtain ⟨e₁, hl, hx⟩ | ⟨hy, hl⟩ := h.lookIf hc e'.chance.early
  case inl => exact ⟨e₁, by simp [pend, arrive, hl], hx⟩
  case inr =>
    have ⟨e₁, hp, hx⟩ := (h.signalIf step.signals).look hc
    exact ⟨e₁, by simp [pend, arrive, hy, Executor.lookIf, hp], hx⟩

theorem mem_tasksDue : .signal ∈ e.queue.take e.tasksDue ↔
    .signal ∈ e.queue.take (e.turnsLater * turn) ∨
      .signal ∈ (e.queue.drop (e.turnsLater * turn)).take turn := by
  rw [tasksDue, Nat.succ_mul, List.take_add, List.mem_append]

theorem takeTurn_last (h : .signal ∈ e.queue.take turn ∨ step.outside = true) :
    e.Alarms (e.takeTurn.signalIf step.outside) := by
  by_cases ht : .signal ∈ e.queue.take turn
  case pos =>
    have ha : e.Alarms e.takeTurn := ⟨takeTurn_signals ht, takeTurn_advances⟩
    exact ha.signalIf step.outside
  case neg =>
    rw [takeTurn_quiet ht, h.resolve_left ht]
    exact ⟨.one, .past⟩

-- The tasks that are due before the last turn.
def beforeLast (e : Executor α) : Executor α :=
  e.drawn.past (e.turnsLater * turn)

theorem next_eq : e.next = e.beforeLast.past turn := by
  rw [next, beforeLast, past_past, tasksDue, Nat.succ_mul]

theorem pend_quiet (hc : e.board.Calm l) (h : ¬e.Disturbs step) :
    e.pend l step = (e.next, false) := by
  simp only [Disturbs, mem_tasksDue, not_or, Bool.not_eq_true] at h
  have ⟨hh, hp, ⟨ht, hk⟩, ho⟩ := h
  have ha := arrive_quiet hc hh
  have hb := lookIf_calm (e := e.drawn) hc
  have hr : e.drawn.runTasks l e.turnsLater = (e.beforeLast, false) := runTasks_quiet hc ht
  have hq : e.beforeLast.takeTurn = e.next := (takeTurn_quiet hk).trans next_eq.symm
  have hl := lookIf_calm (e := e.next) hc
  simp [pend, ha, hb, hr, hq, hl, signalIf, hp, ho]

theorem pend_seen (hc : e.board.Calm l) (h : e.Disturbs step) (hu : ¬e.Unseen step) :
    ∃ e₁, e.pend l step = (e₁, true) ∧ e.Cancelled l e₁ := by
  by_cases hh : e.chance.hailed = true
  case pos => exact pend_alarm step hc (hh ▸ ⟨.one, .refl⟩)
  case neg =>
    have hn := arrive_quiet hc (Bool.eq_false_iff.mpr hh)
    by_cases hp : step.signals = true
    case pos =>
      have ha : e.Alarms e.drawn.signal := ⟨.one, .refl⟩
      obtain ⟨e₁, hl, hx⟩ | ⟨hy, hl⟩ := ha.lookIf hc (!e.chance.early)
      case inl => exact ⟨e₁, by simp [pend, hn, signalIf, hp, hl], hx⟩
      case inr =>
        obtain ⟨e₁, hr, hx⟩ | ⟨ht, hr⟩ := runTasks_alarm (n := e.turnsLater) hc ha
        case inl => exact ⟨e₁, by simp [pend, hn, signalIf, hp, hl, hr], hx⟩
        case inr =>
          obtain ⟨e₁, hk, hx⟩ | ⟨ho, _⟩ :=
            (ha.takeTurn.signalIf step.outside).lookIf hc (!e.chance.atOnce)
          case inl => exact ⟨e₁, by simpa [pend, hn, signalIf, hp, hl, hr] using hk, hx⟩
          case inr =>
            refine absurd ⟨by simpa using hh, fun _ => ⟨by simpa using hy, ht⟩, ?task, ?atOnce⟩ hu
            case task   => simp [ht]
            case atOnce => simpa using ho
    case neg =>
      have hl := lookIf_calm (e := e.drawn) hc (!e.chance.early)
      by_cases ht : .signal ∈ e.queue.take (e.turnsLater * turn)
      case pos =>
        have ⟨e₁, hr, hx⟩ := runTasks_signals (e := e.drawn) hc ht
        exact ⟨e₁, by simp [pend, hn, signalIf, hp, hl, hr], hx⟩
      case neg =>
        have hr : e.drawn.runTasks l e.turnsLater = (e.beforeLast, false) := runTasks_quiet hc ht
        have hd := (h.resolve_left hh).resolve_left hp
        have ha := takeTurn_last (e := e.beforeLast)
          (hd.imp_left fun h => (mem_tasksDue.mp h).resolve_left ht)
        obtain ⟨e₁, hk, hx⟩ | ⟨ho, _⟩ := ha.lookIf hc (!e.chance.atOnce)
        case inl => exact ⟨e₁, by simpa [pend, hn, signalIf, hp, hl, hr] using hk, hx.past⟩
        case inr =>
          exact absurd ⟨by simpa using hh, fun h => absurd h hp, ht, by simpa using ho⟩ hu

-- Signals that no look comes after leave only the board another one than without them.
theorem pend_unseen (hc : e.board.Calm l) (h : e.Disturbs step) (hu : e.Unseen step) :
    ∃ b, e.pend l step = ({ e.next with board := b }, false) ∧ e.board.Signals b := by
  have hn := arrive_quiet hc hu.hailed
  have hd := h.resolve_left (Bool.eq_false_iff.mp hu.hailed)
  have he (e₁ : Executor α) : e₁.takeTurn.signalIf step.outside =
      { e₁.past turn with board := (e₁.takeTurn.signalIf step.outside).board } := by
    rw [takeTurn_eq]
    cases step.outside <;> rfl
  by_cases hp : step.signals = true
  case pos =>
    have ⟨hy, ht⟩ := hu.poll hp
    have ha : e.Alarms e.drawn.signal := ⟨.one, .refl⟩
    have hk : e.pend l step = (e.drawn.signal.takeTurn.signalIf step.outside, false) := by
      simp [pend, hn, hp, hy, ht, hu.atOnce, runTasks, signalIf]
    have hx : e.next = e.drawn.past turn := by simp [next, tasksDue, ht]
    refine ⟨_, ?_, (ha.takeTurn.signalIf step.outside).left⟩
    exact hx ▸ hk.trans (congrArg (·, false) (he e.drawn.signal))
  case neg =>
    have hl := lookIf_calm (e := e.drawn) hc (!e.chance.early)
    have hr : e.drawn.runTasks l e.turnsLater = (e.beforeLast, false) :=
      runTasks_quiet hc hu.task
    have hk : e.pend l step = (e.beforeLast.takeTurn.signalIf step.outside, false) := by
      simp [pend, hn, hp, hl, hr, hu.atOnce, signalIf]
    have ha := takeTurn_last (e := e.beforeLast)
      ((hd.resolve_left hp).imp_left fun h => (mem_tasksDue.mp h).resolve_left hu.task)
    exact ⟨_, next_eq ▸ hk.trans (congrArg (·, false) (he e.beforeLast)), ha.left⟩

theorem interrupts_nil : Interrupts [] e ↔ e.chance.hailed = true := by
  constructor
  case mp =>
    intro h
    cases h
    case done h => exact h
  case mpr => exact .done

theorem interrupts_cons :
    Interrupts (step :: steps) e ↔ e.Disturbs step ∨ Interrupts steps e.next := by
  constructor
  case mp =>
    intro h
    cases h
    case now h   => exact .inl h
    case later h => exact .inr h
  case mpr => exact fun h => h.elim .now .later

theorem ties_nil : Ties [] e ↔ e.chance.hailed = true := by
  constructor
  case mp =>
    intro h
    cases h
    case done h => exact h
  case mpr => exact .done

theorem ties_cons : Ties (step :: steps) e ↔
    steps = [] ∧ e.Disturbs step ∧ e.Unseen step ∨ ¬e.Disturbs step ∧ Ties steps e.next := by
  constructor
  case mp =>
    intro h
    cases h
    case last hd hu  => exact .inl ⟨rfl, hd, hu⟩
    case later hd ht => exact .inr ⟨hd, ht⟩
  case mpr =>
    rintro (⟨rfl, hd, hu⟩ | ⟨hd, ht⟩)
    case inl => exact .last hd hu
    case inr => exact .later hd ht

theorem Ties.interrupts (h : Ties steps e) : Interrupts steps e := by
  induction h
  case done h       => exact .done h
  case last h _     => exact .now h
  case later _ _ hi => exact .later hi

theorem poll_quiet (job : Job α) (hc : e.board.Calm l) (h : ¬Interrupts steps e) :
    poll l job steps e = ((e.waited steps).drawn.signalIf job.signals, job.result) := by
  induction steps generalizing e
  case nil =>
    have ha := arrive_quiet hc (Bool.eq_false_iff.mpr (mt .done h))
    simp [poll, ha, waited]
  case cons step steps hi =>
    have ⟨hd, hl⟩ := not_or.mp (mt interrupts_cons.mpr h)
    simp only [poll, pend_quiet hc hd]
    exact hi (e := e.next) hc hl

theorem poll_interrupted (job : Job α) (hc : e.board.Calm l) (h : Interrupts steps e)
    (ht : ¬Ties steps e) :
    ∃ e', poll l job steps e = (e', .error .shutdown) ∧ e.Cancelled l e' := by
  induction steps generalizing e
  case nil =>
    cases h
    case done h => exact absurd (.done h) ht
  case cons step steps hi =>
    by_cases hd : e.Disturbs step
    case pos =>
      by_cases hu : e.Unseen step
      case neg =>
        have ⟨e', hp, hx⟩ := pend_seen hc hd hu
        exact ⟨e', by simp [poll, hp], hx⟩
      case pos =>
        have ⟨b, hp, hs⟩ := pend_unseen hc hd hu
        have ha : e.Alarms { e.next with board := b } := ⟨hs, .past (e := e.drawn)⟩
        cases steps
        case nil => exact absurd (.last hd hu) ht
        case cons step' steps =>
          have ⟨e', hp', hx⟩ := pend_alarm step' hc ha.hailed
          exact ⟨e', by simp [poll, hp, hp'], hx⟩
    case neg =>
      have hl := (interrupts_cons.mp h).resolve_left hd
      have ⟨e', hr, hx⟩ := hi (e := e.next) hc hl (mt (.later hd) ht)
      exact ⟨e', by simpa [poll, pend_quiet hc hd] using hr, hx.past (e := e.drawn)⟩

-- What a job comes to if the first look at a signal and its end are in one poll.
def Tied (l : Nat) (job : Job α) (e : Executor α) (early : Bool)
    (r : Executor α × Except Fault α) : Prop :=
  if early then r.2 = .error .shutdown ∧ e.Cancelled l r.1 else r.2 = job.result ∧ e.Alarms r.1

theorem Tied.past {early : Bool} {r : Executor α × Except Fault α}
    (h : Tied l job (e.past n) early r) : Tied l job e early r := by
  cases early
  case false => exact h.imp_right Alarms.past
  case true  => exact h.imp_right Cancelled.past

theorem poll_nil_alarm (job : Job α) (hc : e.board.Calm l)
    (h : e.Alarms (e'.drawn.signalIf e'.chance.hailed)) :
    Tied l job e e'.chance.early (poll l job [] e') := by
  cases hy : e'.chance.early
  case true =>
    have ⟨e₁, hl, hx⟩ := h.look hc
    have hp : poll l job [] e' = (e₁, .error .shutdown) := by simp [poll, arrive, lookIf, hy, hl]
    exact hp ▸ ⟨rfl, hx⟩
  case false =>
    have hp : poll l job [] e' =
        ((e'.drawn.signalIf e'.chance.hailed).signalIf job.signals, job.result) := by
      simp [poll, arrive, hy]
    exact hp ▸ ⟨rfl, h.signalIf job.signals⟩

theorem poll_ties (job : Job α) (hc : e.board.Calm l) (h : Ties steps e) :
    Tied l job e (e.waited steps).chance.early (poll l job steps e) := by
  induction steps generalizing e
  case nil =>
    cases h
    case done hh => exact poll_nil_alarm job hc (hh ▸ ⟨.one, .refl⟩)
  case cons step steps hi =>
    cases h
    case last hd hu =>
      have ⟨b, hp, hs⟩ := pend_unseen hc hd hu
      have ha : e.Alarms { e.next with board := b } := ⟨hs, .past (e := e.drawn)⟩
      simp only [poll, hp]
      exact poll_nil_alarm job hc ha.hailed
    case later hd ht =>
      simp only [poll, pend_quiet hc hd]
      exact (hi (e := e.next) hc ht).past (e := e.drawn)

-- What a wait comes to has nothing to do with the board.
theorem interrupts_board {b : Board} :
    Interrupts steps { e with board := b } ↔ Interrupts steps e := by
  induction steps generalizing e
  case nil => exact interrupts_nil.trans (interrupts_nil (e := e)).symm
  case cons step rest hi =>
    rw [interrupts_cons, interrupts_cons]
    exact or_congr_right (hi (e := e.next))

theorem ties_board {b : Board} : Ties steps { e with board := b } ↔ Ties steps e := by
  have hu (e : Executor α) (step : Unfinished) :
      Unseen { e with board := b } step ↔ e.Unseen step :=
    ⟨fun ⟨hh, hp, ht, ho⟩ => ⟨hh, hp, ht, ho⟩, fun ⟨hh, hp, ht, ho⟩ => ⟨hh, hp, ht, ho⟩⟩
  induction steps generalizing e
  case nil => exact ties_nil.trans (ties_nil (e := e)).symm
  case cons step rest hi =>
    rw [ties_cons, ties_cons, hu]
    exact or_congr_right (and_congr_right fun _ => hi (e := e.next))

theorem waited_board {b : Board} :
    waited steps { e with board := b } = { e.waited steps with board := b } := by
  induction steps generalizing e
  case nil               => rfl
  case cons step rest hi => exact hi (e := e.next)

theorem waited_advances : e.Advances (e.waited steps) := by
  induction steps generalizing e
  case nil               => exact .refl
  case cons step rest hi =>
    have ha : e.Advances e.next := .past (e := e.drawn)
    exact ha.trans hi

-- An executor whose job has a listener, and one whose job had that listener.
def entered (e : Executor α) : Executor α :=
  { e with board := e.board.newListener.1 }

def left (l : Nat) (e : Executor α) : Executor α :=
  { e with board := e.board.dropListener l }

theorem executeInPlace_eq (job : Job α) (e : Executor α) :
    e.executeInPlace job =
      let r := e.entered.poll e.board.listeners.length job job.unfinished
      (r.1.left e.board.listeners.length, r.2) :=
  rfl

theorem executeInPlace_quiet (hh : e.board.hasHandle = true) (h : ¬Interrupts job.unfinished e) :
    e.executeInPlace job =
      (((e.entered.waited job.unfinished).drawn.signalIf job.signals).left
        e.board.listeners.length, job.result) := by
  have hp := poll_quiet (e := e.entered) job (.newListener hh) (mt interrupts_board.mp h)
  rw [executeInPlace_eq, hp]

theorem executeInPlace_interrupted (hh : e.board.hasHandle = true)
    (h : Interrupts job.unfinished e) (ht : ¬Ties job.unfinished e) :
    ∃ e', e.executeInPlace job = (e'.left e.board.listeners.length, .error .shutdown) ∧
      e.entered.Cancelled e.board.listeners.length e' := by
  have ⟨e', hp, hx⟩ := poll_interrupted (e := e.entered) job (.newListener hh)
    (interrupts_board.mpr h) (mt ties_board.mp ht)
  exact ⟨e', by rw [executeInPlace_eq, hp], hx⟩

-- In a tie the order decides in which the last poll looks at the listener and the job.
theorem executeInPlace_ties (hh : e.board.hasHandle = true) (h : Ties job.unfinished e) :
    ∃ e' r, e.executeInPlace job = (e'.left e.board.listeners.length, r) ∧
      Tied e.board.listeners.length job e.entered (e.waited job.unfinished).chance.early
        (e', r) := by
  have ht := poll_ties (e := e.entered) job (.newListener hh) (ties_board.mpr h)
  have hw : (e.entered.waited job.unfinished).chance = (e.waited job.unfinished).chance :=
    (congrArg chance waited_board).trans rfl
  exact ⟨_, _, executeInPlace_eq job e, hw ▸ ht⟩

-- A signal while the job is unfinished leaves an alarm, which was looked at if the job was
-- cancelled.
theorem executeInPlace_signals (hh : e.board.hasHandle = true) (h : Interrupts job.unfinished e) :
    ∃ e', (e.executeInPlace job).1 = e'.left e.board.listeners.length ∧
      (e.entered.Cancelled e.board.listeners.length e' ∨ e.entered.Alarms e') := by
  by_cases ht : Ties job.unfinished e
  case neg =>
    have ⟨e', he, hx⟩ := executeInPlace_interrupted hh h ht
    exact ⟨e', congrArg Prod.fst he, .inl hx⟩
  case pos =>
    have ⟨e', r, he, hr⟩ := executeInPlace_ties hh ht
    refine ⟨e', congrArg Prod.fst he, ?_⟩
    rw [Tied] at hr
    split at hr
    case isTrue  => exact .inl hr.right
    case isFalse => exact .inr hr.right

theorem executeInPlace_rest (hh : e.board.hasHandle = true) (h : ¬Interrupts job.unfinished e) :
    (e.executeInPlace job).1.queue = (e.waited job.unfinished).queue ∧
      (e.executeInPlace job).1.appended = (e.waited job.unfinished).appended := by
  have hw : e.entered.waited job.unfinished =
      { e.waited job.unfinished with board := e.board.newListener.1 } := waited_board
  rw [executeInPlace_quiet hh h, hw]
  cases job.signals <;> exact ⟨rfl, rfl⟩

@[simp]
theorem signalIf_queue (b : Bool) (e : Executor α) : (e.signalIf b).queue = e.queue := by
  cases b <;> rfl

@[simp]
theorem signalIf_appended (b : Bool) (e : Executor α) : (e.signalIf b).appended = e.appended := by
  cases b <;> rfl

@[simp]
theorem arrive_queue (l : Nat) (e : Executor α) : (e.arrive l).1.queue = e.queue := by
  cases hy : e.chance.early <;> simp [arrive, lookIf, hy, check, drawn]

@[simp]
theorem arrive_appended (l : Nat) (e : Executor α) : (e.arrive l).1.appended = e.appended := by
  cases hy : e.chance.early <;> simp [arrive, lookIf, hy, check, drawn]

-- No task runs if a job is ready when it is first polled.
theorem executeInPlace_ready (hu : job.unfinished = []) :
    (e.executeInPlace job).1.queue = e.queue ∧ (e.executeInPlace job).1.appended = e.appended := by
  rw [executeInPlace_eq, hu]
  simp only [poll]
  split
  case isTrue  => exact ⟨arrive_queue .., arrive_appended ..⟩
  case isFalse => exact ⟨by simp [left, entered], by simp [left, entered]⟩

theorem executeInPlace_advances (job : Job α) (hh : e.board.hasHandle = true) :
    e.Advances (e.executeInPlace job).1 := by
  by_cases hi : Interrupts job.unfinished e
  case pos =>
    have ⟨e', he, hx⟩ := executeInPlace_signals hh hi
    rw [he]
    obtain ⟨e₁, ⟨_, ha⟩, hx⟩ | ⟨_, ha⟩ := hx
    case inl => exact hx ▸ ha
    case inr => exact ha
  case neg =>
    have ⟨hq, ha⟩ := executeInPlace_rest hh hi
    rw [Advances, hq, ha]
    exact waited_advances

end Executor

end Shutdown

end EngineBench
