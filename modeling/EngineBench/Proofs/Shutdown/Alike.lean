import EngineBench.Proofs.Shutdown.Jobs

namespace EngineBench

namespace Shutdown

variable {α : Type}

namespace Board

variable {b : Board} {l : Nat}

-- A listener that is told by its next look.
def Told (b : Board) (l : Nat) : Prop :=
  (b.check l).2 = true

theorem Told.signal (h : b.Told l) : b.signal.1.Told l :=
  check_move (m := .signal) trivial nofun h

theorem Told.check (h : b.Told l) : (b.check l).1.Told l := by
  have ⟨x, hx, _⟩ := check_iff.mp h
  exact check_move (m := .check l) (Option.isSome_iff_exists.mpr ⟨x, hx⟩) nofun h

theorem Calm.signal (h : b.Calm l) : b.signal.1.Told l :=
  Signals.one.told h

end Board

namespace Executor

variable {e e' : Executor α} {l l' : Nat} {job : Job α}

-- Executors that run a job alike whatever became of their boards: the job's listener has no past.
structure Alike (l l' : Nat) (e e' : Executor α) : Prop where
  queue   : e.queue = e'.queue
  chances : e.chances = e'.chances
  board   : e.board.Calm l ∧ e'.board.Calm l' ∨ e.board.Told l ∧ e'.board.Told l'

-- Two results with executors that are alike.
def Agree {β : Type} (l l' : Nat) (r r' : Executor α × β) : Prop :=
  r.2 = r'.2 ∧ Alike l l' r.1 r'.1

-- What is done unless the job was cancelled.
theorem Agree.unless {β : Type} {r r' : Executor α × Bool} {f f' : Executor α → Executor α × β}
    {v : β} (h : Agree l l' r r') (hf : ∀ {e e'}, Alike l l' e e' → Agree l l' (f e) (f' e')) :
    Agree l l' (if r.2 then (r.1, v) else f r.1) (if r'.2 then (r'.1, v) else f' r'.1) := by
  have ⟨hs, ha⟩ := h
  rw [hs]
  split
  case isTrue  => exact ⟨rfl, ha⟩
  case isFalse => exact hf ha

namespace Alike

theorem signal (h : Alike l l' e e') : Alike l l' e.signal e'.signal where
  queue   := h.queue
  chances := h.chances
  board   := .inr (h.board.elim (fun hb => ⟨hb.left.signal, hb.right.signal⟩)
    fun hb => ⟨hb.left.signal, hb.right.signal⟩)

theorem signalIf (h : Alike l l' e e') (b : Bool) : Alike l l' (e.signalIf b) (e'.signalIf b) := by
  cases b
  case false => exact h
  case true  => exact h.signal

theorem drawn (h : Alike l l' e e') : Alike l l' e.drawn e'.drawn :=
  ⟨h.queue, congrArg List.tail h.chances, h.board⟩

theorem perform (h : Alike l l' e e') (task : Task α) :
    Alike l l' (e.perform task) (e'.perform task) := by
  cases task
  case append => exact ⟨h.queue, h.chances, h.board⟩
  case signal => exact h.signal

theorem foldl_perform (h : Alike l l' e e') (tasks : List (Task α)) :
    Alike l l' (tasks.foldl Executor.perform e) (tasks.foldl Executor.perform e') := by
  induction tasks generalizing e e'
  case nil               => exact h
  case cons task rest hi => exact hi (h.perform task)

theorem takeTurn (h : Alike l l' e e') : Alike l l' e.takeTurn e'.takeTurn := by
  have hs : Alike l l' { e with queue := e.queue.drop turn }
      { e' with queue := e'.queue.drop turn } :=
    ⟨congrArg (List.drop turn) h.queue, h.chances, h.board⟩
  have ht := hs.foldl_perform (e.queue.take turn)
  rwa [Executor.takeTurn, Executor.takeTurn, ← h.queue] at *

theorem check (h : Alike l l' e e') : Agree l l' (e.check l) (e'.check l') := by
  obtain ⟨hc, hc'⟩ | ⟨ht, ht'⟩ := h.board
  case inl => rw [check_calm hc, check_calm hc']; exact ⟨rfl, h⟩
  case inr => exact ⟨ht.trans ht'.symm, h.queue, h.chances, .inr ⟨ht.check, ht'.check⟩⟩

theorem runTasks (h : Alike l l' e e') (n : Nat) :
    Agree l l' (e.runTasks l n) (e'.runTasks l' n) := by
  induction n generalizing e e'
  case zero => exact ⟨rfl, h⟩
  case succ n hi =>
    simp only [Executor.runTasks]
    exact h.takeTurn.check.unless hi

theorem lookIf (h : Alike l l' e e') (b : Bool) :
    Agree l l' (e.lookIf b l) (e'.lookIf b l') := by
  cases b
  case false => exact ⟨rfl, h⟩
  case true  => exact h.check

theorem chance (h : Alike l l' e e') : e.chance = e'.chance :=
  congrArg (·.head?.getD .usual) h.chances

theorem arrive (h : Alike l l' e e') : Agree l l' (e.arrive l) (e'.arrive l') := by
  rw [Executor.arrive, Executor.arrive, h.chance]
  exact (h.drawn.signalIf _).lookIf _

theorem pend (h : Alike l l' e e') (step : Unfinished) :
    Agree l l' (e.pend l step) (e'.pend l' step) := by
  have ht : e.turnsLater = e'.turnsLater := by
    simp only [turnsLater, h.chance, h.queue]
  simp only [Executor.pend, h.chance, ht]
  exact h.arrive.unless fun ha =>
    ((ha.signalIf _).lookIf _).unless fun hp =>
      (hp.runTasks _).unless fun hr => (hr.takeTurn.signalIf _).lookIf _

theorem poll (h : Alike l l' e e') (job : Job α) (steps : List Unfinished) :
    Agree l l' (e.poll l job steps) (e'.poll l' job steps) := by
  induction steps generalizing e e'
  case nil =>
    have hf {e e' : Executor α} (h : Alike l l' e e') :
        Agree l l' (e.signalIf job.signals, job.result) (e'.signalIf job.signals, job.result) :=
      ⟨rfl, h.signalIf job.signals⟩
    simp only [Executor.poll]
    exact h.arrive.unless hf
  case cons step steps hi =>
    simp only [Executor.poll]
    exact (h.pend step).unless hi

end Alike

theorem executeInPlace_alike (hh : e.board.hasHandle = true) (hh' : e'.board.hasHandle = true)
    (hq : e.queue = e'.queue) (hc : e.chances = e'.chances) :
    let r := e.executeInPlace job
    let r' := e'.executeInPlace job
    r.2 = r'.2 ∧ r.1.queue = r'.1.queue ∧ r.1.chances = r'.1.chances := by
  have ha : Alike e.board.listeners.length e'.board.listeners.length e.entered e'.entered :=
    ⟨hq, hc, .inl ⟨.newListener hh, .newListener hh'⟩⟩
  have ⟨hs, ha⟩ := ha.poll job job.unfinished
  exact ⟨hs, ha.queue, ha.chances⟩

end Executor

end Shutdown

end EngineBench
