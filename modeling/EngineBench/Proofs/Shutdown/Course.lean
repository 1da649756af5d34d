import EngineBench.Proofs.Shutdown.Alike

namespace EngineBench

namespace Shutdown

variable {α : Type}

namespace Executor

variable {e e' e₁ : Executor α} {d : Deed α} {ds more : List (Deed α)} {job : Job α}
  {chances : List Chance} {l : Nat}

theorem sends_run_iff : e.Sends (.run job) ↔ Interrupts job.unfinished e ∨ job.signals = true := by
  constructor
  case mp =>
    intro h
    cases h
    case waiting h  => exact .inl h
    case finished h => exact .inr h
  case mpr => exact fun h => h.elim .waiting .finished

theorem sent_cons_iff : Sent (d :: ds) e ↔ e.Sends d ∨ Sent ds (e.act d) := by
  constructor
  case mp =>
    intro h
    cases h
    case now h   => exact .inl h
    case later h => exact .inr h
  case mpr => exact fun h => h.elim .now .later

theorem not_sent_nil : ¬Sent [] e :=
  nofun

theorem sent_append_iff : Sent (ds ++ more) e ↔ Sent ds e ∨ Sent more (ds.foldl act e) := by
  induction ds generalizing e
  case nil => exact (or_iff_right not_sent_nil).symm
  case cons d ds hi =>
    rw [List.cons_append, sent_cons_iff, sent_cons_iff, or_assoc, List.foldl_cons]
    exact or_congr_right hi

namespace Reaches

theorem eq_foldl (hr : e.Reaches ds e') : e' = ds.foldl Executor.act e := by
  induction hr
  case refl     => rfl
  case act _ hi => rw [List.foldl_append, hi]; rfl

theorem trans (hr : e.Reaches ds e₁) (hr' : e₁.Reaches more e') : e.Reaches (ds ++ more) e' := by
  induction hr'
  case refl      => exact (List.append_nil ds).symm ▸ hr
  case act hd hi => exact List.append_assoc .. ▸ .act hi hd

theorem cons (hd : e.Allows d) (hr : (e.act d).Reaches ds e') : e.Reaches (d :: ds) e' :=
  (Reaches.act .refl hd).trans hr

end Reaches

-- The moves of an alarm, and the listener is still there.
theorem alarm_moves (hc : e.board.Calm l) (h : e.Cancelled l e' ∨ e.Alarms e') :
    ∃ ms, e.board.Reaches ms e'.board ∧ (∀ m ∈ ms, m = .signal ∨ m = .check l) ∧ .signal ∈ ms ∧
      (e'.board.listener? l).isSome = true := by
  have hs {b : Board} (h : e.board.Signals b) : (b.listener? l).isSome = true := by
    rw [h.listener?, hc.listener]
    rfl
  obtain ⟨e₁, ⟨hb, _⟩, rfl⟩ | ⟨hb, _⟩ := h
  case inl =>
    have ⟨n, hr⟩ := hb.reaches
    refine ⟨_, hr.move (m := .check l) (hs hb), ?moves, ?signal, ?listener⟩
    case moves    => simp
    case signal   => simp
    case listener => simpa [check, Board.listener?_check] using hs hb
  case inr =>
    have ⟨n, hr⟩ := hb.reaches
    exact ⟨_, hr, by simp, by simp, hs hb⟩

-- The moves of a run: a new listener, some signals, a look if the job is cancelled, and the end of
-- the listener.
theorem executeInPlace_moves (job : Job α) (hh : e.board.hasHandle = true) :
    ∃ ms, e.board.Reaches ms (e.executeInPlace job).1.board ∧
      (∀ m ∈ ms, m = .newListener ∨ m = .signal ∨ m = .check e.board.listeners.length ∨
        m = .dropListener e.board.listeners.length) ∧
      (.signal ∈ ms ↔ e.Sends (.run job)) := by
  have hc := Board.Calm.newListener hh
  by_cases hi : Interrupts job.unfinished e
  case pos =>
    have ⟨e', he, hx⟩ := executeInPlace_signals hh hi
    have ⟨ms, hr, hm, hs, hl⟩ := alarm_moves (e := e.entered) hc hx
    have hr := hr.move (m := .dropListener e.board.listeners.length) hl
    rw [he]
    refine ⟨_, Board.Reaches.cons (m := .newListener) trivial hr, ?moves, ?signal⟩
    case moves =>
      intro m h
      simp only [List.mem_cons, List.mem_append, List.not_mem_nil, or_false] at h
      obtain rfl | h | rfl := h
      case inl     => exact .inl rfl
      case inr.inl => exact .inr ((hm m h).imp_right .inl)
      case inr.inr => exact .inr (.inr (.inr rfl))
    case signal => simp [sends_run_iff, hi, hs]
  case neg =>
    have hb : (e.executeInPlace job).1.board =
        (if job.signals then e.board.newListener.1.signal.1 else e.board.newListener.1).dropListener
          e.board.listeners.length := by
      rw [executeInPlace_quiet hh hi]
      have hw : (e.entered.waited job.unfinished).drawn.board = e.board.newListener.1 :=
        (congrArg board waited_board).trans rfl
      cases job.signals <;> simp [signalIf, signal, left, hw]
    rw [hb]
    cases hs : job.signals
    case false =>
      have hr := (Board.Reaches.refl (b := e.board.newListener.1)).move
        (m := .dropListener e.board.listeners.length) (by simp [Board.Allows, hc.listener])
      refine ⟨_, Board.Reaches.cons (m := .newListener) trivial hr, ?moves, ?signal⟩
      case moves  => simp
      case signal => simp [sends_run_iff, hi, hs]
    case true =>
      have hl : (e.board.newListener.1.move .signal).listener? e.board.listeners.length =
          some ⟨e.board.sent, false⟩ :=
        Board.listener?_move.trans hc.listener
      have hr := (Board.Reaches.refl (b := e.board.newListener.1)).move (m := .signal) trivial
      have hr := hr.move (m := .dropListener e.board.listeners.length) (by simp [Board.Allows, hl])
      refine ⟨_, Board.Reaches.cons (m := .newListener) trivial hr, ?moves, ?signal⟩
      case moves  => simp
      case signal => simp [sends_run_iff, hs]

theorem act_moves (hh : e.board.hasHandle = true) (hl : 0 < e.board.listeners.length)
    (ha : e.Allows d) :
    ∃ ms, e.board.Reaches ms (e.act d).board ∧ .dropHandle 0 ∉ ms ∧
      (.dropListener 0 ∈ ms → d = .move (.dropListener 0)) ∧ (.signal ∈ ms ↔ e.Sends d) := by
  cases d
  case spawn t => exact ⟨[], .refl, nofun, nofun, nofun, nofun⟩
  case move m =>
    refine ⟨[m], Board.Reaches.refl.move ha.left, ?handle, ?listener, ?signal⟩
    case handle   => simpa using Ne.symm ha.right
    case listener => exact fun h => by rw [List.mem_singleton.mp h]
    case signal   =>
      rw [List.mem_singleton]
      exact ⟨fun h => h ▸ .move, fun h => by cases h; rfl⟩
  case run job =>
    have ⟨ms, hr, hm, hs⟩ := executeInPlace_moves job hh
    refine ⟨ms, hr, fun h => ?handle, fun h => ?listener, hs⟩
    case handle   => simpa using hm _ h
    case listener =>
      have he := hm _ h
      simp at he
      omega

-- The first listener hears every signal that is sent after it was made.
theorem signalled_first_iff {ms : List Move} : Signalled 0 (.newListener :: ms) ↔ .signal ∈ ms := by
  constructor
  case mp =>
    intro ⟨before, after, he, hc, hs⟩
    cases before
    case nil => exact (List.cons.inj he).right ▸ hs
    case cons m before =>
      rw [← (List.cons.inj he).left, List.count_cons_self] at hc
      cases hc
  case mpr => exact fun h => ⟨[], ms, rfl, rfl, h⟩

theorem hasHandle_of_held {b : Board} {ms : List Move} (hb : Board.new.Reaches ms b)
    (hh : .dropHandle 0 ∉ ms) : b.hasHandle = true :=
  Bool.of_not_eq_false fun h => hh (hb.hasHandle_iff.mp h 0 (Nat.succ_pos _))

namespace Reaches

-- A course of deeds as one of moves: the first listener is made at the start, and the first handle
-- stays.
theorem moves (hr : (start chances : Executor α).Reaches ds e) :
    ∃ ms, Board.new.Reaches (.newListener :: ms) e.board ∧ .dropHandle 0 ∉ .newListener :: ms ∧
      (.dropListener 0 ∈ ms → .move (.dropListener 0) ∈ ds) ∧
      (.signal ∈ ms ↔ Sent ds (start chances : Executor α)) := by
  induction hr
  case refl =>
    exact ⟨[], .cons (m := .newListener) trivial .refl, by simp, nofun, nofun, nofun⟩
  case act ds e d hr hd hi =>
    have ⟨ms, hb, hh, hl, hs⟩ := hi
    have hn : 0 < e.board.listeners.length := by simp [hb.length_listeners]
    have ⟨more, hb', hh', hl', hs'⟩ := act_moves (hasHandle_of_held hb hh) hn hd
    refine ⟨ms ++ more, hb.trans hb', ?handle, ?listener, ?signal⟩
    case handle   => simpa using ⟨by simpa using hh, hh'⟩
    case listener =>
      intro h
      rw [List.mem_append] at h ⊢
      exact h.imp hl fun h => List.mem_singleton.mpr (hl' h).symm
    case signal   =>
      rw [List.mem_append, sent_append_iff, sent_cons_iff, ← hr.eq_foldl, hs, hs',
        or_iff_left not_sent_nil]

theorem hasHandle (hr : (start chances : Executor α).Reaches ds e) : e.board.hasHandle = true :=
  have ⟨_, hb, hh, _⟩ := hr.moves
  hasHandle_of_held hb hh

theorem check_iff (hr : (start chances : Executor α).Reaches ds e)
    (hd : .move (.dropListener 0) ∉ ds) :
    (e.check 0).2 = true ↔ Sent ds (start chances : Executor α) := by
  have ⟨ms, hb, hh, hl, hs⟩ := hr.moves
  have hd : .dropListener 0 ∉ Move.newListener :: ms := by simpa using mt hl hd
  have ha : ¬Abandoned (.newListener :: ms) := fun h => hh (h 0 (Nat.succ_pos _))
  rw [← hs, ← signalled_first_iff]
  exact (hb.check_iff ⟨by simp, hd⟩).trans (or_iff_left ha)

-- Tasks are run in the order they were spawned in, and none is lost.
theorem tasks (hr : (start chances : Executor α).Reaches ds e) :
    ∃ ran, ds.filterMap Deed.task? = ran ++ e.queue ∧ e.appended = ran.filterMap Task.value? := by
  induction hr
  case refl => exact ⟨[], rfl, rfl⟩
  case act ds e d hr hd hi =>
    have ⟨ran, hq, ha⟩ := hi
    rw [List.filterMap_append, hq]
    cases d
    case spawn t => exact ⟨ran, by simp [Executor.act, Executor.spawn, Deed.task?], ha⟩
    case move m  => exact ⟨ran, List.append_nil _, ha⟩
    case run job =>
      have ⟨ran', hq', ha'⟩ := executeInPlace_advances job hr.hasHandle
      refine ⟨ran ++ ran', ?queue, ?appended⟩
      case queue    => simp [Executor.act, Deed.task?, hq']
      case appended => rw [Executor.act, ha', ha, List.filterMap_append]

end Reaches

end Executor

-- A job is cancelled by a signal that is sent while it is unfinished, unless the poll that can
-- first see the signal is the one that finds the job ready to be finished. If no signal is sent in
-- that time its result is its own, whatever signals were sent before it began or are sent by the
-- poll that finishes it: executors with the same tasks and chances before them, and any past, give
-- it the same result. Tasks run while a job waits and at no other time, in the order they were
-- spawned in, and the first listener hears every signal of the whole course.
theorem jobs_cancelled_by_signals {chances : List Chance} {ds : List (Deed α)} {e : Executor α}
    (hr : (Executor.start chances).Reaches ds e) :
    (∀ job : Job α,
      (Executor.Interrupts job.unfinished e → ¬Executor.Ties job.unfinished e →
        (e.executeInPlace job).2 = .error .shutdown) ∧
      (¬Executor.Interrupts job.unfinished e →
        (e.executeInPlace job).2 = job.result ∧
        (e.executeInPlace job).1.queue = (e.waited job.unfinished).queue ∧
        (e.executeInPlace job).1.appended = (e.waited job.unfinished).appended) ∧
      (job.unfinished = [] →
        (e.chance.hailed = false → (e.executeInPlace job).2 = job.result) ∧
        (e.executeInPlace job).1.queue = e.queue ∧
        (e.executeInPlace job).1.appended = e.appended) ∧
      e.Advances (e.executeInPlace job).1) ∧
    (∀ chances' ds' e', (Executor.start chances').Reaches ds' e' →
      e'.queue = e.queue → e'.chances = e.chances → ∀ job : Job α,
        (e'.executeInPlace job).2 = (e.executeInPlace job).2 ∧
        (e'.executeInPlace job).1.queue = (e.executeInPlace job).1.queue ∧
        (e'.executeInPlace job).1.chances = (e.executeInPlace job).1.chances) ∧
    (∀ d, d.isRun = false → (e.act d).appended = e.appended ∧
      (e.act d).queue = e.queue ++ d.task?.toList ∧ (e.act d).chances = e.chances) ∧
    (∃ ran, ds.filterMap Deed.task? = ran ++ e.queue ∧ e.appended = ran.filterMap Task.value?) ∧
    (∀ more e', e.Reaches more e' → .move (.dropListener 0) ∉ ds ++ more →
      ((e'.check 0).2 = true ↔
        Executor.Sent ds (.start chances) ∨ Executor.Sent more e)) := by
  have hh := hr.hasHandle
  refine ⟨fun job => ⟨?cancelled, ?own, ?ready, Executor.executeInPlace_advances job hh⟩,
    ?alike, ?between, hr.tasks, ?heard⟩
  case cancelled =>
    intro hi ht
    have ⟨_, he, _⟩ := Executor.executeInPlace_interrupted hh hi ht
    rw [he]
  case own =>
    intro hi
    exact ⟨congrArg Prod.snd (Executor.executeInPlace_quiet hh hi),
      Executor.executeInPlace_rest hh hi⟩
  case ready =>
    intro hu
    refine ⟨fun hc => ?_, Executor.executeInPlace_ready hu⟩
    have hi : ¬Executor.Interrupts job.unfinished e := by
      rw [hu, Executor.interrupts_nil, hc]
      exact Bool.false_ne_true
    exact congrArg Prod.snd (Executor.executeInPlace_quiet hh hi)
  case alike =>
    intro chances' ds' e' hr' hq hc job
    exact Executor.executeInPlace_alike hr'.hasHandle hh hq hc
  case between =>
    intro d hd
    cases d
    case run job => cases hd
    case spawn t => exact ⟨rfl, rfl, rfl⟩
    case move m  => exact ⟨rfl, (List.append_nil _).symm, rfl⟩
  case heard =>
    intro more e' hr' hd
    rw [(hr.trans hr').check_iff hd, Executor.sent_append_iff, ← hr.eq_foldl]

-- The first job is cancelled by a task, and the next one is not: neither by the signal that ended
-- the first one, nor by the one sent in between, nor by the task that comes after it.
theorem jobs_cancelled_by_signals_task :
    let cancelled : Job Nat := ⟨[⟨false, false⟩], false, .ok 1⟩
    let finished : Job Nat := ⟨[⟨false, false⟩], true, .ok 2⟩
    let ds : List (Deed Nat) := [.spawn .signal, .run cancelled, .move .signal, .spawn (.append 3)]
    let e := ds.foldl Executor.act (Executor.start [])
    (Executor.start []).Reaches ds e ∧ (e.executeInPlace finished).2 = .ok 2 ∧
      (e.executeInPlace finished).1.appended = [3] ∧ (e.check 0).2 = true := by
  intro cancelled finished ds e
  have hr : (Executor.start []).Reaches ds e :=
    .cons trivial <| .cons trivial <| .cons ⟨trivial, nofun⟩ <| .cons trivial .refl
  have ⟨hj, _, _, _, hs⟩ := jobs_cancelled_by_signals hr
  have hq : e.queue = [.append 3] := rfl
  have hi : ¬Executor.Interrupts finished.unfinished e := by
    rw [Executor.interrupts_cons, Executor.interrupts_nil]
    rintro ((hh | hp | ht | ho) | hh)
    case inl.inl         => cases hh
    case inl.inr.inl     => cases hp
    case inl.inr.inr.inl => simpa [hq] using List.mem_of_mem_take ht
    case inl.inr.inr.inr => cases ho
    case inr             => cases hh
  have ⟨h₁, _, h₂⟩ := (hj finished).right.left hi
  have hw : (e.waited finished.unfinished).appended = [3] := by decide
  have hm : .move (.dropListener 0) ∉ ds ++ [] := by simp [ds]
  exact ⟨hr, h₁, h₂.trans hw, (hs [] e .refl hm).mpr (.inl (.later (.later (.now .move))))⟩

-- A task signals and makes the first job ready, whose last poll then comes to the job before the
-- listener. The second job needs no signal to have the result of a cancelled one.
theorem signalled_job_finishes :
    let job : Job Nat := ⟨[⟨false, false⟩], false, .ok 1⟩
    let failed : Job Nat := ⟨[], false, .error .shutdown⟩
    let e : Executor Nat := (Executor.start [⟨false, false, some 0, true⟩]).act (.spawn .signal)
    (Executor.start [⟨false, false, some 0, true⟩]).Reaches [.spawn .signal] e ∧
      Executor.Interrupts job.unfinished e ∧ (e.executeInPlace job).2 = .ok 1 ∧
      ¬Executor.Interrupts failed.unfinished e ∧
      (e.executeInPlace failed).2 = .error .shutdown := by
  intro job failed e
  have hd : e.Disturbs ⟨false, false⟩ := .inr (.inr (.inl (List.mem_singleton_self _)))
  have ht : Executor.Ties job.unfinished e :=
    .last hd ⟨rfl, nofun, List.not_mem_nil, rfl⟩
  have ⟨_, _, hx, hk⟩ := Executor.executeInPlace_ties (e := e) rfl ht
  have hi : ¬Executor.Interrupts failed.unfinished e := by
    rw [Executor.interrupts_nil]
    exact Bool.false_ne_true
  exact ⟨.cons trivial .refl, ht.interrupts, congrArg Prod.snd hx ▸ hk.left, hi,
    congrArg Prod.snd (Executor.executeInPlace_quiet rfl hi)⟩

end Shutdown

end EngineBench
