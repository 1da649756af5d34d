import EngineBench.Live.Workshop
import EngineBench.Proofs.Live.Serving

namespace EngineBench

variable {pid : Pid}

theorem Condition.kill_ne_running (condition : Condition) : condition.kill ≠ .running := by
  cases condition <;> simp [kill]

namespace Workshop

-- What becomes of a workshop while nobody comes to it and no sink is made.
structure Works (w w' : Workshop) : Prop where
  pid     : w'.pid = w.pid
  toSink  : w'.toSink = w.toSink
  onward  : w.now ≤ w'.now
  written : ∃ bytes, w'.written = w.written ++ bytes ∧
    w'.sink = if w.toSink then w.sink ++ bytes else w.sink
  fed     : ∀ t, w'.fed? = some t → t ≤ w.now → w.fed? = some t
  ended   : ∀ t status, w'.condition = .ended t status → t ≤ w.now → w.condition = .ended t status
  idle    : w.condition ≠ .running → w'.condition = w.condition ∧ w'.written = w.written

variable {w w' : Workshop}

theorem scene_exit?_eq_some_iff {t : Duration} {status : ExitStatus} :
    w.scene.exit? pid = some (t, status) ↔ pid = w.pid ∧ w.condition = .ended t status := by
  simp only [scene]
  cases w.condition <;> simp [Condition.exit?]

theorem scene_doneBy_iff {t : Duration} : w.scene.DoneBy pid t ↔
    pid = w.pid ∧ (∃ fed, w.fed? = some fed ∧ fed ≤ t) ∧
      ∃ exit status, w.condition = .ended exit status ∧ exit ≤ t := by
  simp only [Scene.DoneBy, scene_exit?_eq_some_iff]
  simp [scene]
  grind

theorem Works.running (hw : w.Works w') (h : w'.condition = .running) :
    w.condition = .running :=
  Decidable.byContradiction fun hn => hn ((hw.idle hn).left ▸ h)

theorem Works.writes (hw : w.Works w') (h : w'.scene.writes pid) : w.scene.writes pid := by
  obtain ⟨⟨hp, hr⟩, ht⟩ := h
  exact ⟨⟨hp.trans hw.pid, hw.running hr⟩, hw.toSink ▸ ht⟩

theorem Works.sink_of_quiet (hw : w.Works w') (hq : w.scene.Quiet) : w'.sink = w.sink := by
  have ⟨bytes, hb, hs⟩ := hw.written
  by_cases ht : w.toSink
  case pos =>
    have hn : w.condition ≠ .running := fun h => hq w.pid ⟨⟨rfl, h⟩, ht⟩
    have he : bytes = [] := List.self_eq_append_right.mp ((hw.idle hn).right.symm.trans hb)
    rw [hs, if_pos ht, he, List.append_nil]
  case neg => rw [hs, if_neg ht]

theorem Works.rests (hw : w.Works w') (hp : ¬w.scene.runs pid) : ¬w'.scene.runs pid ∧
    w'.scene.output pid = w.scene.output pid ∧ w'.scene.exit? pid = w.scene.exit? pid := by
  by_cases h : pid = w.pid
  case pos =>
    subst h
    have hn : w.condition ≠ .running := fun h => hp ⟨rfl, h⟩
    have ⟨hc, ho⟩ := hw.idle hn
    simp [scene, hw.pid, hc, ho, hn]
  case neg => simp [scene, hw.pid, h]

theorem Works.goesOn (hw : w.Works w') : w.scene.GoesOn w'.scene := by
  constructor
  case onward => exact hw.onward
  case known =>
    simp only [scene_doneBy_iff, hw.pid]
    rintro p t ht ⟨hp, ⟨fed, hf, hft⟩, exit, status, he, het⟩
    exact ⟨hp, ⟨fed, hw.fed fed hf (Nat.le_trans hft ht), hft⟩, exit, status,
      hw.ended exit status he (Nat.le_trans het ht), het⟩
  case rests => exact fun p hp => hw.rests hp
  case quiet => exact fun hq => ⟨fun p hp => hq p (hw.writes hp), hw.sink_of_quiet hq⟩
  case sole =>
    intro p hp
    refine ⟨⟨fun q hq => hp.only q (hw.writes hq), ?whole⟩, ?written⟩
    case whole =>
      rintro ⟨he, hr⟩
      have ⟨_, ht⟩ := hp.whole ⟨he.trans hw.pid, hw.running hr⟩
      exact ⟨⟨he, hr⟩, hw.toSink ▸ ht⟩
    case written =>
      by_cases h : p = w.pid ∧ w.toSink
      case pos =>
        have ⟨bytes, hb, hs⟩ := hw.written
        refine ⟨bytes, ?sink, ?output⟩
        case sink => exact hs.trans (if_pos h.right)
        case output => simp [scene, hw.pid, h.left, hb]
      case neg =>
        have hq : w.scene.Quiet := fun q hq =>
          h ⟨(hp.only q hq).symm.trans hq.left.left, hq.right⟩
        have ⟨_, ho, _⟩ := hw.rests fun hr => hq p (hp.whole hr)
        exact ⟨[], by rw [List.append_nil]; exact hw.sink_of_quiet hq, by rw [List.append_nil, ho]⟩

theorem Works.refl (w : Workshop) : w.Works w :=
  ⟨rfl, rfl, Nat.le_refl _, ⟨[], by simp⟩, fun _ h _ => h, fun _ _ h _ => h, fun _ => ⟨rfl, rfl⟩⟩

theorem pass_works {now : Duration} {hailed : Bool} (h : w.now ≤ now) :
    w.Works { w with now, hailed } :=
  ⟨rfl, rfl, h, ⟨[], by simp⟩, fun _ h _ => h, fun _ _ h _ => h, fun _ => ⟨rfl, rfl⟩⟩

theorem inVain_works {α : Type} (w : Workshop) (timer : Option Timer) :
    w.Works (w.inVain (α := α) timer).2 := by
  cases timer
  case none       => exact pass_works (Nat.le_succ _)
  case some timer => exact pass_works (Nat.le_trans (Nat.le_succ _) (Duration.le_max_left ..))

theorem kill_works (w : Workshop) : w.Works w.kill := by
  refine ⟨rfl, rfl, Nat.le_refl _, ⟨[], by simp [kill]⟩, fun _ h _ => h, fun t status h _ => ?ended,
    fun hn => ⟨?idle, rfl⟩⟩
  case ended =>
    cases hc : w.condition <;> simp [kill, hc, Condition.kill] at h ⊢
    exact h
  case idle =>
    cases hc : w.condition <;> simp [kill, hc, Condition.kill] at hn ⊢

theorem feed_works (w : Workshop) (timer : Option Timer) : w.Works (w.feed timer).2 := by
  unfold feed
  split
  case isFalse => exact .refl w
  case isTrue hr =>
    split
    case h_1 =>
      refine ⟨rfl, rfl, Nat.le_succ _, ⟨[], by simp [tick]⟩, fun t h ht => ?_, fun _ _ h _ => h,
        fun _ => ⟨rfl, rfl⟩⟩
      cases h
      exact absurd ht (Nat.not_succ_le_self _)
    case h_2 => exact inVain_works w timer

theorem awaitExit_works (w : Workshop) (timer : Option Timer) :
    w.Works (w.awaitExit timer).2 := by
  unfold awaitExit
  split
  case h_1 hr =>
    split
    case h_1 status _ =>
      refine ⟨rfl, rfl, Nat.le_succ _, ⟨w.manner.rest, rfl, rfl⟩, fun _ h _ => h,
        fun t s h ht => ?_, fun hn => absurd hr hn⟩
      cases h
      exact absurd ht (Nat.not_succ_le_self _)
    case h_2 => exact inVain_works w timer
  all_goals exact .refl w

theorem respond_works (workloads : List Path) (sink : Path) {r : Host.Request} (hr : r.plain)
    (w : Workshop) : w.Works (respond workloads sink r w).2 := by
  have hif {c : Prop} [Decidable c] {w' : Workshop} (h : w.Works w') :
      w.Works (if c then w' else w) := by
    split
    case isTrue  => exact h
    case isFalse => exact .refl w
  cases r
  case remove       => cases hr
  case createOutput => cases hr
  case spawn        => cases hr
  case kill         => exact hif w.kill_works
  case release      => exact hif w.kill_works
  case sleep d      => exact pass_works (Nat.le_add_right _ d.nanos)
  case feed pid food timer =>
    simp only [respond]
    split
    case isTrue  => exact w.feed_works timer
    case isFalse => exact .refl w
  case awaitExit pid timer =>
    simp only [respond]
    split
    case isTrue  => exact w.awaitExit_works timer
    case isFalse => exact .refl w
  all_goals exact .refl w

theorem createOutput_sink (workloads : List Path) (sink : Path) (w : Workshop) :
    (host workloads sink).respond (.createOutput sink) w =
      (.ok workloads.length, { w.calm with sink := [], handle := some workloads.length }) :=
  if_pos rfl

theorem spawn_cases (w : Workshop) (command : Host.Command) :
    (∃ e, w.spawn command = (.error e, w)) ∨ ∃ manner coming,
      w.spawn command = (.ok (w.pid + 1), w.employ manner coming command.output) := by
  unfold spawn
  split
  case h_1 manner coming _ =>
    split
    case isTrue  => exact .inl ⟨_, rfl⟩
    case isFalse => exact .inr ⟨manner, coming, rfl⟩
  case h_2 => exact .inl ⟨_, rfl⟩

-- Whoever comes has written nothing before.
theorem employ_sole (manner : Manner) (coming : List Manner) {output : Host.Output}
    (hh : w.handle.map Host.Output.file = some output) :
    let v := (w.employ manner coming output).scene
    v.Sole (w.pid + 1) ∧ v.sink = w.sink ++ v.output (w.pid + 1) := by
  refine ⟨⟨fun p hp => hp.left.left, fun hr => ⟨hr, decide_eq_true hh⟩⟩, ?_⟩
  simp [scene, employ, write, hh]

-- One that is waited for in vain goes on, and has not ended.
theorem inVain_late {α : Type} {timer : Option Timer} {t : Timer} {ht : timer = some t}
    (hr : w.condition = .running) (h : (w.inVain (α := α) timer).1 = .late t ht) :
    let v := (w.inVain (α := α) timer).2.scene
    t.deadline ≤ v.now ∧ ¬v.DoneBy pid t.deadline := by
  cases timer
  case none => cases h
  case some =>
    cases h
    refine ⟨Duration.le_max_right .., fun hd => ?_⟩
    have ⟨_, _, _, _, he, _⟩ := scene_doneBy_iff.mp hd
    cases hr.symm.trans he

theorem feed_cases (w : Workshop) (timer : Option Timer) :
    (∃ fed, (w.feed timer).1 = .ready fed) ∨
      w.condition = .running ∧ w.feed timer = w.inVain timer := by
  unfold feed
  split
  case isFalse => exact .inl ⟨_, rfl⟩
  case isTrue hr =>
    split
    case h_1 => exact .inl ⟨_, rfl⟩
    case h_2 => exact .inr ⟨hr, rfl⟩

theorem awaitExit_cases (w : Workshop) (timer : Option Timer) :
    (∃ e, w.awaitExit timer = (.ready (.error e), w)) ∨
      (∃ w' exit status, w.awaitExit timer = (.ready (.ok status), w') ∧ w'.pid = w.pid ∧
        w'.condition = .ended exit status) ∨
      w.condition = .running ∧ w.awaitExit timer = w.inVain timer := by
  unfold awaitExit
  split
  case h_1 hr =>
    split
    case h_1 => exact .inr (.inl ⟨_, _, _, rfl, rfl, rfl⟩)
    case h_2 => exact .inr (.inr ⟨hr, rfl⟩)
  case h_2 exit status hc => exact .inr (.inl ⟨w, exit, status, rfl, rfl, hc⟩)
  case h_3                => exact .inl ⟨_, rfl⟩

-- Whatever is asked for while a client is there, it goes about its own work only.
theorem host_shows (workloads : List Path) (sink : Path) :
    (host workloads sink).Shows scene sink where
  log _ _      := rfl
  print _ _    := rfl
  writes _ _ h := h.left
  goesOn r w h := (respond_works workloads sink h w.calm).goesOn
  created w handle hq hc := by
    rw [createOutput_sink] at hc ⊢
    cases hc
    exact ⟨hq, rfl, rfl⟩
  uncreated w e hc := by
    rw [createOutput_sink] at hc
    cases hc
  spawned command w pid hq hh hp := by
    simp only [host, respond] at hp ⊢
    obtain ⟨e, he⟩ | ⟨manner, coming, he⟩ := w.calm.spawn_cases command <;> rw [he] at hp ⊢ <;>
      cases hp
    exact employ_sole manner coming hh
  unspawned command w e hp := by
    simp only [host, respond] at hp ⊢
    obtain ⟨e, he⟩ | ⟨manner, coming, he⟩ := w.calm.spawn_cases command <;> rw [he] at hp ⊢ <;>
      cases hp
    exact .refl _
  ended pid timer w status ha := by
    simp only [host, respond] at ha ⊢
    split at ha
    case isFalse => cases ha
    case isTrue h =>
      subst h
      rw [if_pos rfl]
      obtain ⟨_, he⟩ | ⟨w', exit, _, he, hp, hc⟩ | ⟨_, he⟩ := w.calm.awaitExit_cases timer
      case inl => rw [he] at ha; cases ha
      case inr.inl =>
        rw [he] at ha ⊢
        cases ha
        refine ⟨fun h => ?_, exit, scene_exit?_eq_some_iff.mpr ⟨hp.symm, hc⟩⟩
        cases hc.symm.trans h.right
      case inr.inr =>
        rw [he] at ha
        cases timer <;> cases ha
  unfed pid food timer w t ht ha := by
    simp only [host, respond] at ha ⊢
    split at ha
    case isFalse => cases ha
    case isTrue h =>
      rw [if_pos h]
      obtain ⟨_, he⟩ | ⟨hr, he⟩ := w.calm.feed_cases timer
      case inl => cases he.symm.trans ha
      case inr =>
        rw [he] at ha ⊢
        exact inVain_late hr ha
  unended pid timer w t ht ha := by
    simp only [host, respond] at ha ⊢
    split at ha
    case isFalse => cases ha
    case isTrue h =>
      rw [if_pos h]
      obtain ⟨_, he⟩ | ⟨_, _, _, he, _⟩ | ⟨hr, he⟩ := w.calm.awaitExit_cases timer
      case inr.inr =>
        rw [he] at ha ⊢
        exact inVain_late hr ha
      all_goals
        rw [he] at ha
        cases ha
  released pid w := by
    simp only [host, respond]
    split
    case isTrue    => exact fun h => w.condition.kill_ne_running h.right
    case isFalse h => exact fun hr => h hr.left
  length w n hn := by
    simp only [host, respond, if_true] at hn
    cases hn
    rfl

end Workshop

end EngineBench
