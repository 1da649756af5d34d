import EngineBench.Proofs.Shutdown.Moves

namespace EngineBench

namespace Shutdown

variable {b b₁ b₂ : Board} {m : Move} {ms more : List Move} {x : Listener} {h l : Nat}

namespace Board

namespace Reaches

theorem length_handles (hr : Board.new.Reaches ms b) :
    b.handles.length = ms.countP Move.isClone + 1 := by
  induction hr
  case refl => rfl
  case move ms b m _ _ hi =>
    rw [handles_move, List.countP_append, ← Nat.add_right_comm, ← hi]
    cases m <;> simp [Move.isClone]

theorem length_listeners (hr : Board.new.Reaches ms b) :
    b.listeners.length = ms.count .newListener := by
  induction hr
  case refl => rfl
  case move hi => rw [length_listeners_move, List.count_append, hi]

-- Only handles that were made are dropped.
theorem lt_of_dropHandle (hr : Board.new.Reaches ms b) (hd : .dropHandle h ∈ ms) :
    h < b.handles.length := by
  induction hr
  case refl => cases hd
  case move ms b m _ hm hi =>
    have hl : b.handles.length ≤ (b.move m).handles.length := by
      rw [handles_move]
      cases m <;> simp
    cases List.mem_append.mp hd
    case inl hd => exact Nat.lt_of_lt_of_le (hi hd) hl
    case inr hd =>
      cases List.mem_singleton.mp hd
      exact Nat.lt_of_lt_of_le (List.getElem?_eq_some_iff.mp hm).1 hl

theorem held_iff (hr : Board.new.Reaches ms b) :
    b.handles[h]? = some true ↔ h < b.handles.length ∧ .dropHandle h ∉ ms := by
  induction hr
  case refl => cases h <;> simp [new]
  case move ms b m hr hm hi =>
    have hd := hr.lt_of_dropHandle (h := h)
    rw [handles_move]
    cases m
    case cloneHandle h' =>
      simp only [List.getElem?_append, List.length_append, List.mem_append]
      grind
    case dropHandle h' =>
      simp only [List.getElem?_set, List.length_set, List.mem_append]
      grind
    all_goals simpa using hi

theorem lt_of_dropListener (hr : Board.new.Reaches ms b) (hd : .dropListener l ∈ ms) :
    l < b.listeners.length := by
  induction hr
  case refl => cases hd
  case move ms b m _ hm hi =>
    have hl : b.listeners.length ≤ (b.move m).listeners.length :=
      length_listeners_move b m ▸ Nat.le_add_right ..
    cases List.mem_append.mp hd
    case inl hd => exact Nat.lt_of_lt_of_le (hi hd) hl
    case inr hd =>
      cases List.mem_singleton.mp hd
      have ⟨x, hx⟩ := Option.isSome_iff_exists.mp hm
      exact Nat.lt_of_lt_of_le (lt_length_of_listener? hx) hl

theorem listening_iff (hr : Board.new.Reaches ms b) :
    Listening l ms ↔ (b.listener? l).isSome := by
  simp only [Listening]
  induction hr
  case refl => simp [new, listener?]
  case move ms b m hr hm hi =>
    have hd := hr.lt_of_dropListener (l := l)
    rw [listener?_isSome_move, ← hi, List.count_append, hr.length_listeners] at *
    grind

theorem hasHandle_iff (hr : Board.new.Reaches ms b) : b.hasHandle = false ↔ Abandoned ms := by
  rw [Bool.eq_false_iff, ne_eq, Board.hasHandle_iff]
  simp only [hr.held_iff, hr.length_handles, Abandoned]
  grind

end Reaches

end Board

theorem exists_of_lt_count {a : Move} (hl : l < ms.count a) :
    ∃ before after, ms = before ++ a :: after ∧ before.count a = l := by
  induction ms generalizing l
  case nil => cases hl
  case cons m rest hi =>
    by_cases hm : m = a
    case pos =>
      subst hm
      cases l
      case zero => exact ⟨[], rest, rfl, rfl⟩
      case succ l =>
        rw [List.count_cons_self] at hl
        have ⟨before, after, he, hc⟩ := hi (Nat.lt_of_succ_lt_succ hl)
        exact ⟨m :: before, after, congrArg _ he, by rw [List.count_cons_self, hc]⟩
    case neg =>
      rw [List.count_cons_of_ne hm] at hl
      have ⟨before, after, he, hc⟩ := hi hl
      exact ⟨m :: before, after, congrArg _ he, by rw [List.count_cons_of_ne hm, hc]⟩

-- One more move adds a signal for the listeners there are.
theorem signalled_append_iff : Signalled l (ms ++ [m]) ↔
    Signalled l ms ∨ m = .signal ∧ l < ms.count .newListener := by
  constructor
  case mp =>
    intro ⟨before, after, he, hc, hs⟩
    obtain rfl | ⟨after, m', rfl⟩ := List.eq_nil_or_concat after
    case inl => cases hs
    case inr =>
      rw [List.concat_eq_append] at he hs
      rw [← List.cons_append, ← List.append_assoc] at he
      have ⟨hb, hm⟩ := List.append_inj' he rfl
      have hm := (List.singleton_inj.mp hm).symm
      cases List.mem_append.mp hs
      case inl hs => exact .inl ⟨before, after, hb, hc, hs⟩
      case inr hs =>
        refine .inr ⟨hm ▸ (List.mem_singleton.mp hs).symm, ?_⟩
        rw [hb, List.count_append, List.count_cons_self]
        omega
  case mpr =>
    rintro (⟨before, after, he, hc, hs⟩ | ⟨rfl, hl⟩)
    case inl => exact ⟨before, after ++ [m], by simp [he], hc, List.mem_append_left _ hs⟩
    case inr =>
      have ⟨before, after, he, hc⟩ := exists_of_lt_count hl
      exact ⟨before, after ++ [.signal], by simp [he], hc, by simp⟩

theorem Signalled.lt_count (hs : Signalled l ms) : l < ms.count .newListener := by
  have ⟨before, after, he, hc, _⟩ := hs
  rw [he, List.count_append, List.count_cons_self]
  omega

-- What a listener knows after some moves: what it has not read yet are signals for it, and it has
-- latched on nothing but a signal for it or the loss of all handles.
structure Knows (b : Board) (ms : List Move) (l : Nat) (x : Listener) : Prop where
  position_le : x.position ≤ b.sent
  unread      : x.position < b.sent → Signalled l ms
  latched     : x.triggered = true → Signalled l ms ∨ b.hasHandle = false
  heard       : Signalled l ms → x.triggered = true ∨ x.position < b.sent

namespace Knows

theorem fresh (hl : ms.count .newListener ≤ l) :
    Knows (b.move .newListener) (ms ++ [.newListener]) l ⟨b.sent, false⟩ where
  position_le := Nat.le_refl _
  unread hp   := absurd hp (Nat.lt_irrefl _)
  latched     := nofun
  heard hs    := by
    have hs := (signalled_append_iff.mp hs).resolve_right fun h => nomatch h.left
    exact absurd hs.lt_count (Nat.not_lt.mpr hl)

theorem look (hk : Knows b ms l x) : Knows b ms l (b.look x) := by
  obtain ⟨_, hx⟩ | ⟨_, hp, p, hl, hx⟩ | ⟨ht, hp, hx⟩ := b.look_cases x <;> rw [hx]
  case inl => exact hk
  case inr.inl =>
    have hs := hk.unread hp
    exact ⟨hl, fun _ => hs, fun _ => .inl hs, fun _ => .inl rfl⟩
  case inr.inr =>
    refine ⟨hk.position_le, hk.unread, fun hh => .inr (by simpa using hh), fun hs => ?_⟩
    obtain ht' | hp' := hk.heard hs
    case inl => exact absurd (ht.symm.trans ht') Bool.false_ne_true
    case inr => exact .inr hp'

theorem move (hk : Knows b ms l x) (hm : b.Allows m) (hx : (b.listener? l).isSome)
    (hl : l < ms.count .newListener) : Knows (b.move m) (ms ++ [m]) l x := by
  have hh := Board.hasHandle_move hm
  by_cases hs : m = .signal
  case pos =>
    have hs' : Signalled l (ms ++ [m]) := signalled_append_iff.mpr (.inr ⟨hs, hl⟩)
    have he : (b.move m).sent = b.sent + 1 := by
      have hn : b.hasListener = true := Board.hasListener_iff.mpr ⟨l, hx⟩
      rw [Board.sent_move, if_pos ⟨hs, hn⟩]
    have hp := hk.position_le
    exact ⟨by omega, fun _ => hs', fun _ => .inl hs', fun _ => .inr (by omega)⟩
  case neg =>
    have he : (b.move m).sent = b.sent := by
      rw [Board.sent_move, if_neg fun h => hs h.left]
    have hs' : Signalled l (ms ++ [m]) ↔ Signalled l ms := by
      rw [signalled_append_iff]
      exact or_iff_left fun h => hs h.left
    exact {
      position_le := he ▸ hk.position_le
      unread hp   := hs'.mpr (hk.unread (he ▸ hp))
      latched ht  := (hk.latched ht).imp hs'.mpr hh
      heard h     := he ▸ hk.heard (hs'.mp h) }

-- A listener that looks finds a signal if and only if there is one for it or no handle is left.
theorem tells_iff (hk : Knows b ms l x) : b.Tells x ↔ Signalled l ms ∨ b.hasHandle = false := by
  constructor
  case mp =>
    intro ht
    obtain ht | hp | hh := ht
    case inl     => exact hk.latched ht
    case inr.inl => exact .inl (hk.unread hp)
    case inr.inr => exact .inr hh
  case mpr =>
    intro h
    obtain hs | hh := h
    case inl => exact (hk.heard hs).imp_right .inl
    case inr => exact .inr (.inr hh)

end Knows

theorem Board.Reaches.knows (hr : Board.new.Reaches ms b) (hx : b.listener? l = some x) :
    Knows b ms l x := by
  induction hr generalizing x
  case refl => cases hx
  case move ms b m hr hm hi =>
    have hs : ((b.move m).listener? l).isSome := hx ▸ rfl
    obtain ⟨rfl, hl⟩ | ⟨ho, hd⟩ := listener?_isSome_move.mp hs
    case inl =>
      have hy := Option.some.inj (hx.symm.trans (listener?_newListener.trans (if_pos hl)))
      rw [hy]
      exact .fresh (Nat.le_of_eq (hl.trans hr.length_listeners).symm)
    case inr =>
      have ⟨y, hy⟩ := Option.isSome_iff_exists.mp ho
      have hl : l < ms.count .newListener := (hr.listening_iff.mpr ho).left
      obtain hz | hz := listener?_move_some hy hd
      case inl => exact Option.some.inj (hx.symm.trans hz) ▸ (hi hy).move hm ho hl
      case inr => exact Option.some.inj (hx.symm.trans hz) ▸ (hi hy).look.move hm ho hl

theorem Board.Reaches.check_iff (hr : Board.new.Reaches ms b) (hl : Listening l ms) :
    (b.check l).2 = true ↔ Signalled l ms ∨ Abandoned ms := by
  have ⟨x, hx⟩ := Option.isSome_iff_exists.mp (hr.listening_iff.mp hl)
  rw [Board.check_iff, ← hr.hasHandle_iff, ← (hr.knows hx).tells_iff, hx]
  simp

-- What is sent to a listener does not depend on who looks in between.
theorem signalled_insert_iff (hs : m ≠ .signal) (hn : m ≠ .newListener) (hr : b.Reaches more b₁) :
    Signalled l (ms ++ [m] ++ more) ↔ Signalled l (ms ++ more) := by
  induction hr
  case refl =>
    rw [List.append_nil, List.append_nil, signalled_append_iff]
    exact or_iff_left fun h => hs h.left
  case move more _ m' _ _ hi =>
    have hc : (ms ++ [m] ++ more).count .newListener = (ms ++ more).count .newListener := by
      simp [List.count_append, List.count_cons_of_ne hn]
    rw [← List.append_assoc, ← List.append_assoc, signalled_append_iff, hi, hc,
      ← signalled_append_iff]

theorem abandoned_insert_iff (hc : m.isClone = false) (hd : ∀ h, m ≠ .dropHandle h) :
    Abandoned (ms ++ [m] ++ more) ↔ Abandoned (ms ++ more) := by
  have hm (h : Nat) : .dropHandle h ∈ ms ++ [m] ++ more ↔ .dropHandle h ∈ ms ++ more := by
    simp [Ne.symm (hd h)]
  simp only [Abandoned, hm, List.countP_append, List.countP_singleton, hc]
  rfl

theorem Board.Reaches.signal_log (hr : Board.new.Reaches ms b) :
    (b.signal.2 = [unheard] ↔ ∀ l, ¬Listening l ms) ∧
    (b.signal.2 = [] ↔ ∃ l, Listening l ms) := by
  have hl : b.hasListener = true ↔ ∃ l, Listening l ms := by
    simp only [Board.hasListener_iff, hr.listening_iff]
  rw [← not_exists, ← hl]
  simp only [signal]
  split <;> simp [*]

-- A listener that is there finds a signal, by a check as by a wait, if and only if one was sent
-- since it was made or no handle is left. What it has found it finds ever after, what other
-- listeners look at does not touch it, and many signals are as good as one. Only a signal that
-- nobody is there to hear is complained about.
theorem listeners_hear_signals (hr : Board.new.Reaches ms b) :
    (∀ l, Listening l ms →
      ((b.check l).2 = true ↔ Signalled l ms ∨ Abandoned ms) ∧
      ((b.wait l).2.1 = true ↔ Signalled l ms ∨ Abandoned ms)) ∧
    (∀ l more b', b.Reaches more b' → Listening l (ms ++ more) →
      (b.check l).2 = true ∨ (b.wait l).2.1 = true →
      (b'.check l).2 = true ∧ (b'.wait l).2.1 = true) ∧
    (∀ l l' m more b₁ b₂, l ≠ l' → m = .check l' ∨ m = .wait l' → b.Allows m →
      b.Reaches more b₁ → (b.move m).Reaches more b₂ → Listening l (ms ++ more) →
      (b₂.check l).2 = (b₁.check l).2 ∧ (b₂.wait l).2.1 = (b₁.wait l).2.1) ∧
    (∀ l n b', Listening l ms → b.Reaches (List.replicate (n + 1) .signal) b' →
      (b'.check l).2 = true ∧ (b'.wait l).2.1 = true) ∧
    (b.signal.2 = [Board.unheard] ↔ ∀ l, ¬Listening l ms) ∧
    (b.signal.2 = [] ↔ ∃ l, Listening l ms) := by
  simp only [Board.wait_ready]
  refine ⟨fun l hl => ⟨hr.check_iff hl, hr.check_iff hl⟩, ?stays, ?others, ?many, hr.signal_log⟩
  case stays =>
    intro l more b' hr' hl hc
    have hd : .dropListener l ∉ more := fun h => hl.right (List.mem_append_right _ h)
    have hc := hr'.check_stays hd ((or_self_iff).mp hc)
    exact ⟨hc, hc⟩
  case others =>
    intro l l' m more b₁ b₂ hn hm ha hr₁ hr₂ hl
    have hl₂ : Listening l (ms ++ [m] ++ more) := by
      obtain rfl | rfl := hm <;> simpa [Listening, List.count_append] using hl
    have hs : Signalled l (ms ++ [m] ++ more) ↔ Signalled l (ms ++ more) := by
      obtain rfl | rfl := hm <;> exact signalled_insert_iff nofun nofun hr₁
    have ha' : Abandoned (ms ++ [m] ++ more) ↔ Abandoned (ms ++ more) := by
      obtain rfl | rfl := hm <;> exact abandoned_insert_iff rfl nofun
    have hc : (b₂.check l).2 = (b₁.check l).2 := by
      rw [Bool.eq_iff_iff, ((hr.move ha).trans hr₂).check_iff hl₂, (hr.trans hr₁).check_iff hl, hs,
        ha']
    exact ⟨hc, hc⟩
  case many =>
    intro l n b' hl hr'
    have hl' : Listening l (ms ++ List.replicate (n + 1) .signal) := by
      refine ⟨?made, ?kept⟩
      case made => rw [List.count_append]; exact Nat.lt_add_right _ hl.left
      case kept => simpa [List.mem_replicate] using hl.right
    have hs : Signalled l (ms ++ List.replicate (n + 1) .signal) := by
      have ⟨before, after, he, hc⟩ := exists_of_lt_count hl.left
      exact ⟨before, after ++ List.replicate (n + 1) .signal, by simp [he], hc, by simp⟩
    have hc := ((hr.trans hr').check_iff hl').mpr (.inl hs)
    exact ⟨hc, hc⟩

-- The first listener has missed a signal when it is the first to look. The second one is gone, and
-- the third was made too late.
theorem listeners_hear_signals_late :
    let ms : List Move := [.newListener, .cloneHandle 0, .signal, .signal, .newListener,
      .dropListener 1, .newListener, .dropHandle 0]
    let b : Board := ⟨2, [false, true], [some ⟨0, false⟩, none, some ⟨2, false⟩]⟩
    Board.new.Reaches ms b ∧ (b.check 0).2 = true ∧ (b.wait 2).2.1 = false := by
  intro ms b
  have hr : Board.new.Reaches ms b :=
    .cons trivial <| .cons rfl <| .cons trivial <| .cons trivial <| .cons trivial <| .cons rfl <|
      .cons trivial <| .cons rfl .refl
  have ⟨h, _⟩ := listeners_hear_signals hr
  have hs : Signalled 0 ms := ⟨[], _, rfl, rfl, by decide⟩
  exact ⟨hr, (h 0 ⟨by decide, by decide⟩).left.mpr (.inl hs), rfl⟩

end Shutdown

end EngineBench
