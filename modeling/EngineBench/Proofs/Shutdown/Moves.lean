import EngineBench.Shutdown.Move

namespace EngineBench

namespace Shutdown

variable {b b' b₁ b₂ : Board} {m : Move} {ms more : List Move} {x : Listener} {l l' : Nat}

namespace Board

-- What a look does: a latched listener does not look, one that has something unread latches and
-- never gets ahead of what was sent, and one that has nothing unread latches if no handle is left.
theorem look_cases (b : Board) (x : Listener) :
    (x.triggered = true ∧ b.look x = x) ∨
    (x.triggered = false ∧ x.position < b.sent ∧ ∃ p ≤ b.sent, b.look x = ⟨p, true⟩) ∨
    (x.triggered = false ∧ b.sent ≤ x.position ∧ b.look x = ⟨x.position, !b.hasHandle⟩) := by
  obtain ⟨position, triggered⟩ := x
  cases triggered
  case true  => exact .inl ⟨rfl, rfl⟩
  case false =>
    refine .inr ?_
    cases hu : b.sent - position
    case zero =>
      refine .inr ⟨rfl, Nat.sub_eq_zero_iff_le.mp hu, ?_⟩
      cases hh : b.hasHandle <;> simp [look, received, hu, hh]
    case succ missed =>
      refine .inl ⟨rfl, Nat.lt_of_sub_eq_succ hu, ?_⟩
      cases missed
      case zero        => exact ⟨position + 1, by omega, by simp [look, received, hu]⟩
      case succ missed => exact ⟨b.sent - 1, Nat.sub_le .., by simp [look, received, hu]⟩

-- A listener that looks finds a signal.
def Tells (b : Board) (x : Listener) : Prop :=
  x.triggered = true ∨ x.position < b.sent ∨ b.hasHandle = false

theorem look_triggered_iff : (b.look x).triggered = true ↔ b.Tells x := by
  obtain ⟨ht, hx⟩ | ⟨ht, hp, p, -, hx⟩ | ⟨ht, hp, hx⟩ := look_cases b x <;> rw [hx]
  case inl     => simp [Tells, ht]
  case inr.inl => simp [Tells, hp]
  case inr.inr => simp [Tells, ht, Nat.not_lt.mpr hp]

theorem check_iff : (b.check l).2 = true ↔ ∃ x, b.listener? l = some x ∧ b.Tells x := by
  simp only [check]
  cases b.listener? l
  case none   => simp
  case some x => simp [look_triggered_iff]

theorem wait_board (b : Board) (l : Nat) : (b.wait l).1 = (b.check l).1 := by
  simp only [wait, check]
  cases b.listener? l <;> rfl

theorem wait_ready (b : Board) (l : Nat) : (b.wait l).2.1 = (b.check l).2 := by
  simp only [wait, check]
  cases b.listener? l <;> rfl

theorem listener?_eq_some : b.listener? l = some x ↔ b.listeners[l]? = some (some x) := by
  simp [listener?, Option.join_eq_some_iff]

theorem listener?_newListener :
    b.newListener.1.listener? l =
      if l = b.listeners.length then some ⟨b.sent, false⟩ else b.listener? l := by
  simp only [listener?, newListener, List.getElem?_append]
  grind

theorem listener?_dropListener :
    (b.dropListener l').listener? l = if l = l' then none else b.listener? l := by
  simp only [listener?, dropListener, List.getElem?_set]
  grind

theorem listener?_check :
    (b.check l').1.listener? l = if l = l' then (b.listener? l).map b.look else b.listener? l := by
  simp only [check]
  cases hl : b.listener? l'
  case none => grind
  case some x =>
    have hs := listener?_eq_some.mp hl
    have hb : l' < b.listeners.length := (List.getElem?_eq_some_iff.mp hs).1
    simp only [listener?, List.getElem?_set] at hl ⊢
    grind

-- A signal is kept if somebody is there to hear it, and nothing else is.
theorem sent_move (b : Board) (m : Move) : (b.move m).sent =
    if m = .signal ∧ b.hasListener = true then b.sent + 1 else b.sent := by
  cases m
  case check l => simp only [move, check]; split <;> rfl
  case wait l  => rw [move, wait_board, check]; split <;> rfl
  case signal  => simp only [move, signal]; split <;> simp [*]
  all_goals rfl

theorem sent_le_move (b : Board) (m : Move) : b.sent ≤ (b.move m).sent := by
  rw [sent_move]
  split
  case isTrue  => exact Nat.le_succ _
  case isFalse => exact Nat.le_refl _

theorem hasListener_iff : b.hasListener = true ↔ ∃ l, (b.listener? l).isSome := by
  simp only [hasListener, List.any_eq_true, List.mem_iff_getElem?]
  constructor
  case mp =>
    intro ⟨o, ⟨l, hl⟩, ho⟩
    exact ⟨l, by simp [listener?, hl, ho]⟩
  case mpr =>
    intro ⟨l, hl⟩
    have ⟨x, hx⟩ := Option.isSome_iff_exists.mp hl
    exact ⟨some x, ⟨l, listener?_eq_some.mp hx⟩, rfl⟩

theorem listener?_move : (b.move m).listener? l =
    match m with
    | .newListener           =>
      if l = b.listeners.length then some ⟨b.sent, false⟩ else b.listener? l
    | .dropListener l'       => if l = l' then none else b.listener? l
    | .check l' | .wait l'   => if l = l' then (b.listener? l).map b.look else b.listener? l
    | .cloneHandle _ | .dropHandle _ | .signal => b.listener? l := by
  cases m
  case newListener     => exact listener?_newListener
  case dropListener l' => exact listener?_dropListener
  case check l'        => exact listener?_check
  case wait l'         => rw [move, wait_board]; exact listener?_check
  case signal          => simp only [move, signal]; split <;> rfl
  case cloneHandle     => rfl
  case dropHandle      => rfl

theorem lt_length_of_listener? (hx : b.listener? l = some x) : l < b.listeners.length :=
  (List.getElem?_eq_some_iff.mp (listener?_eq_some.mp hx)).1

-- A listener stays there unless it is dropped, and all that happens to it is that it looks.
theorem listener?_move_some (hx : b.listener? l = some x) (hm : m ≠ .dropListener l) :
    (b.move m).listener? l = some x ∨ (b.move m).listener? l = some (b.look x) := by
  have hl := lt_length_of_listener? hx
  rw [listener?_move, hx]
  cases m
  case newListener     => exact .inl (if_neg (Nat.ne_of_lt hl))
  case dropListener l' => exact .inl (if_neg fun he => hm (congrArg _ he.symm))
  case check l'        => by_cases he : l = l' <;> simp [he]
  case wait l'         => by_cases he : l = l' <;> simp [he]
  all_goals exact .inl rfl

-- Where a listener comes from: it was made just now, or it was there before.
theorem listener?_isSome_move : ((b.move m).listener? l).isSome ↔
    (m = .newListener ∧ l = b.listeners.length) ∨ (b.listener? l).isSome ∧ m ≠ .dropListener l := by
  rw [listener?_move]
  cases m
  case newListener     => by_cases he : l = b.listeners.length <;> simp [he]
  case dropListener l' =>
    by_cases he : l = l'
    case pos => simp [he]
    case neg => simp [he, Ne.symm he]
  case check l'        => by_cases he : l = l' <;> simp [he]
  case wait l'         => by_cases he : l = l' <;> simp [he]
  all_goals simp

theorem length_listeners_move (b : Board) (m : Move) : (b.move m).listeners.length =
    b.listeners.length + [m].count .newListener := by
  cases m
  case newListener  => simp [move, newListener]
  case dropListener => simp [move, dropListener]
  case check l      => simp only [move, check]; split <;> simp
  case wait l       => rw [move, wait_board, check]; split <;> simp
  case signal       => simp only [move, signal]; split <;> simp
  all_goals simp [move, cloneHandle, dropHandle]

theorem handles_move (b : Board) (m : Move) : (b.move m).handles =
    match m with
    | .cloneHandle _ => b.handles ++ [true]
    | .dropHandle h  => b.handles.set h false
    | _              => b.handles := by
  cases m
  case check l => simp only [move, check]; split <;> rfl
  case wait l  => rw [move, wait_board, check]; split <;> rfl
  case signal  => simp only [move, signal]; split <;> rfl
  all_goals rfl

theorem hasHandle_iff : b.hasHandle = true ↔ ∃ h : Nat, b.handles[h]? = some true := by
  simp [hasHandle, List.mem_iff_getElem?]

-- What is given up stays so: no handle comes from none.
theorem hasHandle_move (hm : b.Allows m) (hh : b.hasHandle = false) :
    (b.move m).hasHandle = false := by
  have hn : ∀ h : Nat, b.handles[h]? ≠ some true := fun h ht =>
    Bool.false_ne_true (hh.symm.trans (hasHandle_iff.mpr ⟨h, ht⟩))
  refine Bool.eq_false_iff.mpr fun hs => ?_
  have ⟨h, ht⟩ := hasHandle_iff.mp hs
  rw [handles_move] at ht
  clear hs
  cases m
  case cloneHandle h' => exact hn h' hm
  case dropHandle h' =>
    simp only [List.getElem?_set] at ht
    split at ht
    case isTrue  => split at ht <;> cases ht
    case isFalse => exact hn h ht
  all_goals exact hn h ht

-- A listener that would find a signal finds it also later.
theorem Tells.move (hm : b.Allows m) (ht : b.Tells x) : (b.move m).Tells x := by
  obtain ht | hp | hh := ht
  case inl     => exact .inl ht
  case inr.inl => exact .inr (.inl (Nat.lt_of_lt_of_le hp (sent_le_move b m)))
  case inr.inr => exact .inr (.inr (hasHandle_move hm hh))

theorem check_move (hm : b.Allows m) (hd : m ≠ .dropListener l) (hc : (b.check l).2 = true) :
    ((b.move m).check l).2 = true := by
  have ⟨x, hx, ht⟩ := check_iff.mp hc
  refine check_iff.mpr ?_
  obtain hy | hy := listener?_move_some hx hd
  case inl => exact ⟨x, hy, ht.move hm⟩
  case inr => exact ⟨b.look x, hy, .inl (look_triggered_iff.mpr ht)⟩

namespace Reaches

-- Once a listener has found a signal, it finds it ever after.
theorem check_stays (hr : b.Reaches ms b') (hd : .dropListener l ∉ ms) (hc : (b.check l).2 = true) :
    (b'.check l).2 = true := by
  induction hr
  case refl => exact hc
  case move m _ hm hi =>
    simp only [List.mem_append, List.mem_singleton, not_or] at hd
    exact check_move hm (Ne.symm hd.right) (hi hd.left)

theorem trans (hr : b.Reaches ms b₁) (hr' : b₁.Reaches more b₂) : b.Reaches (ms ++ more) b₂ := by
  induction hr'
  case refl         => exact (List.append_nil ms).symm ▸ hr
  case move hm hi => exact List.append_assoc .. ▸ .move hi hm

theorem cons (hm : b.Allows m) (hr : (b.move m).Reaches ms b') : b.Reaches (m :: ms) b' :=
  (Reaches.refl.move hm).trans hr

end Reaches

end Board

end Shutdown

end EngineBench
