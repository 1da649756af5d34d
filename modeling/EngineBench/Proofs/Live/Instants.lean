import EngineBench.Proofs.Live.Exchanges

namespace EngineBench

open Host (Exchange)
open Session

variable {σ γ α β : Type}

-- What an activity adds to the journal if it begins with a view, and the view with which it ends. A
-- view of the host is an instant of its clock, say, or that and what is known of a process.
def Action.AddsAt (view : σ → γ) (v : γ) (x : Action (Session (List Exchange × σ)) α)
    (Q : α → List Exchange → γ → Prop) (E : Abort → List Exchange → γ → Prop) : Prop :=
  ∀ s, view s.world.2 = v → x.Ends s
    (fun a s' => ∃ xs, s'.world.1 = s.world.1 ++ xs ∧ Q a xs (view s'.world.2))
    (fun e s' => ∃ xs, s'.world.1 = s.world.1 ++ xs ∧ E e xs (view s'.world.2))

namespace Action.AddsAt

variable {h : Host σ} {view : σ → γ} {v : γ} {x : Action (Session (List Exchange × σ)) α}
  {f : α → Action (Session (List Exchange × σ)) β} {P Q : α → List Exchange → γ → Prop}
  {R : β → List Exchange → γ → Prop} {D E : Abort → List Exchange → γ → Prop}

theorem imp (hx : x.AddsAt view v P D) (hq : ∀ a xs v', P a xs v' → Q a xs v')
    (he : ∀ e xs v', D e xs v' → E e xs v') : x.AddsAt view v Q E :=
  fun s hs => (hx s hs).imp (fun a _ ⟨xs, hw, h⟩ => ⟨xs, hw, hq a xs _ h⟩)
    (fun e _ ⟨xs, hw, h⟩ => ⟨xs, hw, he e xs _ h⟩)

theorem imp_error (hx : x.AddsAt view v Q D) (he : ∀ e xs v', D e xs v' → E e xs v') :
    x.AddsAt view v Q E :=
  hx.imp (fun _ _ _ h => h) he

theorem pure {a : α} (h : Q a [] v) :
    (Pure.pure a : Action (Session (List Exchange × σ)) α).AddsAt view v Q E :=
  fun _ hs => ⟨[], (List.append_nil _).symm, hs ▸ h⟩

theorem throw {e : Abort} (h : E e [] v) :
    (MonadExcept.throw e : Action (Session (List Exchange × σ)) α).AddsAt view v Q E :=
  fun _ hs => ⟨[], (List.append_nil _).symm, hs ▸ h⟩

theorem bind (hx : x.AddsAt view v P E)
    (hf : ∀ a xs v', P a xs v' → (f a).AddsAt view v' (fun b ys => R b (xs ++ ys))
      (fun e ys => E e (xs ++ ys))) : (x >>= f).AddsAt view v R E := by
  intro s hs
  refine (hx s hs).bind fun a s₁ ⟨xs, hw, hp⟩ => ?_
  have ha (ys) : s₁.world.1 ++ ys = s.world.1 ++ (xs ++ ys) := by rw [hw, List.append_assoc]
  exact (hf a xs _ hp s₁ rfl).imp (fun _ _ ⟨ys, h₁, hr⟩ => ⟨xs ++ ys, h₁.trans (ha ys), hr⟩)
    (fun _ _ ⟨ys, h₁, he⟩ => ⟨xs ++ ys, h₁.trans (ha ys), he⟩)

theorem note {Q : Unit → List Exchange → γ → Prop} {record : Log.Record}
    (hv : ∀ records w, view (h.log records w) = view w) (hq : Q () [] v) :
    (Session.note h.noting record).AddsAt view v Q E :=
  fun _ hs => ⟨[], (List.append_nil _).symm, ((hv _ _).trans hs) ▸ hq⟩

theorem note_bind {record : Log.Record} {f : Unit → Action (Session (List Exchange × σ)) β}
    (hv : ∀ records w, view (h.log records w) = view w) (hf : (f ()).AddsAt view v R E) :
    (Session.note h.noting record >>= f).AddsAt view v R E :=
  fun s hs => hf { s with world := (s.world.1, h.log [record] s.world.2) } ((hv _ _).trans hs)

-- What is known of the answer to a request, and of the view when it is there.
theorem ask_bind {r : Host.Request} {f : r.Answer → Action (Session (List Exchange × σ)) β}
    {P : r.Answer → γ → Prop}
    (hr : ∀ w, view w = v → P (h.respond r w).1 (view (h.respond r w).2))
    (hf : ∀ a v', P a v' → (f a).AddsAt view v' (fun b xs => R b (⟨r, a⟩ :: xs))
      (fun e xs => E e (⟨r, a⟩ :: xs))) :
    (Session.ask h.noting r >>= f).AddsAt view v R E := by
  have ha : (Session.ask h.noting r).AddsAt view v (fun a xs v' => xs = [⟨r, a⟩] ∧ P a v') E :=
    fun s hs => ⟨_, rfl, rfl, hr s.world.2 hs⟩
  exact ha.bind fun a xs v' ⟨hs, hp⟩ => hs ▸ hf a v' hp

theorem allowed_bind {toFault : OsError → Fault} {a : Except OsError α}
    (hf : ∀ b, a = .ok b → (f b).AddsAt view v R E)
    (he : ∀ r, a = .error r → E (.fault (toFault r)) [] v) :
    (allowed toFault a >>= f).AddsAt view v R E := by
  cases a
  case ok b    => exact hf b rfl
  case error r => exact .throw (he r rfl)

-- An interrupt is told without anything being asked, so the view stays if telling leaves it alone.
theorem heed_bind {f : Unit → Action (Session (List Exchange × σ)) β}
    (hv : ∀ records w, view (h.log records w) = view w)
    (hp : ∀ text w, view (h.print text w) = view w) (hf : (f ()).AddsAt view v R E) :
    (heed h.noting >>= f).AddsAt view v R E := by
  have ha (s : Session (List Exchange × σ)) :
      view (alerted h.noting s).world.2 = view s.world.2 := by
    unfold alerted
    split
    case isTrue  => exact (hv _ _).trans (hp _ _)
    case isFalse => rfl
  have hh : (heed h.noting).AddsAt view v (fun _ xs v' => xs = [] ∧ v' = v) E := fun s hs =>
    ⟨[], (alerted_journal s).trans (List.append_nil _).symm, rfl, (ha s).trans hs⟩
  refine hh.bind ?_
  rintro _ _ _ ⟨rfl, rfl⟩
  exact hf

theorem settle_bind {timer : Option Timer} {a : Awaited timer α}
    {f : Except Timer α → Action (Session (List Exchange × σ)) β}
    (hv : ∀ records w, view (h.log records w) = view w)
    (hp : ∀ text w, view (h.print text w) = view w)
    (hc : a = .cancelled → E (.fault .shutdown) [] v)
    (hr : ∀ b, a = .ready b → (f (.ok b)).AddsAt view v R E)
    (hl : ∀ t h, a = .late t h → (f (.error t)).AddsAt view v R E) :
    (settle h.noting a >>= f).AddsAt view v R E := by
  simp only [settle, bind_assoc]
  refine heed_bind hv hp ?_
  cases a
  case ready b   => exact hr b rfl
  case late t h  => exact hl t h rfl
  case cancelled => exact .throw (hc rfl)

theorem settled_bind {a : Awaited none α} (hv : ∀ records w, view (h.log records w) = view w)
    (hp : ∀ text w, view (h.print text w) = view w)
    (hc : a = .cancelled → E (.fault .shutdown) [] v)
    (hr : ∀ b, a = .ready b → (f b).AddsAt view v R E) :
    (settled h.noting a >>= f).AddsAt view v R E := by
  simp only [settled, bind_assoc]
  refine heed_bind hv hp ?_
  cases a
  case ready b   => exact hr b rfl
  case late _ hn => cases hn
  case cancelled => exact .throw (hc rfl)

theorem releasing {pid : Pid} {P : γ → γ → Prop}
    (hp : ∀ w, P (view w) (view (h.respond (.release pid) w).2))
    (hx : x.AddsAt view v
      (fun a xs v' => ∀ v₁, P v' v₁ → Q a (xs ++ [⟨.release pid, ()⟩]) v₁)
      (fun e xs v' => ∀ v₁, P v' v₁ → E e (xs ++ [⟨.release pid, ()⟩]) v₁)) :
    (Session.releasing h.noting pid x).AddsAt view v Q E := by
  intro s hs
  exact releasing_ends <| (hx s hs).imp
    (fun _ s' ⟨_, hs, hq⟩ => ⟨_, release_journal hs, hq _ (hp s'.world.2)⟩)
    (fun _ s' ⟨_, hs, he⟩ => ⟨_, release_journal hs, he _ (hp s'.world.2)⟩)

end Action.AddsAt

theorem Timer.after?_deadline {now limit : Duration} {timer : Timer}
    (h : Timer.after? now limit = some timer) :
    timer.deadline.nanos = now.nanos + limit.nanos := by
  simp only [after?, moment?] at h
  split at h <;> cases h
  rfl

end EngineBench
