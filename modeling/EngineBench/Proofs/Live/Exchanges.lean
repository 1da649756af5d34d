import EngineBench.Proofs.Live.Control
import EngineBench.Proofs.Live.Over

namespace EngineBench

open Host (Exchange)

variable {σ α β : Type}

-- What an activity adds to the journal of its session, as it ends with an answer or fails.
def Action.Adds (x : Action (Session (List Exchange × σ)) α) (Q : α → List Exchange → Prop)
    (E : Abort → List Exchange → Prop) : Prop :=
  ∀ s, x.Ends s (fun a s' => ∃ xs, s'.world.1 = s.world.1 ++ xs ∧ Q a xs)
    (fun e s' => ∃ xs, s'.world.1 = s.world.1 ++ xs ∧ E e xs)

open Session

namespace Action.Adds

variable {h : Host σ} {x : Action (Session (List Exchange × σ)) α}
  {f : α → Action (Session (List Exchange × σ)) β} {P Q : α → List Exchange → Prop}
  {R : β → List Exchange → Prop} {D E : Abort → List Exchange → Prop}

theorem imp (hx : x.Adds P D) (hq : ∀ a xs, P a xs → Q a xs) (he : ∀ e xs, D e xs → E e xs) :
    x.Adds Q E :=
  fun s => (hx s).imp (fun a _ ⟨xs, hs, hp⟩ => ⟨xs, hs, hq a xs hp⟩)
    (fun e _ ⟨xs, hs, hd⟩ => ⟨xs, hs, he e xs hd⟩)

theorem pure {a : α} (h : Q a []) :
    (Pure.pure a : Action (Session (List Exchange × σ)) α).Adds Q E :=
  fun _ => ⟨[], (List.append_nil _).symm, h⟩

theorem throw {e : Abort} (h : E e []) :
    (MonadExcept.throw e : Action (Session (List Exchange × σ)) α).Adds Q E :=
  fun _ => ⟨[], (List.append_nil _).symm, h⟩

theorem bind (hx : x.Adds P E)
    (hf : ∀ a xs, P a xs → (f a).Adds (fun b ys => R b (xs ++ ys)) (fun e ys => E e (xs ++ ys))) :
    (x >>= f).Adds R E := by
  intro s
  refine (hx s).bind fun a s₁ ⟨xs, hs, hp⟩ => ?_
  have hw (ys) : s₁.world.1 ++ ys = s.world.1 ++ (xs ++ ys) := by rw [hs, List.append_assoc]
  exact (hf a xs hp s₁).imp (fun _ _ ⟨ys, h₁, hr⟩ => ⟨xs ++ ys, h₁.trans (hw ys), hr⟩)
    (fun _ _ ⟨ys, h₁, he⟩ => ⟨xs ++ ys, h₁.trans (hw ys), he⟩)

-- What adds nothing leaves it to the rest of a sequence.
theorem bind_quiet (hx : x.Adds (fun a xs => P a xs ∧ xs = []) E)
    (hf : ∀ a, P a [] → (f a).Adds R E) : (x >>= f).Adds R E :=
  hx.bind fun a _ ⟨hp, hs⟩ => by
    subst hs
    exact hf a hp

theorem ask_bind {r : Host.Request} {f : r.Answer → Action (Session (List Exchange × σ)) β}
    (hf : ∀ a, (f a).Adds (fun b xs => R b (⟨r, a⟩ :: xs)) (fun e xs => E e (⟨r, a⟩ :: xs))) :
    (Session.ask h.noting r >>= f).Adds R E := by
  have ha : (Session.ask h.noting r).Adds (fun a xs => xs = [⟨r, a⟩]) E := fun _ => ⟨_, rfl, rfl⟩
  exact ha.bind fun a xs hs => hs ▸ hf a

theorem note {Q : Unit → List Exchange → Prop} {record : Log.Record} (hq : Q () []) :
    (Session.note h.noting record).Adds Q E :=
  fun _ => ⟨[], (List.append_nil _).symm, hq⟩

theorem note_bind {record : Log.Record} {f : Unit → Action (Session (List Exchange × σ)) β}
    (hf : (f ()).Adds R E) : (Session.note h.noting record >>= f).Adds R E :=
  bind_quiet (P := fun _ _ => True) (note ⟨trivial, rfl⟩) fun _ _ => hf

theorem allowed_bind {toFault : OsError → Fault} {a : Except OsError α}
    (hf : ∀ v, a = .ok v → (f v).Adds R E)
    (he : ∀ r, a = .error r → E (.fault (toFault r)) []) : (allowed toFault a >>= f).Adds R E := by
  cases a
  case ok v    => exact hf v rfl
  case error r => exact .throw (he r rfl)

theorem ofBreach_bind {a : Except Breach α} (hf : ∀ v, (f v).Adds R E)
    (he : ∀ p, E (.breach p) []) : (Action.ofBreach a >>= f).Adds R E := by
  cases a
  case ok v    => exact hf v
  case error p => exact .throw (he p)

theorem heed_bind {f : Unit → Action (Session (List Exchange × σ)) β} (hf : (f ()).Adds R E) :
    (heed h.noting >>= f).Adds R E := by
  have hh : (heed h.noting).Adds (fun _ xs => True ∧ xs = []) E := fun s =>
    ⟨[], (alerted_journal s).trans (List.append_nil _).symm, trivial, rfl⟩
  exact bind_quiet hh fun _ _ => hf

theorem settle_bind {timer : Option Timer} {a : Awaited timer α}
    {f : Except Timer α → Action (Session (List Exchange × σ)) β}
    (hr : ∀ v, a = .ready v → (f (.ok v)).Adds R E) (hl : ∀ t, (f (.error t)).Adds R E)
    (he : E (.fault .shutdown) []) : (settle h.noting a >>= f).Adds R E := by
  simp only [settle, bind_assoc]
  refine heed_bind ?_
  cases a
  case ready v   => exact hr v rfl
  case late t _  => exact hl t
  case cancelled => exact .throw he

theorem settled_bind {a : Awaited none α} (hr : ∀ v, a = .ready v → (f v).Adds R E)
    (he : E (.fault .shutdown) []) : (settled h.noting a >>= f).Adds R E := by
  simp only [settled, bind_assoc]
  refine heed_bind ?_
  cases a
  case ready v   => exact hr v rfl
  case late _ hn => cases hn
  case cancelled => exact .throw he

theorem releasing {pid : Pid} (hx : x.Adds (fun a xs => Q a (xs ++ [⟨.release pid, ()⟩]))
    (fun e xs => E e (xs ++ [⟨.release pid, ()⟩]))) :
    (Session.releasing h.noting pid x).Adds Q E := by
  intro s
  exact releasing_ends <| (hx s).imp (fun _ _ ⟨_, hs, hq⟩ => ⟨_, release_journal hs, hq⟩)
    (fun _ _ ⟨_, hs, he⟩ => ⟨_, release_journal hs, he⟩)

theorem releasingOnFailure {pid : Pid}
    (hx : x.Adds Q (fun e xs => E e (xs ++ [⟨.release pid, ()⟩]))) :
    (Session.releasingOnFailure h.noting pid x).Adds Q E := by
  intro s
  exact releasingOnFailure_ends <|
    (hx s).imp_error fun _ _ ⟨_, hs, he⟩ => ⟨_, release_journal hs, he⟩

-- What does not read the journal adds to it, whatever that is.
theorem of_over (hx : ∀ before, x.Over (map (Host.prepend before)) x) :
    x.Adds (fun _ _ => True) (fun _ _ => True) := by
  intro s
  let t : Session (List Exchange × σ) := s.map fun w => ([], w.2)
  have ht : t.map (Host.prepend s.world.1) = s := by simp [t, map, Host.prepend]
  let grown (s' : Session (List Exchange × σ)) : Prop := ∃ xs, s'.world.1 = s.world.1 ++ xs ∧ True
  have hs : x.Ends (t.map (Host.prepend s.world.1)) (fun _ => grown) (fun _ => grown) :=
    (hx s.world.1).ends <| Ends.any.imp (fun _ t' _ => ⟨t'.world.1, rfl, trivial⟩)
      (fun _ t' _ => ⟨t'.world.1, rfl, trivial⟩)
  rwa [ht] at hs

end Action.Adds

-- What an activity adds to a journal and how it leaves the host, told of the activity without one.
theorem Session.exchanges_world_ends {h : Host σ}
    (act : Host (List Exchange × σ) → Action (Session (List Exchange × σ)) α)
    {Q : α → List Exchange → σ → Prop} {E : Abort → List Exchange → σ → Prop}
    {x : Action (Session σ) α} (ho : (act h.noting).Over (map Prod.snd) x) (s : Session σ)
    (ha : (act h.noting).Ends (s.noted [])
      (fun a s' => ∃ xs, s'.world.1 = (s.noted []).world.1 ++ xs ∧ Q a xs s'.world.2)
      (fun e s' => ∃ xs, s'.world.1 = (s.noted []).world.1 ++ xs ∧ E e xs s'.world.2)) :
    x.Ends s (fun a _ => Q a (s.exchanges h act) (x.after s).world)
      (fun e _ => E e (s.exchanges h act) (x.after s).world) := by
  have hs : x.after s = ((act h.noting).after (s.noted [])).map Prod.snd :=
    ho.after (t := s.noted [])
  rw [hs]
  refine ho.ends_after (t := s.noted []) (Q := fun a t => Q a t.world.1 t.world.2)
    (E := fun e t => E e t.world.1 t.world.2) (ha.imp ?answered ?failed)
  case answered => exact fun _ _ ⟨_, hs, hq⟩ => hs ▸ hq
  case failed => exact fun _ _ ⟨_, hs, he⟩ => hs ▸ he

theorem Session.exchanges_ends {h : Host σ}
    (act : Host (List Exchange × σ) → Action (Session (List Exchange × σ)) α)
    {Q : α → List Exchange → Prop} {E : Abort → List Exchange → Prop} {x : Action (Session σ) α}
    (ho : (act h.noting).Over (map Prod.snd) x) (s : Session σ)
    (ha : (act h.noting).Ends (s.noted [])
      (fun a s' => ∃ xs, s'.world.1 = (s.noted []).world.1 ++ xs ∧ Q a xs)
      (fun e s' => ∃ xs, s'.world.1 = (s.noted []).world.1 ++ xs ∧ E e xs)) :
    x.Ends s (fun a _ => Q a (s.exchanges h act)) (fun e _ => E e (s.exchanges h act)) :=
  exchanges_world_ends act (Q := fun a xs _ => Q a xs) (E := fun e xs _ => E e xs) ho s ha

namespace Control

theorem exchanges_start_running (h : Host σ) (c : Config) {s : Session σ} (hr : isRunning s) :
    s.exchanges h (start · c) = [] := by
  have ht : isRunning (s.noted []) := hr
  rw [exchanges, Action.after, start_running h.noting c ht]
  rfl

theorem exchanges_start_none (h : Host σ) (c : Config) {s : Session σ} (hs : s.server = none) :
    s.exchanges h (start · c) = s.exchanges h (Server.launch · c) := by
  have ht : (s.noted []).server = none := hs
  simp only [exchanges, Action.after, start_none h.noting c ht]
  cases hl : Server.launch h.noting c (s.noted [])
  case ok    => rw [Action.bind_ok hl]; rfl
  case error => rw [Action.bind_error hl]

theorem exchanges_stop_none (h : Host σ) (c : Config) {s : Session σ} (hs : s.server = none) :
    s.exchanges h (stop · c) = [] := by
  have ht : (s.noted []).server = none := hs
  rw [exchanges, Action.after, stop_none h.noting c ht]
  rfl

theorem exchanges_stop_some (h : Host σ) (c : Config) {s : Session σ} {server : Server}
    (hs : s.server = some server) : s.exchanges h (stop · c) =
      ({ s with server := none } : Session σ).exchanges h
        (fun h => releasing h server.pid (stopServer h c server)) := by
  have ht : (s.noted []).server = some server := hs
  rw [exchanges, Action.after, stop_some h.noting c ht]
  rfl

-- What a stop adds to a journal is what stopping the server that is held adds.
theorem stop_exchanges_ends (h : Host σ) (c : Config) {s : Session σ} {server : Server}
    (hs : s.server = some server) {Q : List Exchange → σ → Prop}
    {E : Abort → List Exchange → σ → Prop}
    (ha : (releasing h.noting server.pid (stopServer h.noting c server)).Ends
      (({ s with server := none } : Session σ).noted [])
      (fun _ s' => ∃ xs, s'.world.1 = [] ++ xs ∧ Q xs s'.world.2)
      (fun e s' => ∃ xs, s'.world.1 = [] ++ xs ∧ E e xs s'.world.2)) :
    (stop h c).Ends s (fun _ _ => Q (s.exchanges h (stop · c)) ((stop h c).after s).world)
      (fun e _ => E e (s.exchanges h (stop · c)) ((stop h c).after s).world) := by
  have ho := releasing_over h.noting_over (stopServer_relates h.noting_over.relates c server)
    server.pid
  rw [Action.Ends, Action.after, stop_some h c hs, exchanges_stop_some h c hs]
  exact exchanges_world_ends (fun h => releasing h server.pid (stopServer h c server)) ho _ ha

end Control

end EngineBench
