import EngineBench.Live.Rehearsal
import EngineBench.Proofs.Live.Control
import EngineBench.Proofs.Live.Over

namespace EngineBench

open Host (Exchange alive aliveAfter)

variable {σ α : Type}

namespace Host

theorem alive_snoc (xs : List Exchange) (x : Exchange) :
    alive (xs ++ [x]) = aliveAfter (alive xs) x := by
  simp only [alive, List.foldl_append, List.foldl_cons, List.foldl_nil]

theorem aliveAfter_sublist {x : Exchange} (pids : List Pid) (hx : x.request.isSpawn = false) :
    (aliveAfter pids x).Sublist pids := by
  have hs : x.spawned? = none := by
    obtain ⟨request, answer⟩ := x
    cases request <;> first | rfl | cases hx
  simp only [aliveAfter, hs, Option.toList_none, List.append_nil]
  exact List.filter_sublist

theorem aliveAfter_spawn_ok (pids : List Pid) (command : Command) (pid : Pid) :
    aliveAfter pids ⟨.spawn command, .ok pid⟩ = pids ++ [pid] :=
  List.filter_eq_self.mpr fun _ _ => rfl

theorem aliveAfter_spawn_error (pids : List Pid) (command : Command) (e : OsError) :
    aliveAfter pids ⟨.spawn command, .error e⟩ = pids := by
  rw [aliveAfter]
  exact (List.filter_eq_self.mpr fun _ _ => rfl).trans (List.append_nil pids)

-- Letting go of a process that was added takes it away again.
theorem aliveAfter_release {pids pids' : List Pid} {pid : Pid}
    (h : pids'.Sublist (pids ++ [pid])) :
    (aliveAfter pids' ⟨.release pid, ()⟩).Sublist pids := by
  simp only [aliveAfter, Exchange.spawned?, Option.toList_none, List.append_nil, Exchange.over?]
  refine (h.filter _).trans ?_
  simp

end Host

namespace Session

-- The processes that are there, by the journal of the session.
def processes (s : Session (List Exchange × σ)) : List Pid :=
  alive s.world.1

end Session

open Session

-- An activity that leaves no process that was not there before, however it ends.
def Action.Spares (x : Action (Session (List Exchange × σ)) α) : Prop :=
  ∀ pids, x.Preserves fun s => s.processes.Sublist pids

namespace Action.Spares

variable {x : Action (Session (List Exchange × σ)) α}

theorem ends (hx : x.Spares) (s : Session (List Exchange × σ)) :
    x.Ends s (fun _ s' => s'.processes.Sublist s.processes)
      (fun _ s' => s'.processes.Sublist s.processes) :=
  (hx _).ends (.refl _)

theorem of_after (hx : ∀ s, (x.after s).processes.Sublist s.processes) : x.Spares :=
  fun _ s hs => (hx s).trans hs

theorem of_same (hx : ∀ s, (x.after s).processes = s.processes) : x.Spares :=
  of_after fun s => hx s ▸ .refl _

end Action.Spares

namespace Session

variable {h : Host σ} {s : Session (List Exchange × σ)}

theorem ask_processes (h : Host σ) (r : Host.Request) (s : Session (List Exchange × σ))
    {E : Abort → Session (List Exchange × σ) → Prop} :
    (ask h.noting r).Ends s (fun a s' => s'.processes = aliveAfter s.processes ⟨r, a⟩) E :=
  Host.alive_snoc _ _

theorem release_processes (h : Host σ) (pid : Pid) (s : Session (List Exchange × σ)) :
    (s.release h.noting pid).processes = aliveAfter s.processes ⟨.release pid, ()⟩ :=
  Host.alive_snoc _ _

theorem ask_spares (h : Host σ) {r : Host.Request} (hr : r.isSpawn = false) :
    (ask h.noting r).Spares := by
  refine .of_after fun s => ?_
  have hs : ((ask h.noting r).after s).processes = _ := Host.alive_snoc _ _
  rw [hs]
  exact Host.aliveAfter_sublist _ hr

theorem spawned_processes (h : Host σ) (command : Host.Command) (refused : OsError → Fault)
    (s : Session (List Exchange × σ)) :
    (spawned h.noting command refused).Ends s
      (fun pid s' => s'.processes = s.processes ++ [pid])
      (fun _ s' => s'.processes = s.processes) := by
  refine (ask_processes h _ s).bind fun answer s' hs => ?_
  cases answer
  case ok pid  => exact .pure (hs.trans (Host.aliveAfter_spawn_ok _ _ _))
  case error e => exact hs.trans (Host.aliveAfter_spawn_error _ _ _)

theorem lending_spares (command : Host.Command) (refused : OsError → Fault)
    {f : Pid → Action (Session (List Exchange × σ)) α} (hf : ∀ pid, (f pid).Spares) :
    (lending h.noting command refused f).Spares := by
  intro pids s hs
  suffices he : (lending h.noting command refused f).Ends s
      (fun _ s' => s'.processes.Sublist pids) (fun _ s' => s'.processes.Sublist pids) from he.after
  refine ((spawned_processes h command refused s).imp_error ?refused).bind fun pid s₁ h₁ => ?lent
  case refused => exact fun _ _ h₁ => h₁ ▸ hs
  case lent =>
    have hp {s₂ : Session (List Exchange × σ)} (h₂ : s₂.processes.Sublist s₁.processes) :
        (s₂.release h.noting pid).processes.Sublist pids := by
      rw [release_processes]
      exact (Host.aliveAfter_release (h₁ ▸ h₂)).trans hs
    exact releasing_ends <| ((hf pid).ends s₁).imp (fun _ _ => hp) (fun _ _ => hp)

-- A process that is kept is the server that is handed on.
theorem keeping_processes (command : Host.Command) (refused : OsError → Fault)
    {f : Pid → Action (Session (List Exchange × σ)) Unit} (hf : ∀ pid, (f pid).Spares)
    (s : Session (List Exchange × σ)) :
    (keeping h.noting command refused f).Ends s
      (fun server s' => s'.processes.Sublist (s.processes ++ [server.pid]))
      (fun _ s' => s'.processes.Sublist s.processes) := by
  refine ((spawned_processes h command refused s).imp_error ?refused).bind fun pid s₁ h₁ => ?_
  case refused => exact fun _ _ h₁ => h₁ ▸ .refl _
  have hx : (releasingOnFailure h.noting pid (f pid)).Ends s₁
      (fun _ s' => s'.processes.Sublist (s.processes ++ [pid]))
      (fun _ s' => s'.processes.Sublist s.processes) := by
    refine releasingOnFailure_ends <| ((hf pid).ends s₁).imp (fun _ _ h₂ => h₁ ▸ h₂) ?_
    intro _ s₂ h₂
    rw [release_processes]
    exact Host.aliveAfter_release (h₁ ▸ h₂)
  exact hx.bind fun _ _ h₂ => .pure h₂

theorem spares_relates (h : Host σ) :
    Relates (fun _ x (_ : Action (Session (List Exchange × σ)) _) => x.Spares)
      h.noting h.noting where
  pure _        := fun _ => .pure _
  bind hx hf    := fun pids => (hx pids).bind (hf · pids)
  throw _       := fun _ _ h => h
  running hx hy := fun pids => .get_bind fun _ => (hx pids).ite (hy pids)
  clock _       := .of_same fun _ => rfl
  ask _ hr      := ask_spares h hr
  note _        := .of_same fun _ => rfl
  heed          := .of_same fun s => congrArg alive (alerted_journal s)
  lending command refused _ _ hf := lending_spares command refused hf

-- No process is there but the server that is held.
def Held (s : Session (List Exchange × σ)) : Prop :=
  s.processes.Sublist (s.server.map (·.pid)).toList

namespace Held

theorem length_le (hs : s.Held) : s.processes.length ≤ 1 :=
  Nat.le_trans (List.Sublist.length_le hs) Option.length_toList_le

theorem eq_pid (hs : s.Held) {pid : Pid} (hp : pid ∈ s.processes) :
    s.server.map (·.pid) = some pid :=
  Option.mem_toList.mp (List.Sublist.subset hs hp)

theorem of_none (hs : s.server = none) (hp : s.processes.Sublist []) : s.Held := by
  rw [Held, hs]
  exact hp

theorem none (hs : s.Held) (hn : s.server = none) : s.processes.Sublist [] := by
  rwa [Held, hn] at hs

theorem some {server : Server} (hs : s.Held) (h : s.server = some server) :
    s.processes.Sublist ([] ++ [server.pid]) := by
  rwa [Held, h] at hs

theorem drop (hs : s.Held) : (s.drop h.noting).processes = [] := by
  refine List.sublist_nil.mp ?_
  unfold Session.drop
  split
  case h_1 hn => exact hs.none hn
  case h_2 server hr =>
    have hp : (s.release h.noting server.pid).processes.Sublist [] := by
      rw [release_processes]
      exact Host.aliveAfter_release (hs.some hr)
    exact hp

end Held

end Session

theorem Action.Spares.held {x : Action (Session (List Exchange × σ)) α} (hx : x.Spares)
    (hk : x.KeepsServer) : x.Preserves Held := by
  intro s hs
  rw [Held, hk.after s]
  exact hx _ s hs

namespace Control

variable {h : Host σ} (c : Config)

theorem note_held (record : Log.Record) : (note h.noting record).Preserves Held :=
  Action.Spares.held ((spares_relates h).note record) (note_keeps record)

theorem resetState_held : (resetState h.noting c).Preserves Held :=
  Action.Spares.held (resetState_relates (spares_relates h).toRelatesFaults c) (resetState_keeps c)

theorem launch_processes (s : Session (List Exchange × σ)) :
    (Server.launch h.noting c).Ends s
      (fun server s' => s'.processes.Sublist (s.processes ++ [server.pid]))
      (fun _ s' => s'.processes.Sublist s.processes) := by
  have hr := spares_relates h
  rw [Server.launch_eq]
  refine ((Server.clear_relates hr.toRelatesFaults c).ends s).bind fun _ s₁ h₁ => ?_
  refine (keeping_processes _ _ (Server.untilReady_relates hr c) s₁).imp ?ready ?failed
  case ready => exact fun _ _ h₂ => h₂.trans (h₁.append_right _)
  case failed => exact fun _ _ h₂ => h₂.trans h₁

theorem start_held : (start h.noting c).Preserves Held := by
  intro s hs
  suffices he : (start h.noting c).Ends s (fun _ => Held) (fun _ => Held) from he.after
  refine .get_bind ?_
  split
  case isTrue => exact (note_held _).ends hs
  case isFalse hr =>
    have hn : s.server = none := Option.not_isSome_iff_eq_none.mp hr
    have hp := hs.none hn
    have hk := (launch_keeps (h := h.noting) c).after s
    have hl := (launch_processes c s).and_after (I := (·.server = s.server)) hk
    refine .bind (hl.imp_error fun _ s' he => ?failed) fun server s' ho => ?held
    case failed => exact .of_none (he.right.trans hn) (he.left.trans hp)
    case held => exact ho.left.trans (hp.append_right _)

theorem stop_held : (stop h.noting c).Preserves Held := by
  intro s hs
  suffices he : (stop h.noting c).Ends s (fun _ => Held) (fun _ => Held) from he.after
  refine .get_bind ?_
  split
  case h_1 => exact (note_held _).ends hs
  case h_2 server hr =>
    let s₁ : Session (List Exchange × σ) := { s with server := none }
    have hx := (stopServer_relates (spares_relates h) c server).ends s₁
    have hk := (stopServer_keeps (h := h.noting) c server).after s₁
    have hl := hx.and_after (I := (·.server = none)) hk
    have hp (s₂ : Session (List Exchange × σ))
        (h₂ : s₂.processes.Sublist s₁.processes ∧ s₂.server = none) :
        (s₂.release h.noting server.pid).Held := by
      refine .of_none h₂.right ?_
      rw [release_processes]
      exact Host.aliveAfter_release (h₂.left.trans (hs.some hr))
    exact releasing_ends (hl.imp (fun _ => hp) (fun _ => hp))

theorem obeyAll_held (orders : List Order) : (obeyAll h.noting c orders).Preserves Held :=
  obeyAll_preserves (start_held c) (stop_held c) (resetState_held c) orders

-- Whatever the host answers, no process is there between orders but the server that is held. A
-- server that is held keeps others from being spawned, a start that fails and a reset change
-- nothing about it, and a stop ends with none.
theorem server_is_only_process (h : Host σ) :
    (∀ (orders : List Order) (s : Session σ), s.server = none →
      let s₁ := (obeyAll h c orders).after s
      let pids := alive (s.exchanges h (obeyAll · c orders))
      pids.length ≤ 1 ∧ ∀ pid ∈ pids, isRunning s₁ ∧ s₁.server.map (·.pid) = some pid) ∧
    ∀ s : Session σ,
      (isRunning s →
        (start h c).answer s = .ok () ∧ s.exchanges h (start · c) = []) ∧
      isRunning ((stop h c).after s) = false ∧
      (∀ e s', start h c s = .error e s' → isRunning s' = isRunning s) ∧
      isRunning ((resetState h c).after s) = isRunning s := by
  refine ⟨fun orders s hn => ?orders,
    fun s => ⟨fun hr => ?again, ?stopped, fun e s' he => ?failed, ?reset⟩⟩
  case orders =>
    let t := (obeyAll h.noting c orders).after (s.noted [])
    have ht : (obeyAll h c orders).after s = t.map Prod.snd :=
      (obeyAll_over h.noting_over c orders).after (t := s.noted [])
    have hs : t.Held := obeyAll_held c orders _ (.of_none hn (.refl _))
    refine ⟨hs.length_le, fun pid hp => ?_⟩
    rw [ht]
    have hp : t.server.map (·.pid) = some pid := hs.eq_pid hp
    exact ⟨Option.isSome_of_eq_some hp ▸ (Option.isSome_map ..).symm, hp⟩
  case again =>
    have hr' : isRunning (s.noted []) := hr
    refine ⟨Action.answer_ok (start_running h c hr), ?_⟩
    rw [exchanges, Action.after_ok (start_running h.noting c hr')]
    rfl
  case stopped => exact congrArg Option.isSome (stop_ends c s).after
  case failed => exact congrArg Option.isSome ((start_ends c s).of_error he)
  case reset => exact congrArg Option.isSome ((resetState_keeps c).after s)

-- The server here is killed at a stop, having done nothing about its token.
theorem server_is_only_process_stubborn :
    let s : Session Rehearsal := (Session.start { Rehearsal.blank with stubborn := true }).1
    let c : Config := Setup.config {} ⟨"/engine"⟩ ⟨"server"⟩ ⟨"client"⟩
    let orders : List Order := [.start, .restart, .reset, .start]
    let pids := alive (s.exchanges Rehearsal.host (obeyAll · c orders))
    pids.length ≤ 1 ∧ pids = [2] := by
  intro s c orders pids
  exact ⟨((server_is_only_process c Rehearsal.host).left orders s rfl).left, by decide +kernel⟩

end Control

end EngineBench
