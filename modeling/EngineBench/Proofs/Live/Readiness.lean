import EngineBench.Live.Rehearsal
import EngineBench.Proofs.Live.Control
import EngineBench.Proofs.Live.Exchanges

namespace EngineBench

open EngineBench.Action (Adds)
open Host (Exchange)
open Session

variable {σ : Type} {h : Host σ}

namespace Host.Request

-- What is asked while a server is waited for.
def isLook : Request → Bool
  | poll _ | isThere _ | now | sleep _ => true
  | _ => false

end Host.Request

namespace Host.Exchange

-- Nothing was spawned, and nothing was left that could not be removed.
def Plain (x : Exchange) : Prop :=
  x.spawned? = none ∧ x.unremoved? = none

theorem unremoved?_remove {path : Path} {e : OsError} (he : e ≠ .notFound) :
    (⟨.remove path, .error e⟩ : Exchange).unremoved? = some (path, e) := by
  cases e <;> first | rfl | exact absurd rfl he

end Host.Exchange

namespace Server

def Looks (xs : List Exchange) : Prop :=
  ∀ x ∈ xs, x.request.isLook

theorem Looks.nil : Looks [] :=
  List.forall_mem_nil _

theorem Looks.cons {x : Exchange} {xs : List Exchange} (hx : x.request.isLook) (hs : Looks xs) :
    Looks (x :: xs) :=
  List.forall_mem_cons.mpr ⟨hx, hs⟩

-- What is asked before a server is spawned, if nothing is left over in the end.
inductive Clears (socket : Path) : List Exchange → Prop
  | absent : Clears socket [⟨.isThere socket, false⟩]
  | removed : Clears socket [⟨.isThere socket, true⟩, ⟨.remove socket, .ok ()⟩]
  | vanished : Clears socket [⟨.isThere socket, true⟩, ⟨.remove socket, .error .notFound⟩]

-- The ways in which a launch goes.
inductive Launches (c : Config) : Except Abort Server → List Exchange → Prop
  | blocked : e ≠ .notFound →
    Launches c (.error (.fault (.cannotRemove c.socketPath e)))
      [⟨.isThere c.socketPath, true⟩, ⟨.remove c.socketPath, .error e⟩]
  | refused : Clears c.socketPath xs →
    Launches c (.error (.fault (notReady (.refused e)))) (xs ++ [⟨.spawn (command c), .error e⟩])
  | failed {pid : Pid} : Clears c.socketPath xs → Looks ys →
    Launches c (.error e) (xs ++ ⟨.spawn (command c), .ok pid⟩ :: (ys ++ [⟨.release pid, ()⟩]))
  | ready {pid : Pid} : Clears c.socketPath xs → Looks ys →
    Launches c (.ok ⟨pid, none⟩) (xs ++ ⟨.spawn (command c), .ok pid⟩ :: (ys ++
      [⟨.poll pid, .ok none⟩, ⟨.isThere c.socketPath, true⟩]))

theorem Looks.plain {xs : List Exchange} (hs : Looks xs) : ∀ x ∈ xs, x.Plain := by
  rintro ⟨request, answer⟩ hx
  have hl := hs _ hx
  cases request <;> first | exact ⟨rfl, rfl⟩ | cases hl

theorem Clears.plain {socket : Path} {xs : List Exchange} (hs : Clears socket xs) :
    ∀ x ∈ xs, x.Plain := by
  cases hs <;> simp [Exchange.Plain, Exchange.spawned?, Exchange.unremoved?]

-- The last that is seen of the socket is that it is not there.
theorem Clears.eq_append {socket : Path} {xs : List Exchange} (hs : Clears socket xs) :
    ∃ before x, xs = before ++ [x] ∧ x.gone? = some socket := by
  cases hs
  case absent   => exact ⟨[], _, rfl, rfl⟩
  case removed  => exact ⟨[_], _, rfl, rfl⟩
  case vanished => exact ⟨[_], _, rfl, rfl⟩

-- If something was left that could not be removed, that is what ended the launch.
theorem Launches.blocked_or {c : Config} {r : Except Abort Server} {xs : List Exchange}
    (hl : Launches c r xs) :
    (∃ e, e ≠ .notFound ∧ r = .error (.fault (.cannotRemove c.socketPath e)) ∧
      xs = [⟨.isThere c.socketPath, true⟩, ⟨.remove c.socketPath, .error e⟩]) ∨
    ∀ x ∈ xs, x.unremoved? = none := by
  have hp {xs : List Exchange} (hs : ∀ x ∈ xs, x.Plain) : ∀ x ∈ xs, x.unremoved? = none :=
    fun x hx => (hs x hx).right
  cases hl
  case blocked e hn => exact .inl ⟨e, hn, rfl, rfl⟩
  case refused hc =>
    exact .inr (List.forall_mem_append.mpr ⟨hp hc.plain, List.forall_mem_singleton.mpr rfl⟩)
  case failed hc hy =>
    refine .inr (List.forall_mem_append.mpr ⟨hp hc.plain, List.forall_mem_cons.mpr ⟨rfl, ?_⟩⟩)
    exact List.forall_mem_append.mpr ⟨hp hy.plain, List.forall_mem_singleton.mpr rfl⟩
  case ready hc hy =>
    refine .inr (List.forall_mem_append.mpr ⟨hp hc.plain, List.forall_mem_cons.mpr ⟨rfl, ?_⟩⟩)
    refine List.forall_mem_append.mpr ⟨hp hy.plain, List.forall_mem_cons.mpr ⟨rfl, ?_⟩⟩
    exact List.forall_mem_singleton.mpr rfl

theorem removeIfThere_adds (path : Path) :
    (removeIfThere h.noting path).Adds
      (fun _ xs => xs = [⟨.remove path, .ok ()⟩] ∨ xs = [⟨.remove path, .error .notFound⟩])
      (fun f xs => ∃ e, e ≠ .notFound ∧ f = .fault (.cannotRemove path e) ∧
        xs = [⟨.remove path, .error e⟩]) := by
  refine .ask_bind fun a => ?_
  split
  case h_1 => exact .pure (.inl rfl)
  case h_2 => exact .pure (.inr rfl)
  case h_3 e he => exact .throw ⟨e, fun hn => he (hn ▸ rfl), rfl, rfl⟩

theorem clear_adds (c : Config) :
    (clear h.noting c).Adds (fun _ xs => Clears c.socketPath xs)
      (fun f xs => Launches c (.error f) xs) := by
  refine .ask_bind fun there => ?_
  cases there
  case false => exact .note .absent
  case true =>
    refine .note_bind <|
      .bind ((removeIfThere_adds c.socketPath).imp (fun _ _ h => h) ?blocked) ?cleared
    case blocked =>
      rintro f xs ⟨e, hn, rfl, rfl⟩
      exact .blocked hn
    case cleared =>
      rintro _ xs (rfl | rfl)
      case inl => exact .note .removed
      case inr => exact .note .vanished

theorem look_adds (pid : Pid) (socket : Path) :
    (look h.noting pid socket).Adds
      (fun there xs => xs = [⟨.poll pid, .ok none⟩, ⟨.isThere socket, there⟩])
      (fun _ xs => Looks xs) := by
  refine .ask_bind fun a => .allowed_bind (fun status ha => ?status) fun _ _ => ?refused
  case status =>
    subst ha
    cases status
    case none   => exact fun _ => ⟨_, rfl, rfl⟩
    case some s => exact .throw (List.forall_mem_singleton.mpr rfl)
  case refused => exact List.forall_mem_singleton.mpr rfl

theorem awaitReady_adds (pid : Pid) (socket : Path) (timer : Timer) (b : Backoff) (now : Nat) :
    (awaitReady h.noting pid socket timer b now).Adds
      (fun _ xs => ∃ ys, Looks ys ∧ xs = ys ++ [⟨.poll pid, .ok none⟩, ⟨.isThere socket, true⟩])
      (fun _ xs => Looks xs) := by
  induction b, now using awaitReady.induct timer
  case case1 b now hi =>
    rw [awaitReady]
    refine .bind (look_adds pid socket) fun there xs hs => ?_
    subst hs
    cases there
    case true => exact .note ⟨[], .nil, rfl⟩
    case false =>
      simp only [Bool.false_eq_true, if_false]
      split
      case isTrue => exact .throw (.cons rfl (.cons rfl .nil))
      case isFalse hl =>
        refine .ask_bind fun slept => .settled_bind (fun _ _ => .ask_bind fun clock => ?again) ?cut
        case again =>
          refine (hi hl clock).imp ?ready ?failed
          case ready =>
            rintro _ xs ⟨ys, hy, rfl⟩
            exact ⟨_ :: _ :: _ :: _ :: ys, .cons rfl (.cons rfl (.cons rfl (.cons rfl hy))), rfl⟩
          case failed =>
            exact fun _ _ hx => .cons rfl (.cons rfl (.cons rfl (.cons rfl hx)))
        case cut => exact .cons rfl (.cons rfl (.cons rfl .nil))

theorem untilReady_adds (c : Config) (pid : Pid) :
    (untilReady h.noting c pid).Adds
      (fun _ xs => ∃ ys, Looks ys ∧
        xs = ys ++ [⟨.poll pid, .ok none⟩, ⟨.isThere c.socketPath, true⟩])
      (fun _ xs => Looks xs) := by
  refine .note_bind <| .ask_bind fun now => .ofBreach_bind (fun timer => ?reachable) ?overflow
  case reachable =>
    refine (awaitReady_adds pid c.socketPath timer .first now.nanos).imp ?_ fun _ _ => .cons rfl
    rintro _ xs ⟨ys, hy, rfl⟩
    exact ⟨_ :: ys, .cons rfl hy, rfl⟩
  case overflow => exact fun _ => .cons rfl .nil

theorem launch_adds (c : Config) :
    (launch h.noting c).Adds (fun server => Launches c (.ok server))
      (fun f => Launches c (.error f)) := by
  rw [launch_eq]
  refine .bind (clear_adds c) fun _ xs hx => ?_
  simp only [keeping, spawned, bind_assoc]
  refine .ask_bind fun answer => .allowed_bind (fun pid ha => ?spawned) fun e ha => ?refused
  case spawned =>
    subst ha
    refine .bind (.releasingOnFailure ((untilReady_adds c pid).imp (fun _ _ h => h) ?failed)) ?ready
    case failed => exact fun _ _ hy => .failed hx hy
    case ready =>
      rintro _ xs ⟨ys, hy, rfl⟩
      refine .pure ?_
      rw [List.append_nil]
      exact .ready hx hy
  case refused => exact ha ▸ .refused hx

-- At last the process was seen to have ended.
def SeesExit (pid : Pid) (xs : List Exchange) : Prop :=
  ∃ ys x, xs = ys ++ [x] ∧ x.exited? = some pid

theorem SeesExit.append {pid : Pid} {xs : List Exchange} (ys : List Exchange)
    (hx : SeesExit pid xs) : SeesExit pid (ys ++ xs) := by
  obtain ⟨zs, x, rfl, hx⟩ := hx
  exact ⟨ys ++ zs, x, (List.append_assoc ..).symm, hx⟩

theorem awaitExit_adds (timer : Option Timer) {server : Server} (hs : server.status = none) :
    (awaitExit h.noting timer server).Adds
      (fun server' xs => server' = server ∨ server'.status ≠ none ∧ SeesExit server.pid xs)
      (fun _ _ => True) := by
  simp only [awaitExit, hs]
  refine .ask_bind fun a => .settle_bind (fun answer ha => ?_) (fun _ => .pure (.inl rfl)) trivial
  refine .allowed_bind (fun status hr => .pure ?_) fun _ _ => trivial
  subst ha hr
  exact .inr ⟨Option.some_ne_none _, [], _, rfl, rfl⟩

theorem awaitExitFor_adds (limit : Duration) {server : Server} (hs : server.status = none) :
    (awaitExitFor h.noting limit server).Adds
      (fun server' xs => server' = server ∨ server'.status ≠ none ∧ SeesExit server.pid xs)
      (fun _ _ => True) :=
  .ask_bind fun _ => (awaitExit_adds _ hs).imp
    (fun _ _ hx => hx.imp_right fun hx => ⟨hx.left, hx.right.append [_]⟩) (fun _ _ h => h)

theorem terminate_adds {server : Server} (hs : server.status = none) :
    (terminate h.noting server).Adds (fun _ xs => SeesExit server.pid xs) (fun _ _ => True) := by
  refine .note_bind ?_
  simp only [hs]
  refine .ask_bind fun killed => .allowed_bind (fun _ _ => ?_) fun _ _ => trivial
  refine .ask_bind fun a => .settled_bind (fun answer ha => ?_) trivial
  refine .allowed_bind (fun status hr => .pure ?_) fun _ _ => trivial
  subst ha hr
  exact ⟨[_], _, rfl, rfl⟩

theorem removeSocket_adds (c : Config) :
    (removeSocket h.noting c).Adds (fun _ xs => ∃ x, xs = [x] ∧ x.gone? = some c.socketPath)
      (fun _ _ => True) := by
  refine (removeIfThere_adds c.socketPath).imp ?_ fun _ _ _ => trivial
  rintro _ xs (rfl | rfl) <;> exact ⟨_, rfl, rfl⟩

end Server

namespace Control

open Server (SeesExit Launches)

-- Nothing was there at the socket right before the server was spawned, and then the socket was
-- there while the server had not ended.
def SpawnsReady (c : Config) (pid : Pid) (xs : List Exchange) : Prop :=
  ∃ before gone between,
    xs = before ++ gone :: ⟨.spawn (Server.command c), .ok pid⟩ :: between ++
      [⟨.poll pid, .ok none⟩, ⟨.isThere c.socketPath, true⟩] ∧
    gone.gone? = some c.socketPath ∧ ∀ x ∈ before ++ between, x.spawned? = none

-- The server was seen to have ended, and then its socket was not there any more.
def Clean (c : Config) (pid : Pid) (xs : List Exchange) : Prop :=
  ∃ ys exit gone, xs = ys ++ [exit, gone] ∧ exit.exited? = some pid ∧
    gone.gone? = some c.socketPath

theorem Clean.append {c : Config} {pid : Pid} {xs : List Exchange} (ys : List Exchange)
    (hx : Clean c pid xs) : Clean c pid (ys ++ xs) := by
  obtain ⟨zs, exit, gone, rfl, hx⟩ := hx
  exact ⟨ys ++ zs, exit, gone, (List.append_assoc ..).symm, hx⟩

theorem endServer_adds (c : Config) (timer : Timer) {server : Server} (hs : server.status = none) :
    (endServer h.noting c timer server).Adds (fun _ => Clean c server.pid) (fun _ _ => True) := by
  have hr (xs : List Exchange) (hx : SeesExit server.pid xs) :
      (Server.removeSocket h.noting c).Adds (fun _ ys => Clean c server.pid (xs ++ ys))
        (fun _ _ => True) := by
    refine (Server.removeSocket_adds c).imp ?_ fun _ _ h => h
    rintro _ _ ⟨gone, rfl, hg⟩
    obtain ⟨ys, exit, rfl, hx⟩ := hx
    exact ⟨ys, exit, gone, List.append_assoc .., hx, hg⟩
  refine .ask_bind fun now => .bind (Server.awaitExitFor_adds _ hs) fun server' xs hx => ?_
  cases hx
  case inl he =>
    subst he
    simp only [hs]
    refine .note_bind <| .bind (Server.terminate_adds hs) fun _ ys hy => ?_
    simpa only [List.cons_append, List.append_assoc] using hr (_ :: xs ++ ys) (hy.append _)
  case inr hx =>
    cases hn : server'.status
    case none        => exact absurd hn hx.left
    case some status => exact .note_bind (hr (_ :: xs) (hx.right.append [_]))

theorem stopServer_adds (c : Config) {server : Server} (hs : server.status = none) :
    (stopServer h.noting c server).Adds (fun _ => Clean c server.pid) (fun _ _ => True) := by
  refine .note_bind <| .ask_bind fun now => .ofBreach_bind (fun timer => ?_) fun _ => trivial
  have ht : (sendToken h.noting c timer).Adds (fun _ _ => True) (fun _ _ => True) :=
    .of_over fun before =>
      sendToken_relates (h.noting_over_prepend before).relates.toRelatesFaults c timer
  exact ht.bind fun _ xs _ => (endServer_adds c timer hs).imp (fun _ _ hx => hx.append (_ :: xs))
    fun _ _ h => h

-- Only a stop looks how a server ended, and it does not keep the server.
def Fresh (held : Option Server) : Prop :=
  ∀ server, held = some server → server.status = none

theorem launch_fresh (c : Config) (s : Session σ) :
    (Server.launch h c).Ends s (fun server _ => server.status = none) (fun _ _ => True) := by
  rw [Server.launch_eq]
  exact .bind .any fun _ _ _ => .bind .any fun _ _ _ => .bind .any fun _ _ _ => .pure rfl

theorem start_fresh (c : Config) : (start h c).Preserves fun s => Fresh s.server := by
  intro s hs
  suffices he : (start h c).Ends s (fun _ s' => Fresh s'.server) (fun _ s' => Fresh s'.server) from
    he.after
  refine .get_bind ?_
  split
  case isTrue => exact ((note_keeps _).preserves Fresh).ends hs
  case isFalse =>
    have hl := ((launch_keeps (h := h) c).ends s).and (launch_fresh c s)
    refine .bind (hl.imp_error fun _ _ he => he ▸ hs) fun server _ ho => ?_
    rintro _ ⟨⟩
    exact ho.right

theorem stop_fresh (c : Config) : (stop h c).Preserves fun s => Fresh s.server := by
  intro s _ server hs
  rw [(stop_ends c s).after] at hs
  cases hs

theorem obeyAll_fresh (c : Config) (orders : List Order) :
    (obeyAll h c orders).Preserves fun s => Fresh s.server :=
  obeyAll_preserves (start_fresh c) (stop_fresh c) ((resetState_keeps c).preserves Fresh) orders

theorem start_launches (h : Host σ) (c : Config) {s : Session σ} (hs : s.server = none) :
    (start h c).Ends s
      (fun _ s' => ∃ server, s'.server = some server ∧
        Launches c (.ok server) (s.exchanges h (start · c)))
      (fun f _ => Launches c (.error f) (s.exchanges h (start · c))) := by
  have hl :=
    exchanges_ends (Server.launch · c) (launch_over h.noting_over c) s (Server.launch_adds c _)
  rw [Action.Ends, start_none h c hs, exchanges_start_none h c hs]
  exact Action.Ends.bind hl fun server s' hl => ⟨server, rfl, hl⟩

theorem start_ready {c : Config} {s s' : Session σ} (h' : start h c s = .ok () s')
    (hx : ∃ x ∈ s.exchanges h (start · c), x.spawned?.isSome) :
    ∃ pid, SpawnsReady c pid (s.exchanges h (start · c)) ∧ s'.server = some ⟨pid, none⟩ := by
  cases hr : s.server
  case some server =>
    obtain ⟨x, hx, _⟩ := hx
    rw [exchanges_start_running h c (Option.isSome_of_eq_some hr)] at hx
    cases hx
  case none =>
    obtain ⟨server, hs, hl⟩ := (start_launches h c hr).of_ok h'
    generalize s.exchanges h (start · c) = xs at hl
    cases hl
    case ready xs ys pid hc hy =>
      obtain ⟨before, gone, rfl, hg⟩ := hc.eq_append
      refine ⟨pid, ⟨before, gone, ys, ?order, hg, ?plain⟩, hs⟩
      case order => simp only [List.append_assoc, List.cons_append, List.nil_append]
      case plain =>
        refine List.forall_mem_append.mpr ⟨fun x hx => ?_, fun x hx => (hy.plain x hx).left⟩
        exact (hc.plain x (List.mem_append_left _ hx)).left

theorem start_blocked {c : Config} {s : Session σ} {e : OsError}
    (hx : ∃ x ∈ s.exchanges h (start · c), x.unremoved? = some (c.socketPath, e)) :
    (start h c).answer s = .error (.fault (.cannotRemove c.socketPath e)) ∧
      ∀ x ∈ s.exchanges h (start · c), x.request.isSpawn = false := by
  obtain ⟨x, hx, hu⟩ := hx
  cases hr : s.server
  case some server =>
    rw [exchanges_start_running h c (Option.isSome_of_eq_some hr)] at hx
    cases hx
  case none =>
    have hl := start_launches h c hr
    generalize s.exchanges h (start · c) = xs at hx hl
    have hn (hp : ∀ x ∈ xs, x.unremoved? = none) : False := by
      cases (hp x hx).symm.trans hu
    cases h' : start h c s
    case ok =>
      obtain ⟨server, _, hl⟩ := hl.of_ok h'
      rcases hl.blocked_or with ⟨_, _, hb, _⟩ | hp
      case inl => cases hb
      case inr => exact (hn hp).elim
    case error f s' =>
      rcases (hl.of_error h').blocked_or with ⟨e', he, hb, rfl⟩ | hp
      case inl =>
        cases hb
        rcases List.mem_cons.mp hx with rfl | hx
        case inl => cases hu
        case inr =>
          cases List.mem_singleton.mp hx
          cases (Exchange.unremoved?_remove he).symm.trans hu
          refine ⟨Action.answer_error h', List.forall_mem_cons.mpr ⟨rfl, ?_⟩⟩
          exact List.forall_mem_singleton.mpr rfl
      case inr => exact (hn hp).elim

theorem stop_clean {c : Config} {s s' : Session σ} {server : Server} (hf : Fresh s.server)
    (hs : s.server = some server) (h' : stop h c s = .ok () s') :
    ∃ xs, s.exchanges h (stop · c) = xs ++ [⟨.release server.pid, ()⟩] ∧
      Clean c server.pid xs := by
  have hx := stop_exchanges_ends h c hs (E := fun _ _ _ => True)
    (Q := fun xs _ => ∃ ys, xs = ys ++ [⟨.release server.pid, ()⟩] ∧ Clean c server.pid ys) <|
    Adds.releasing ((stopServer_adds c (hf server hs)).imp (fun _ ys hy => ⟨ys, rfl, hy⟩)
      fun _ _ h => h) _
  exact hx.of_ok h'

-- Whatever orders came before, a start that spawns a server and succeeds has seen that nothing was
-- at the socket before it saw the socket; a leftover that stays keeps a server from being spawned;
-- and a stop of a server that succeeds has seen its end and that its socket is gone.
theorem stale_socket_never_ready (h : Host σ) (c : Config) (orders : List Order) (s : Session σ)
    (hs : s.server = none) :
    let s₁ := (obeyAll h c orders).after s
    let started := s₁.exchanges h (start · c)
    (∀ s', start h c s₁ = .ok () s' → (∃ x ∈ started, x.spawned?.isSome) →
      ∃ pid, SpawnsReady c pid started ∧ s'.server = some ⟨pid, none⟩) ∧
    (∀ e, (∃ x ∈ started, x.unremoved? = some (c.socketPath, e)) →
      (start h c).answer s₁ = .error (.fault (.cannotRemove c.socketPath e)) ∧
        ∀ x ∈ started, x.request.isSpawn = false) ∧
    ∀ server s', s₁.server = some server → stop h c s₁ = .ok () s' →
      ∃ xs, s₁.exchanges h (stop · c) = xs ++ [⟨.release server.pid, ()⟩] ∧
        Clean c server.pid xs := by
  intro s₁ started
  refine ⟨fun s' => start_ready, fun e => start_blocked, fun server s' => stop_clean ?_⟩
  have hf : Fresh s.server := fun server h' => by cases hs.symm.trans h'
  exact obeyAll_fresh c orders s hf

-- The socket is there before the first start.
theorem stale_socket_never_ready_stubborn :
    let s : Session Rehearsal :=
      (Session.start { Rehearsal.blank with socket := true, stubborn := true }).1
    let c : Config := Setup.config {} ⟨"/engine"⟩ ⟨"server"⟩ ⟨"client"⟩
    let host := Rehearsal.host
    let s₁ := (obeyAll host c [.start]).after s
    (∃ pid, SpawnsReady c pid (s.exchanges host (start · c))) ∧
    (∃ xs, s₁.exchanges host (stop · c) = xs ++ [⟨.release 0, ()⟩] ∧ Clean c 0 xs) ∧
    (start host c).answer { s with world.refusal := some .denied } =
      .error (.fault (.cannotRemove c.socketPath .denied)) := by
  intro s c host s₁
  have ⟨_, s', h₁⟩ : ∃ a s', start host c s = .ok a s' := Action.exists_ok (by decide +kernel)
  have ⟨_, s'', h₂⟩ : ∃ a s', stop host c s₁ = .ok a s' := Action.exists_ok (by decide +kernel)
  refine ⟨?blocked, ?ready, ?left⟩
  case blocked =>
    have h := (stale_socket_never_ready host c [] s rfl).left s' h₁ (by decide +kernel)
    exact h.imp fun _ => And.left
  case ready =>
    exact (stale_socket_never_ready host c [.start] s rfl).right.right ⟨0, none⟩ s''
      (by decide +kernel) h₂
  case left =>
    exact ((stale_socket_never_ready host c [] _ rfl).right.left .denied (by decide +kernel)).left

end Control

end EngineBench
