import EngineBench.Proofs.Live.Parting
import EngineBench.Proofs.Live.Readiness

namespace EngineBench

open Host (Exchange Foiled)
open Session

variable {σ : Type} {h : Host σ} {view : σ → Instant} {server : Pid}

namespace Client

-- How a client is waited for, up to the fault that comes of it.
inductive Awaits (client : Pid) (timer : Timer) : List Exchange → Option Fault → Prop
  | outlasted : Awaits client timer [⟨.awaitExit client (some timer), .late t ht⟩] none
  | ended : Awaits client timer [⟨.awaitExit client (some timer), .ready (.ok status)⟩] none
  | lost : Awaits client timer [⟨.awaitExit client (some timer), .ready (.error e)⟩]
    (some (.cannotWait .client e))

-- What a client is told, and how it is waited for.
inductive Talks (client : Pid) (food : Host.Food) (timer : Timer) :
    List Exchange → Option Fault → Prop
  | unfed : Talks client food timer [⟨.feed client food (some timer), .late t ht⟩] none
  | fed : Awaits client timer xs fault? →
    Talks client food timer (⟨.feed client food (some timer), .ready fed⟩ :: xs) fault?

-- A client that is sent with a line, and let go of.
inductive Sends (command : Host.Command) (server : Pid) (food : Host.Food) (timer : Timer) :
    List Exchange → Option Fault → Prop
  | refused : Sends command server food timer [⟨.spawn command, .error e⟩]
    (some (.launch Role.client.name (.refused e)))
  | talked {client : Pid} : client ≠ server → Talks client food timer xs fault? →
    Sends command server food timer
      (⟨.spawn command, .ok client⟩ :: (xs ++ [⟨.release client, ()⟩])) fault?

-- What is seen of such a client, whatever comes of it.
structure Sent (command : Host.Command) (server : Pid) (food : Host.Food) (xs : List Exchange) :
    Prop where
  commands : xs.filterMap Exchange.command? = [command]
  offers   : xs.filterMap Exchange.offered? = (xs.filterMap Exchange.spawned?).map (·, food)
  clocks   : xs.filterMap Exchange.clock? = []
  limits   : xs.filterMap (Exchange.limit? server) = []
  spares   : .kill server ∉ xs.map (·.request)

end Client

namespace Server

inductive Removes (path : Path) : List Exchange → Option Fault → Prop
  | removed : Removes path [⟨.remove path, .ok ()⟩] none
  | absent : Removes path [⟨.remove path, .error .notFound⟩] none
  | stuck : e ≠ .notFound →
    Removes path [⟨.remove path, .error e⟩] (some (.cannotRemove path e))

inductive Kills (server : Pid) : List Exchange → Option Fault → Prop
  | refused : Kills server [⟨.kill server, .error e⟩] (some (.cannotKill e))
  | lost : Kills server [⟨.kill server, .ok ()⟩, ⟨.awaitExit server none, .ready (.error e)⟩]
    (some (.cannotKill e))
  | killed {status : ExitStatus} :
    Kills server [⟨.kill server, .ok ()⟩, ⟨.awaitExit server none, .ready (.ok status)⟩] none

end Server

namespace Control

open Client (Sends)
open Server (Removes Kills)

-- How long the server is waited for is reckoned right before.
def awaits (server : Pid) (timer : Timer) (t : Duration)
    (a : Awaited (Timer.after? t (timeLeft t timer)) (Except OsError ExitStatus)) : List Exchange :=
  [⟨.now, t⟩, ⟨.now, t⟩, ⟨.awaitExit server (Timer.after? t (timeLeft t timer)), a⟩]

-- How a server ends from an instant on, up to the fault that comes of it, and how things stand when
-- it has been waited for.
inductive Leaves (path : Path) (server : Pid) (timer : Timer) (inTime : Prop) (t : Duration)
    (m : Instant) : List Exchange → Option Fault → Prop
  | lost : Leaves path server timer inTime t m (awaits server timer t (.ready (.error e)))
    (some (.cannotWait .server e))
  | ended {status : ExitStatus} : (inTime → m.EndedBy timer.deadline) → Removes path ys fault? →
    Leaves path server timer inTime t m (awaits server timer t (.ready (.ok status)) ++ ys) fault?
  | unkilled : timer.deadline ≤ m.now ∧ ¬m.EndedBy timer.deadline → Kills server ys (some f) →
    Leaves path server timer inTime t m (awaits server timer t (.late l hl) ++ ys) (some f)
  | killed : timer.deadline ≤ m.now ∧ ¬m.EndedBy timer.deadline → Kills server ys none →
    Removes path zs fault? →
    Leaves path server timer inTime t m (awaits server timer t (.late l hl) ++ (ys ++ zs)) fault?

-- What is seen of the end of a server, and how that goes with how things stand later.
structure Left (server : Pid) (timer : Timer) (inTime : Prop) (t : Duration) (m : Instant)
    (xs : List Exchange) (fault? : Option Fault) : Prop where
  commands : xs.filterMap Exchange.command? = []
  spawned  : xs.filterMap Exchange.spawned? = []
  offers   : xs.filterMap Exchange.offered? = []
  clocks   : xs.filterMap Exchange.clock? = [t, t]
  limits   : xs.filterMap (Exchange.limit? server) =
    ((Timer.after? t (timeLeft t timer)).map Timer.limit).toList
  late     : .kill server ∈ xs.map (·.request) → ¬m.EndedBy timer.deadline
  killed   : inTime → ¬m.EndedBy timer.deadline → (∀ e, fault? ≠ some (.cannotWait .server e)) →
    .kill server ∈ xs.map (·.request)
  faults   : .kill server ∈ xs.map (·.request) → ∀ e, fault? ≠ some (.cannotWait .server e)

-- How a stop goes from one moment to another, up to the fault that comes of it.
inductive Stops (h : Host σ) (view : σ → Instant) (c : Config) (server : Pid) (timer : Timer)
    (m m' : Instant) : List Exchange → Option Fault → Prop
  | unsent : Sends (Client.command c .nowhere) server (.text (c.shutdownToken ++ "\n")) timer xs
      (some f) →
    Stops h view c server timer m m' (⟨.now, m.now⟩ :: (xs ++ [⟨.release server, ()⟩])) (some f)
  | sent : Sends (Client.command c .nowhere) server (.text (c.shutdownToken ++ "\n")) timer xs
      none → h.Passes view timer.deadline m m₁ →
    Leaves c.socketPath server timer (h.Punctual view ∧ m₁.now ≤ timer.deadline) m₁.now m₂ ys
      fault? → m₂.Before m' →
    Stops h view c server timer m m'
      (⟨.now, m.now⟩ :: (xs ++ ys ++ [⟨.release server, ()⟩])) fault?

end Control

variable {timer : Timer} {m m' : Instant} {t : Duration} {path : Path} {xs : List Exchange}
  {fault? : Option Fault}

namespace Host.Exchange

theorem limit?_awaitExit (o : Option Timer) (a : Awaited o (Except OsError ExitStatus)) :
    limit? server ⟨.awaitExit server o, a⟩ = o.map Timer.limit := by
  cases o
  case none => rfl
  case some => exact if_pos rfl

theorem Foils.of_awaitExit {pid : Pid} {o : Option Timer}
    {a : Awaited o (Except OsError ExitStatus)} {f : Fault}
    (hf : Foils server ⟨.awaitExit pid o, a⟩ f) : ∃ e, a = .ready (.error e) := by
  cases hf <;> exact ⟨_, rfl⟩

end Host.Exchange

namespace Client

variable {client : Pid} {command : Host.Command} {food : Host.Food}

theorem Awaits.foiled (hx : Awaits client timer xs fault?) (hc : client ≠ server) :
    Foiled server xs fault? := by
  cases hx
  case outlasted => exact .cons (fun _ hf => by cases hf) .nil
  case ended     => exact .cons (fun _ hf => by cases hf) .nil
  case lost      => exact .single (.client hc)

theorem Talks.foiled (hx : Talks client food timer xs fault?) (hc : client ≠ server) :
    Foiled server xs fault? := by
  cases hx
  case unfed  => exact .cons (fun _ hf => by cases hf) .nil
  case fed hx => exact .cons (fun _ hf => by cases hf) (hx.foiled hc)

theorem Sends.foiled (hx : Sends command server food timer xs fault?) :
    Foiled server xs fault? := by
  cases hx
  case refused => exact .single .launch
  case talked hc hx =>
    refine .cons (fun _ hf => by cases hf) ((hx.foiled hc).append_left ?_)
    exact .cons (fun _ hf => by cases hf) .nil

theorem Sends.faults {f : Fault} (hx : Sends command server food timer xs (some f)) :
    (∃ e, f = .launch Role.client.name (.refused e)) ∨ ∃ e, f = .cannotWait .client e := by
  cases hx
  case refused e => exact .inl ⟨e, rfl⟩
  case talked hx =>
    cases hx
    case fed hx =>
      cases hx
      case lost e => exact .inr ⟨e, rfl⟩

theorem Sends.sent (hx : Sends command server food timer xs fault?) :
    Sent command server food xs := by
  cases hx
  case refused => exact ⟨rfl, rfl, rfl, rfl, by simp⟩
  case talked client hc hx =>
    cases hx
    case' fed hx => cases hx
    all_goals exact ⟨rfl, rfl, rfl, by simp [Exchange.limit?, hc], by simp⟩

theorem awaitExit_adds_at (ha : h.Attends view server) (m : Instant) :
    (awaitExit h.noting client (some timer)).AddsAt view m
      (fun _ xs m' => Awaits client timer xs none ∧ h.Passes view timer.deadline m m')
      (fun e xs _ => ∃ f, e = .fault f ∧ Awaits client timer xs (some f)) := by
  refine .ask_bind (P := fun a m' => a ≠ .cancelled ∧ h.Passes view timer.deadline m m')
    (fun w hw => hw ▸ ⟨ha.awaited _ _ w, ha.passes_timed rfl w⟩) fun a m₁ ⟨hn, h₁⟩ => ?_
  refine .settle_bind ha.log ha.print (absurd · hn) (fun status hr => .allowed_bind ?ended ?lost)
    (fun _ _ hl => ?outlasted)
  case ended =>
    rintro status rfl
    subst hr
    exact .pure ⟨.ended, h₁⟩
  case lost =>
    rintro e rfl
    subst hr
    exact ⟨_, rfl, .lost⟩
  case outlasted =>
    subst hl
    exact .pure ⟨.outlasted, h₁⟩

theorem judge_adds_at (ha : h.Attends view server) (command : String) (status : ExitStatus)
    {E : Abort → List Exchange → Instant → Prop} :
    (judge h.noting command status).AddsAt view m (fun _ xs m' => xs = [] ∧ m' = m) E := by
  unfold judge
  split
  case isTrue  => exact .pure ⟨rfl, rfl⟩
  case isFalse => exact .note ha.log ⟨rfl, rfl⟩

theorem offer_adds_at (ha : h.Attends view server) (command : String) (m : Instant) :
    (offer h.noting command client (some timer)).AddsAt view m
      (fun _ xs m' => Talks client (.text (command ++ "\n")) timer xs none ∧
        h.Passes view timer.deadline m m')
      (fun e xs _ => ∃ f, e = .fault f ∧
        Talks client (.text (command ++ "\n")) timer xs (some f)) := by
  refine .ask_bind (P := fun a m' => a ≠ .cancelled ∧ h.Passes view timer.deadline m m')
    (fun w hw => hw ▸ ⟨ha.fed _ _ _ w, ha.passes_timed rfl w⟩) fun a m₁ ⟨hn, h₁⟩ => ?_
  refine .settle_bind ha.log ha.print (absurd · hn) (fun fed hf => ?_)
    (fun _ _ hl => .pure ⟨hl ▸ .unfed, h₁⟩)
  subst hf
  -- A client that did not take its command is waited for as well.
  cases fed
  case' error => refine .note_bind ha.log ?_
  all_goals
    refine .bind ((awaitExit_adds_at ha m₁).imp_error fun _ _ _ ⟨f, he, hx⟩ => ⟨f, he, .fed hx⟩)
      fun exit xs m₂ ⟨hx, h₂⟩ => ?_
    cases exit
    case error =>
      refine .pure ⟨?_, h₁.trans h₂⟩
      rw [List.append_nil]
      exact .fed hx
    case ok status =>
      refine .bind (judge_adds_at ha command status) ?_
      rintro _ _ _ ⟨rfl, rfl⟩
      refine .pure ⟨?_, h₁.trans h₂⟩
      rw [List.append_nil, List.append_nil]
      exact .fed hx

theorem send_adds_at (ha : h.Attends view server) (c : Config) (command : String) (m : Instant) :
    (send h.noting c command (some timer)).AddsAt view m
      (fun _ xs m' => Sends (Client.command c .nowhere) server (.text (command ++ "\n")) timer xs
        none ∧ h.Passes view timer.deadline m m')
      (fun e xs _ => ∃ f, e = .fault f ∧ Sends (Client.command c .nowhere) server
        (.text (command ++ "\n")) timer xs (some f)) := by
  refine .note_bind ha.log ?_
  simp only [spawn, bind_assoc]
  refine .ask_bind (P := fun a m' => a ≠ .ok server ∧ h.Passes view timer.deadline m m')
    (fun w hw => hw ▸ ⟨ha.fresh _ w, ha.passes_prompt rfl _ w⟩) fun a m₁ ⟨hn, h₁⟩ => ?_
  refine .allowed_bind (fun client hc => ?_) (fun e he => ⟨_, rfl, he ▸ .refused⟩)
  subst hc
  have hn : client ≠ server := fun he => hn (congrArg Except.ok he)
  refine .releasing (P := h.Passes view timer.deadline) (ha.passes_prompt rfl _)
    ((offer_adds_at ha command m₁).imp ?sent ?failed)
  case sent => exact fun _ xs m₂ ⟨hx, h₂⟩ m₃ h₃ => ⟨.talked hn hx, (h₁.trans h₂).trans h₃⟩
  case failed =>
    rintro _ xs _ ⟨f, rfl, hx⟩ _ _
    exact ⟨f, rfl, .talked hn hx⟩

end Client

namespace Server

theorem Removes.foiled (hx : Removes path xs fault?) : Foiled server xs fault? := by
  cases hx
  case removed  => exact .cons (fun _ hf => by cases hf) .nil
  case absent   => exact .cons (fun f hf => by cases hf; contradiction) .nil
  case stuck he => exact .single (.socket he)

theorem Kills.foiled (hx : Kills server xs fault?) : Foiled server xs fault? := by
  cases hx
  case refused => exact .single .kill
  case lost    => exact .cons (fun _ hf => by cases hf) (.single .killed)
  case killed  => exact .cons (fun _ hf => by cases hf) (.cons (fun _ hf => by cases hf) .nil)

theorem removeIfThere_adds_at (ha : h.Attends view server) (path : Path) (m : Instant) :
    (removeIfThere h.noting path).AddsAt view m
      (fun _ xs m' => Removes path xs none ∧ m.Before m')
      (fun e xs m' => ∃ f, e = .fault f ∧ Removes path xs (some f) ∧ m.Before m') := by
  refine .ask_bind (P := fun _ m' => m.Before m') (fun w hw => hw ▸ ha.later _ w) fun a m' hm => ?_
  split
  case h_1      => exact .pure ⟨.removed, hm⟩
  case h_2      => exact .pure ⟨.absent, hm⟩
  case h_3 e he => exact .throw ⟨_, rfl, .stuck fun hn => he (hn ▸ rfl), hm⟩

theorem terminate_adds_at (ha : h.Attends view server) (m : Instant) :
    (terminate h.noting ⟨server, none⟩).AddsAt view m
      (fun _ xs m' => Kills server xs none ∧ m.Before m')
      (fun e xs m' => ∃ f, e = .fault f ∧ Kills server xs (some f) ∧ m.Before m') := by
  refine .note_bind ha.log <|
    .ask_bind (P := fun _ m' => m.Before m') (fun w hw => hw ▸ ha.later _ w) fun killed m₁ h₁ => ?_
  refine .allowed_bind (fun _ hk => ?_) (fun e hk => ⟨_, rfl, hk ▸ .refused, h₁⟩)
  subst hk
  refine .ask_bind (P := fun a m' => a ≠ .cancelled ∧ m₁.Before m')
    (fun w hw => hw ▸ ⟨ha.awaited _ _ w, ha.later _ w⟩) fun a m₂ ⟨hn, h₂⟩ => ?_
  refine .settled_bind ha.log ha.print (absurd · hn) fun exit hx =>
    .allowed_bind (fun status hs => ?killed) fun e hs => ?lost
  case killed =>
    subst hx hs
    exact .pure ⟨.killed, h₁.trans h₂⟩
  case lost =>
    subst hx hs
    exact ⟨_, rfl, .lost, h₁.trans h₂⟩

end Server

namespace Control

open Client (Sends)
open Server (Removes Kills)

variable {inTime : Prop} {c : Config}

theorem awaits_foiled {a} {ys : List Exchange} {fault? : Option Fault}
    (ha : ∀ e, a ≠ .ready (.error e)) (hy : Foiled server ys fault?) :
    Foiled server (awaits server timer t a ++ ys) fault? := by
  have hw (f : Fault) : ¬Exchange.Foils server ⟨.awaitExit server _, a⟩ f := fun hf =>
    have ⟨e, he⟩ := hf.of_awaitExit
    ha e he
  exact .cons (fun _ hf => by cases hf) (.cons (fun _ hf => by cases hf) (.cons hw hy))

theorem awaits_limits {a} {ys : List Exchange}
    (hy : ys.filterMap (Exchange.limit? server) = []) :
    (awaits server timer t a ++ ys).filterMap (Exchange.limit? server) =
      ((Timer.after? t (timeLeft t timer)).map Timer.limit).toList := by
  change List.filterMap (Exchange.limit? server) (⟨.awaitExit server _, a⟩ :: ys) = _
  rw [List.filterMap_cons, Exchange.limit?_awaitExit, hy]
  cases Timer.after? t (timeLeft t timer) <;> rfl

theorem Leaves.foiled (hx : Leaves path server timer inTime t m xs fault?) :
    Foiled server xs fault? := by
  cases hx
  case lost =>
    exact .cons (fun _ hf => by cases hf) (.cons (fun _ hf => by cases hf) (.single .server))
  case ended hr    => exact awaits_foiled (fun _ h => by cases h) hr.foiled
  case unkilled hk => exact awaits_foiled (fun _ h => by cases h) hk.foiled
  case killed hk hr =>
    exact awaits_foiled (fun _ h => by cases h) (hk.foiled.append_right hr.foiled)

theorem Leaves.left (hx : Leaves path server timer inTime t m xs fault?) (hm : m.Before m') :
    Left server timer inTime t m' xs fault? := by
  have hn (h : timer.deadline ≤ m.now ∧ ¬m.EndedBy timer.deadline) :
      ¬m'.EndedBy timer.deadline := fun he => h.right (hm.known _ h.left he)
  cases hx
  case lost e =>
    exact ⟨rfl, rfl, rfl, rfl, awaits_limits List.filterMap_nil, by simp [awaits],
      fun _ _ hf => absurd rfl (hf e), by simp [awaits]⟩
  case ended he hr =>
    cases hr
    all_goals
      exact ⟨rfl, rfl, rfl, rfl, awaits_limits rfl, by simp [awaits],
        fun ht hn => absurd (hm.stays _ (he ht)) hn, by simp [awaits]⟩
  case unkilled he hk =>
    cases hk
    all_goals
      exact ⟨rfl, rfl, rfl, rfl, awaits_limits rfl, fun _ => hn he, by simp [awaits], by simp⟩
  case killed he hk hr =>
    cases hk
    cases hr
    all_goals
      exact ⟨rfl, rfl, rfl, rfl, awaits_limits rfl, fun _ => hn he, by simp [awaits], by simp⟩

theorem endServer_adds_at (ha : h.Attends view server) {now : Duration}
    (hm : Timer.after? now c.stopTimeout = some timer) (m : Instant) :
    (endServer h.noting c timer ⟨server, none⟩).AddsAt view m
      (fun _ xs m' => ∃ m₁, Leaves c.socketPath server timer
        (h.Punctual view ∧ m.now ≤ timer.deadline) m.now m₁ xs none ∧ m₁.Before m')
      (fun e xs m' => ∃ f m₁, e = .fault f ∧ Leaves c.socketPath server timer
        (h.Punctual view ∧ m.now ≤ timer.deadline) m.now m₁ xs (some f) ∧ m₁.Before m') := by
  refine .ask_bind (P := fun a m' => a = m.now ∧ m' = m) (fun w hw => hw ▸ ha.now w) ?_
  rintro _ m ⟨rfl, rfl⟩
  simp only [Server.awaitExitFor, Server.awaitExit, bind_assoc]
  refine .ask_bind (P := fun a m' => a = m.now ∧ m' = m) (fun w hw => hw ▸ ha.now w) ?_
  rintro _ m ⟨rfl, rfl⟩
  refine .ask_bind (P := fun a m₁ => a ≠ .cancelled ∧
      (∀ l hl, a = .late l hl → timer.deadline ≤ m₁.now ∧ ¬m₁.EndedBy timer.deadline) ∧
      ∀ status, a = .ready (.ok status) → h.Punctual view ∧ m.now ≤ timer.deadline →
        m₁.EndedBy timer.deadline)
    (fun w hw => ⟨ha.awaited _ _ w, fun l hl ho => ?late, fun status ho ht => ?inTime⟩)
    fun a m₁ hs => .settle_bind ha.log ha.print (absurd · hs.left) (fun exit hx => ?exited)
      fun l _ hx => ?outlasted
  case late => exact ha.late_at ho (Timer.le_after?_timeLeft hl)
  case inTime =>
    have he := ha.ended_at ht.left (Timer.after?_timeLeft hm ht.right) (hw ▸ ht.right) ho
    exact he
  case exited =>
    have hr := hs.right.right
    subst hx
    simp only [bind_assoc]
    refine .allowed_bind (fun status hs => ?_) (fun e he => ⟨_, m₁, rfl, he ▸ .lost, .refl _⟩)
    subst hs
    simp only [pure_bind]
    refine .note_bind ha.log <| (Server.removeIfThere_adds_at ha c.socketPath m₁).imp ?ended ?stuck
    case ended => exact fun _ ys m₂ hy => ⟨m₁, .ended (hr _ rfl) hy.left, hy.right⟩
    case stuck =>
      rintro _ ys m₂ ⟨f, rfl, hy, h₂⟩
      exact ⟨f, m₁, rfl, .ended (hr _ rfl) hy, h₂⟩
  case outlasted =>
    have he := hs.right.left _ _ hx
    subst hx
    simp only [pure_bind]
    refine .note_bind ha.log <|
      .bind ((Server.terminate_adds_at ha m₁).imp_error ?unkilled) fun _ ys m₂ hy => ?_
    case unkilled =>
      rintro _ ys m₂ ⟨f, rfl, hy, h₂⟩
      exact ⟨f, m₁, rfl, .unkilled he hy, h₂⟩
    obtain ⟨hy, h₂⟩ := hy
    refine (Server.removeIfThere_adds_at ha c.socketPath m₂).imp ?killed ?remains
    case killed =>
      rintro _ zs m₃ ⟨hz, h₃⟩
      exact ⟨m₁, .killed he hy hz, h₂.trans h₃⟩
    case remains =>
      rintro _ zs m₃ ⟨f, rfl, hz, h₃⟩
      exact ⟨f, m₁, rfl, .killed he hy hz, h₂.trans h₃⟩

theorem sendToken_adds_at (ha : h.Attends view server) (c : Config) (m : Instant) :
    (sendToken h.noting c timer).AddsAt view m
      (fun _ xs m' => Sends (Client.command c .nowhere) server (.text (c.shutdownToken ++ "\n"))
        timer xs none ∧ h.Passes view timer.deadline m m')
      (fun e xs _ => ∃ f, e = .fault f ∧ Sends (Client.command c .nowhere) server
        (.text (c.shutdownToken ++ "\n")) timer xs (some f)) := by
  refine .bind (Client.send_adds_at ha c c.shutdownToken m) fun sent xs m₁ hx => ?_
  cases sent
  case ok    => exact .pure ((List.append_nil xs).symm ▸ hx)
  case error => exact .note ha.log ((List.append_nil xs).symm ▸ hx)

theorem stopServer_adds_at (ha : h.Attends view server)
    (hm : Timer.after? m.now c.stopTimeout = some timer) :
    (releasing h.noting server (stopServer h.noting c ⟨server, none⟩)).AddsAt view m
      (fun _ xs m' => Stops h view c server timer m m' xs none)
      (fun e xs m' => ∃ f, e = .fault f ∧ Stops h view c server timer m m' xs (some f)) := by
  refine .releasing (P := Instant.Before) (ha.later _) <| .note_bind ha.log ?_
  refine .ask_bind (P := fun a m' => a = m.now ∧ m' = m) (fun w hw => hw ▸ ha.now w) ?_
  rintro _ m ⟨rfl, rfl⟩
  simp only [Timer.after, hm, Action.ofBreach, pure_bind]
  refine .bind ((sendToken_adds_at ha c m).imp_error ?unsent) fun _ xs m₁ ⟨hx, h₁⟩ => ?sent
  case unsent =>
    rintro _ xs _ ⟨f, rfl, hx⟩ _ _
    exact ⟨f, rfl, .unsent hx⟩
  case sent =>
    refine (endServer_adds_at ha hm m₁).imp ?ended ?failed
    case ended => exact fun _ ys m₃ ⟨m₂, hy, h₂⟩ m₄ h₃ => .sent hx h₁ hy (h₂.trans h₃)
    case failed =>
      rintro _ ys m₃ ⟨f, m₂, rfl, hy, h₂⟩ m₄ h₃
      exact ⟨f, rfl, .sent hx h₁ hy (h₂.trans h₃)⟩

theorem Stops.foiled (hx : Stops h view c server timer m m' xs fault?) :
    Foiled server xs fault? := by
  have hr : Foiled server [⟨.release server, ()⟩] none := .cons (fun _ hf => by cases hf) .nil
  cases hx
  case unsent hx => exact .cons (fun _ hf => by cases hf) (hx.foiled.append_left hr)
  case sent hx _ _ hy =>
    exact .cons (fun _ hf => by cases hf) ((hx.foiled.append_right hy.foiled).append_left hr)

theorem Stops.commands (hx : Stops h view c server timer m m' xs fault?) :
    xs.filterMap Exchange.command? = [Client.command c .nowhere] := by
  cases hx
  case unsent hx => simp [List.filterMap_cons, Exchange.command?, hx.sent.commands]
  case sent hx _ hm hy =>
    simp [List.filterMap_cons, Exchange.command?, hx.sent.commands, (hy.left hm).commands]

theorem Stops.offers (hx : Stops h view c server timer m m' xs fault?) :
    xs.filterMap Exchange.offered? = (xs.filterMap Exchange.spawned?).map
      fun client => (client, .text (c.shutdownToken ++ "\n")) := by
  cases hx
  case unsent hx =>
    simp [List.filterMap_cons, Exchange.offered?, Exchange.spawned?, hx.sent.offers]
  case sent hx _ hm hy =>
    simp [List.filterMap_cons, Exchange.offered?, Exchange.spawned?, hx.sent.offers,
      (hy.left hm).offers, (hy.left hm).spawned]

-- The server is waited for unless the client was refused or could not be waited for.
theorem Stops.waits (hx : Stops h view c server timer m m' xs fault?) :
    (xs.filterMap (Exchange.limit? server) = [] ∧ .kill server ∉ xs.map (·.request) ∧
      ((∃ e, fault? = some (.launch Role.client.name (.refused e))) ∨
        ∃ e, fault? = some (.cannotWait .client e))) ∨
    ∃ m₁, h.Passes view timer.deadline m m₁ ∧
      xs.filterMap Exchange.clock? = [m.now, m₁.now, m₁.now] ∧
      xs.filterMap (Exchange.limit? server) =
        ((Timer.after? m₁.now (timeLeft m₁.now timer)).map Timer.limit).toList ∧
      (.kill server ∈ xs.map (·.request) →
        ¬m'.EndedBy timer.deadline ∧ ∀ e, fault? ≠ some (.cannotWait .server e)) ∧
      (h.Punctual view ∧ m₁.now ≤ timer.deadline → ¬m'.EndedBy timer.deadline →
        (∀ e, fault? ≠ some (.cannotWait .server e)) → .kill server ∈ xs.map (·.request)) := by
  cases hx
  case unsent hx =>
    refine .inl ⟨?unwaited, ?spares, ?faults⟩
    case unwaited => simp [List.filterMap_cons, Exchange.limit?, hx.sent.limits]
    case spares => simpa using hx.sent.spares
    case faults =>
      obtain ⟨e, he⟩ | ⟨e, he⟩ := hx.faults
      case inl => exact .inl ⟨e, congrArg some he⟩
      case inr => exact .inr ⟨e, congrArg some he⟩
  case sent xs m₁ _ ys hx h₁ hm hy =>
    have hl := hy.left hm
    have hk : .kill server ∈ ((⟨.now, m.now⟩ : Exchange) ::
        (xs ++ ys ++ [⟨.release server, ()⟩])).map (·.request) ↔
        .kill server ∈ ys.map (·.request) := by
      simp only [List.map_cons, List.map_append, List.mem_cons, List.mem_append, hx.sent.spares,
        List.map_nil, List.not_mem_nil, reduceCtorEq, false_or, or_false]
    refine .inr ⟨m₁, h₁, ?clocks, ?limits, ?kills, ?killed⟩
    case clocks => simp [List.filterMap_cons, Exchange.clock?, hx.sent.clocks, hl.clocks]
    case limits => simp [List.filterMap_cons, Exchange.limit?, hx.sent.limits, hl.limits]
    case kills => exact fun h => ⟨hl.late (hk.mp h), hl.faults (hk.mp h)⟩
    case killed => exact fun ht he hf => hk.mpr (hl.killed ht he hf)

-- How an activity with no answer of its own ends.
def ending : Option Fault → Except Abort Unit
  | none => .ok ()
  | some f => .error (.fault f)

theorem ending_eq_error_iff {f : Fault} :
    ending fault? = .error (.fault f) ↔ fault? = some f := by
  cases fault? <;> simp [ending]

theorem stop_stops (ha : h.Attends view server) {s : Session σ}
    (hs : s.server = some ⟨server, none⟩)
    (hm : Timer.after? (view s.world).now c.stopTimeout = some timer) :
    ∃ fault?, (stop h c).answer s = ending fault? ∧
      Stops h view c server timer (view s.world) (view ((stop h c).after s).world)
        (s.exchanges h (stop · c)) fault? := by
  have hx := stop_exchanges_ends h c hs
    (Q := fun xs w => Stops h view c server timer (view s.world) (view w) xs none)
    (E := fun e xs w => ∃ f, e = .fault f ∧
      Stops h view c server timer (view s.world) (view w) xs (some f))
    (stopServer_adds_at ha hm _ rfl)
  cases h' : stop h c s
  case ok => exact ⟨none, Action.answer_ok h', hx.of_ok h'⟩
  case error =>
    obtain ⟨f, rfl, hy⟩ := hx.of_error h'
    exact ⟨some f, Action.answer_error h', hy⟩

-- A stop sends one client with the token. What that client leaves of the time is the limit for the
-- end of the server, which is killed if and only if it has not ended by the deadline and its end
-- could be waited for. Nothing but a refusal makes a stop fail, whatever becomes of the client.
theorem stop_shares_deadline (ha : h.Attends view server) (c : Config) {s : Session σ}
    (hs : s.server = some ⟨server, none⟩) {timer : Timer}
    (ht : Timer.after? (view s.world).now c.stopTimeout = some timer) :
    let xs := s.exchanges h (stop · c)
    let answer := (stop h c).answer s
    let start := (view s.world).now
    let killed := .kill server ∈ xs.map (·.request)
    let inTime := (view ((stop h c).after s).world).EndedBy timer.deadline
    xs.filterMap Exchange.command? = [Client.command c .nowhere] ∧
    xs.filterMap Exchange.offered? = (xs.filterMap Exchange.spawned?).map
      (fun client => (client, .text (c.shutdownToken ++ "\n"))) ∧
    (answer = .ok () ∧ (∀ x ∈ xs, ∀ f, ¬x.Foils server f) ∨
      ∃ f, answer = .error (.fault f) ∧ ∃ x ∈ xs, x.Foils server f) ∧
    (killed → ¬inTime) ∧
    (∀ limit ∈ xs.filterMap (Exchange.limit? server), ∃ t,
      xs.filterMap Exchange.clock? = [start, t, t] ∧ start ≤ t ∧
      limit.nanos = c.stopTimeout.nanos - (t.nanos - start.nanos)) ∧
    (h.Punctual view →
      (∀ e, answer ≠ .error (.fault (.launch Role.client.name (.refused e)))) →
      (∀ e, answer ≠ .error (.fault (.cannotWait .client e))) →
      ∃ t limit, xs.filterMap Exchange.clock? = [start, t, t] ∧
        xs.filterMap (Exchange.limit? server) = [limit] ∧ start ≤ t ∧
        t.nanos - start.nanos + limit.nanos = c.stopTimeout.nanos ∧
        (killed ↔ ¬inTime ∧ ∀ e, answer ≠ .error (.fault (.cannotWait .server e)))) := by
  intro xs answer start killed inTime
  have ⟨fault?, (hr : answer = _), (hx : Stops h view c server timer _ _ xs _)⟩ :=
    stop_stops ha hs ht
  have hd : timer.deadline.nanos = start.nanos + c.stopTimeout.nanos := Timer.after?_deadline ht
  refine ⟨hx.commands, hx.offers, ?foils, ?late, ?limits, fun hp hl hw => ?waits⟩
  case foils =>
    have hf := hx.foiled
    cases fault?
    case none   => exact .inl ⟨hr, hf⟩
    case some f => exact .inr ⟨f, hr, hf⟩
  case late =>
    obtain ⟨_, hn, _⟩ | ⟨_, _, _, _, hk, _⟩ := hx.waits
    case inl => exact fun h => absurd h hn
    case inr => exact fun h => (hk h).left
  case limits =>
    intro limit hl
    obtain ⟨hn, _⟩ | ⟨m₁, h₁, hc, hm, _⟩ := hx.waits
    case inl =>
      rw [hn] at hl
      cases hl
    case inr =>
      have ho : start.nanos ≤ m₁.now.nanos := h₁.left.onward
      rw [hm, Option.mem_toList, Option.map_eq_some_iff] at hl
      obtain ⟨l, hl, rfl⟩ := hl
      refine ⟨m₁.now, hc, ho, ?_⟩
      simp only [Timer.after?_limit hl, timeLeft]
      omega
  case waits =>
    obtain ⟨_, _, ⟨e, he⟩ | ⟨e, he⟩⟩ | ⟨m₁, h₁, hc, hm, hk, hk'⟩ := hx.waits
    case inl.inl => exact absurd (hr.trans (congrArg ending he)) (hl e)
    case inl.inr => exact absurd (hr.trans (congrArg ending he)) (hw e)
    case inr =>
      have hs : start.nanos ≤ timer.deadline.nanos := by omega
      have ho : start.nanos ≤ m₁.now.nanos := h₁.left.onward
      have ht' : m₁.now.nanos ≤ timer.deadline.nanos := h₁.right hp hs
      rw [Timer.after?_timeLeft ht ht'] at hm
      have hf : (∀ e, answer ≠ .error (.fault (.cannotWait .server e))) ↔
          ∀ e, fault? ≠ some (.cannotWait .server e) := by
        simp only [hr, ne_eq, ending_eq_error_iff]
      refine ⟨m₁.now, _, hc, hm, ho, ?left, ?kill⟩
      case left =>
        simp only [timeLeft]
        omega
      case kill =>
        rw [hf]
        exact ⟨hk, fun h => hk' ⟨hp, ht'⟩ h.left h.right⟩

-- A client that hangs leaves no time to a server that ends just at the deadline; one that fails
-- leaves some of it to a server that never ends.
theorem stop_shares_deadline_hanging :
    let c : Config :=
      Setup.config { stopTimeout := some (.ofMillis 300) } ⟨"/engine"⟩ ⟨"server"⟩ ⟨"client"⟩
    let hangs : Parting := ⟨some (.ofMillis 300, .code 0), none⟩
    let fails : Parting := ⟨none, some (.ofMillis 100, .code 3)⟩
    let s : Session Duration :=
      { (Session.start .zero).1 with server := some ⟨Parting.serverPid, none⟩ }
    let xs := s.exchanges hangs.host (stop · c)
    let ys := s.exchanges fails.host (stop · c)
    (stop hangs.host c).answer s = .ok () ∧ .kill Parting.serverPid ∉ xs.map (·.request) ∧
      xs.filterMap (Exchange.limit? Parting.serverPid) = [.zero] ∧
    (stop fails.host c).answer s = .ok () ∧ .kill Parting.serverPid ∈ ys.map (·.request) ∧
      ys.filterMap (Exchange.limit? Parting.serverPid) = [.ofMillis 200] := by
  intro c hangs fails s xs ys
  have ht : Timer.after? (hangs.instant s.world).now c.stopTimeout =
      some ⟨.ofMillis 300, .ofMillis 300⟩ := by decide +kernel
  have ⟨_, _, hx⟩ : ∃ a s', stop hangs.host c s = .ok a s' := Action.exists_ok (by decide +kernel)
  have ⟨_, _, hy⟩ : ∃ a s', stop fails.host c s = .ok a s' := Action.exists_ok (by decide +kernel)
  have hx : (stop hangs.host c).answer s = .ok () := Action.answer_ok hx
  have hy : (stop fails.host c).answer s = .ok () := Action.answer_ok hy
  have ⟨_, _, _, hl, _⟩ := stop_shares_deadline hangs.host_attends c rfl ht
  have ⟨_, _, _, _, _, hw⟩ := stop_shares_deadline fails.host_attends c rfl ht
  have ⟨_, _, _, _, _, _, hk⟩ := hw fails.host_punctual (fun _ he => by cases hy.symm.trans he)
    (fun _ he => by cases hy.symm.trans he)
  refine ⟨hx, fun h => hl h ?late, by decide +kernel, hy, hk.mpr ⟨?unended, ?awaited⟩,
    by decide +kernel⟩
  case late =>
    have hw : ((stop hangs.host c).after s).world = .ofMillis 300 := by decide +kernel
    rw [hw]
    exact ⟨_, _, rfl, Nat.le_refl _⟩
  case unended =>
    rintro ⟨_, _, he, _⟩
    cases he
  case awaited => exact fun _ he => by cases hy.symm.trans he

end Control

end EngineBench
