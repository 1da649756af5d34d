import EngineBench.Live.Sink
import EngineBench.Proofs.Live.Parting

namespace EngineBench

open Host (Exchange)
open Session

-- What is asked for while a client is looked after.
def Host.Request.tends : Request → Bool
  | feed .. | awaitExit .. | now | length _ => true
  | _ => false

namespace Client

-- How things go on while a client is looked after, up to the fault that comes of it.
structure Tends (v v' : Scene) (xs : List Exchange) (clocks : List Duration)
    (fault? : Option Fault) : Prop where
  goesOn : v.GoesOn v'
  asks   : ∀ x ∈ xs, x.request.tends
  faults : xs.filterMap Exchange.spoils? = fault?.toList
  clocks : xs.filterMap Exchange.clock? = clocks

-- How a client was left by a wait for its end.
inductive Left (pid : Pid) (timer : Option Timer) (v : Scene) : Except Timer ExitStatus → Prop
  | ended : ¬v.runs pid → v.exit? pid = some (exit, status) → Left pid timer v (.ok status)
  | late : timer = some t → t.deadline ≤ v.now → ¬v.DoneBy pid t.deadline →
    Left pid timer v (.error t)

-- What is told of a client, and what it was like.
inductive Told (c : Config) (pid : Pid) (v : Scene) (clocks : List Duration) : Invocation → Prop
  | ended : ¬v.runs pid → v.exit? pid = some (exit, status) →
    Told c pid v clocks ⟨status.code?, v.sink.length, false⟩
  | late : c.clientTimeout = some limit → clocks = [now] →
    ⟨now.nanos + limit.nanos⟩ ≤ v.now → ¬v.DoneBy pid ⟨now.nanos + limit.nanos⟩ →
    Told c pid v clocks ⟨none, bytes, true⟩

-- Everything that is asked for in a run that has come to spawn a client.
def whole (c : Config) (workload : Path) (input sink : FileHandle) (pid : Pid)
    (xs : List Exchange) : List Exchange :=
  [⟨.openInput (c.workloadPath workload), .ready (.ok input)⟩, ⟨.createOutput c.sinkPath, .ok sink⟩,
    ⟨.spawn (command c (.file sink)), .ok pid⟩] ++ xs ++ [⟨.release pid, ()⟩]

-- What a run of a client asks for, how things stand afterwards, and what comes of it.
inductive Runs (c : Config) (workload : Path) (v v' : Scene) :
    List Exchange → Except Fault Invocation → Prop
  | cut : v.GoesOn v' → Runs c workload v v'
    [⟨.openInput (c.workloadPath workload), .cancelled⟩] (.error .shutdown)
  | unopened : v.GoesOn v' → Runs c workload v v'
    [⟨.openInput (c.workloadPath workload), .ready (.error e)⟩]
    (.error (.cannotOpenWorkload (c.workloadPath workload) e))
  | unmade : v.GoesOn v' → Runs c workload v v'
    [⟨.openInput (c.workloadPath workload), .ready (.ok input)⟩,
      ⟨.createOutput c.sinkPath, .error e⟩]
    (.error (.cannotCreateSink c.sinkPath e))
  | unspawned : v'.Quiet → Runs c workload v v'
    [⟨.openInput (c.workloadPath workload), .ready (.ok input)⟩,
      ⟨.createOutput c.sinkPath, .ok sink⟩, ⟨.spawn (command c (.file sink)), .error e⟩]
    (.error (.launch Role.client.name (.refused e)))
  | failed : Tends v₁ v₂ xs clocks (some f) → v'.Quiet →
    Runs c workload v v' (whole c workload input sink pid xs) (.error f)
  | served : Tends v₁ v₂ xs clocks none → v'.Quiet → ¬v'.runs pid → v'.sink = v'.output pid →
    Told c pid v' clocks r → Runs c workload v v' (whole c workload input sink pid xs) (.ok r)

end Client

variable {σ : Type} {h : Host σ} {view : σ → Scene} {c : Config} {workload : Path} {pid : Pid}
  {v v' v₁ v₂ v₃ : Scene} {xs ys : List Exchange} {fault? : Option Fault}

namespace Scene

theorem GoesOn.refl (v : Scene) : v.GoesOn v where
  onward      := Nat.le_refl _
  known _ _ _ := id
  rests _ hp  := ⟨hp, rfl, rfl⟩
  quiet hq    := ⟨hq, rfl⟩
  sole _ hp   := ⟨hp, [], (List.append_nil _).symm, (List.append_nil _).symm⟩

theorem GoesOn.trans (h₁ : v₁.GoesOn v₂) (h₂ : v₂.GoesOn v₃) : v₁.GoesOn v₃ where
  onward         := Nat.le_trans h₁.onward h₂.onward
  known p t ht h := h₁.known p t ht (h₂.known p t (Nat.le_trans ht h₁.onward) h)
  rests p hp     :=
    have ⟨hr, ho, he⟩ := h₁.rests p hp
    have ⟨hr', ho', he'⟩ := h₂.rests p hr
    ⟨hr', ho'.trans ho, he'.trans he⟩
  quiet hq       :=
    have ⟨hq', hs⟩ := h₁.quiet hq
    have ⟨hq'', hs'⟩ := h₂.quiet hq'
    ⟨hq'', hs'.trans hs⟩
  sole p hp      := by
    have ⟨hp₂, xs, hs, ho⟩ := h₁.sole p hp
    have ⟨hp₃, ys, hs', ho'⟩ := h₂.sole p hp₂
    refine ⟨hp₃, xs ++ ys, ?sink, ?output⟩
    case sink => rw [hs', hs, List.append_assoc]
    case output => rw [ho', ho, List.append_assoc]

-- What a client that has the sink to itself has written is what is in there.
theorem Sole.holds (hp : v.Sole pid) (hs : v.sink = v.output pid) (hg : v.GoesOn v') :
    v'.Sole pid ∧ v'.sink = v'.output pid := by
  have ⟨hp', written, hs', ho⟩ := hg.sole pid hp
  exact ⟨hp', by rw [hs', ho, hs]⟩

end Scene

theorem Host.Shows.quiet_of_sole {sink : Path} (hs : h.Shows view sink) {w : σ}
    (hp : (view w).Sole pid) (hr : ¬(view w).runs pid) : (view w).Quiet := by
  intro p hw
  have he := hp.only p hw
  subst he
  exact hr (hs.writes w p hw)

namespace Client

theorem Tends.single {x : Exchange} (hg : v.GoesOn v') (hr : x.request.tends)
    (hx : x.spoils? = fault?) : Tends v v' [x] x.clock?.toList fault? where
  goesOn := hg
  asks   := List.forall_mem_singleton.mpr hr
  faults := by cases hx; cases h : x.spoils? <;> simp [h]
  clocks := by cases h : x.clock? <;> simp [h]

theorem Tends.append {clocks clocks' : List Duration} (hx : Tends v v₁ xs clocks none)
    (hy : Tends v₁ v' ys clocks' fault?) : Tends v v' (xs ++ ys) (clocks ++ clocks') fault? where
  goesOn := hx.goesOn.trans hy.goesOn
  asks   := List.forall_mem_append.mpr ⟨hx.asks, hy.asks⟩
  faults := by rw [List.filterMap_append, hx.faults, hy.faults]; rfl
  clocks := by rw [List.filterMap_append, hx.clocks, hy.clocks]

theorem Left.later {timer : Option Timer} {a : Except Timer ExitStatus}
    (hl : Left pid timer v a) (hg : v.GoesOn v') : Left pid timer v' a := by
  cases hl
  case ended hr he =>
    have ⟨hr', _, he'⟩ := hg.rests pid hr
    exact .ended hr' (he'.trans he)
  case late ht hn hd => exact .late ht (Nat.le_trans hn hg.onward) fun h => hd (hg.known _ _ hn h)

-- Nothing that happens later changes what is told of a client that has had the sink to itself.
theorem Told.later {clocks : List Duration} {r : Invocation} (ht : Told c pid v clocks r)
    (hp : v.Sole pid) (hs : v.sink = v.output pid) (hg : v.GoesOn v') :
    Told c pid v' clocks r := by
  cases ht
  case ended hr he =>
    have ⟨hr', ho, he'⟩ := hg.rests pid hr
    have ⟨_, hs'⟩ := hp.holds hs hg
    rw [show v.sink = v'.sink by rw [hs, hs', ho]]
    exact .ended hr' (he'.trans he)
  case late hc hn hd hb =>
    exact .late hc hn (Nat.le_trans hd hg.onward) fun h => hb (hg.known _ _ hd h)

variable (hs : h.Shows view c.sinkPath)

include hs

theorem awaitExit_tends (pid : Pid) (timer : Option Timer) (v : Scene) :
    (awaitExit h.noting pid timer).AddsAt view v
      (fun a xs v' => Tends v v' xs [] none ∧ Left pid timer v' a)
      (fun e xs v' => ∃ f, e = .fault f ∧ Tends v v' xs [] (some f)) := by
  refine .ask_bind (P := fun a v₁ => v.GoesOn v₁ ∧
      (∀ status, a = .ready (.ok status) → Left pid timer v₁ (.ok status)) ∧
      ∀ t ht, a = .late t ht → Left pid timer v₁ (.error t)) (fun w hw => ⟨?goesOn, ?ended, ?late⟩)
    fun a v₁ ⟨hg, hr, hl⟩ => .settle_bind hs.log hs.print ?cut (fun status he => ?exit) ?outlasted
  case goesOn => exact hw ▸ hs.goesOn _ w rfl
  case ended =>
    intro status ha
    have ⟨hr, _, he⟩ := hs.ended pid timer w status ha
    exact .ended hr he
  case late =>
    intro t ht ha
    have ⟨hn, hd⟩ := hs.unended pid timer w t ht ha
    exact .late ht hn hd
  case cut =>
    rintro rfl
    exact ⟨_, rfl, .single hg rfl rfl⟩
  case exit =>
    refine .allowed_bind (fun status hb => .pure ?status) (fun e hb => ?lost) <;> subst hb he
    case status => exact ⟨.single hg rfl rfl, hr _ rfl⟩
    case lost => exact ⟨_, rfl, .single hg rfl rfl⟩
  case outlasted =>
    rintro t ht rfl
    exact .pure ⟨.single hg rfl rfl, hl t ht rfl⟩

-- A client that stops reading early is fed for all that.
theorem feedWorkload_adds_at (pid : Pid) (food : Host.Food) (timer : Option Timer)
    (fed : Except OsError Nat) (v : Scene) :
    let fault? := Exchange.spoils? ⟨.feed pid food timer, .ready fed⟩
    (feedWorkload h.noting fed).AddsAt view v
      (fun _ xs v' => (xs = [] ∧ v' = v) ∧ fault? = none)
      (fun e xs v' => ∃ f, e = .fault f ∧ (xs = [] ∧ v' = v) ∧ fault? = some f) := by
  intro fault?
  unfold feedWorkload
  split
  case h_1 => exact .note hs.log ⟨⟨rfl, rfl⟩, rfl⟩
  case h_2 => exact .note hs.log ⟨⟨rfl, rfl⟩, rfl⟩
  case h_3 e he =>
    have hf : fault? = some (.cannotFeed e) := by
      simp only [fault?, Exchange.spoils?]
    exact .throw ⟨_, rfl, ⟨rfl, rfl⟩, hf⟩

theorem exchange_tends (pid : Pid) (input : FileHandle) (timer : Option Timer) (v : Scene) :
    (exchange h.noting pid input timer).AddsAt view v
      (fun a xs v' => Tends v v' xs [] none ∧ Left pid timer v' a)
      (fun e xs v' => ∃ f, e = .fault f ∧ Tends v v' xs [] (some f)) := by
  refine .ask_bind (P := fun a v₁ => v.GoesOn v₁ ∧
      ∀ t ht, a = .late t ht → Left pid timer v₁ (.error t)) (fun w hw => ⟨?goesOn, ?late⟩)
    fun a v₁ ⟨hg, hl⟩ => .settle_bind hs.log hs.print ?cut (fun fed he => ?fed) ?unfed
  case goesOn => exact hw ▸ hs.goesOn _ w rfl
  case late =>
    intro t ht ha
    have ⟨hn, hd⟩ := hs.unfed pid _ timer w t ht ha
    exact .late ht hn hd
  case cut =>
    rintro rfl
    exact ⟨_, rfl, .single hg rfl rfl⟩
  case fed =>
    subst he
    refine .bind ((feedWorkload_adds_at hs pid (.file input) timer _ v₁).imp_error ?unfit) ?awaited
    case unfit =>
      rintro _ _ _ ⟨f, rfl, ⟨rfl, rfl⟩, hf⟩
      exact ⟨f, rfl, .single hg rfl hf⟩
    case awaited =>
      rintro _ _ _ ⟨⟨rfl, rfl⟩, hf⟩
      refine (awaitExit_tends hs pid timer _).imp ?left ?lost
      case left => exact fun a xs v' ⟨hy, hl⟩ => ⟨(Tends.single hg rfl hf).append hy, hl⟩
      case lost =>
        rintro _ xs v' ⟨f, rfl, hy⟩
        exact ⟨f, rfl, (Tends.single hg rfl hf).append hy⟩
  case unfed =>
    rintro t ht rfl
    exact .pure ⟨.single hg rfl rfl, hl t ht rfl⟩

theorem timerFor_tends (v : Scene) {E : Abort → List Exchange → Scene → Prop} :
    (timerFor h.noting c).AddsAt view v
      (fun timer xs v' => ∃ clocks, Tends v v' xs clocks none ∧ ∀ t, timer = some t →
        ∃ limit now, c.clientTimeout = some limit ∧ clocks = [now] ∧
          t.deadline = ⟨now.nanos + limit.nanos⟩) E := by
  unfold timerFor
  cases hc : c.clientTimeout
  case none =>
    exact .pure ⟨[], ⟨.refl v, List.forall_mem_nil _, rfl, rfl⟩, fun _ ht => by cases ht⟩
  case some limit =>
    refine .ask_bind (P := fun _ v₁ => v.GoesOn v₁) (fun w hw => hw ▸ hs.goesOn _ w rfl)
      fun now v₁ hg => .pure ⟨[now], .single hg rfl rfl, fun t ht => ?_⟩
    have hd := Timer.after?_deadline ht
    exact ⟨limit, now, rfl, rfl, congrArg Duration.mk hd⟩

theorem sinkLength_tends (v : Scene) :
    (sinkLength h.noting c).AddsAt view v
      (fun n xs v' => Tends v v' xs [] none ∧ n = v'.sink.length)
      (fun e xs v' => ∃ f, e = .fault f ∧ Tends v v' xs [] (some f)) := by
  refine .ask_bind (P := fun a v₁ => v.GoesOn v₁ ∧ ∀ n, a = .ok n → n = v₁.sink.length)
    (fun w hw => ⟨hw ▸ hs.goesOn _ w rfl, hs.length w⟩) fun a v₁ ha => ?_
  obtain ⟨hg, hn⟩ := ha
  cases a
  case ok n    => exact .pure ⟨.single hg rfl rfl, hn n rfl⟩
  case error e => exact .throw ⟨_, rfl, .single hg rfl rfl⟩

theorem serve_tends (path : Path) (input : FileHandle) (pid : Pid) (v : Scene) :
    (serve h.noting c path input pid).AddsAt view v
      (fun r xs v' => ∃ clocks, Tends v v' xs clocks none ∧ Told c pid v' clocks r)
      (fun e xs v' => ∃ f clocks, e = .fault f ∧ Tends v v' xs clocks (some f)) := by
  refine .bind (timerFor_tends hs v) fun timer xs v₁ ⟨clocks, hx, ht⟩ =>
    .bind ((exchange_tends hs pid input timer v₁).imp_error ?failed) fun exit ys v₂ he => ?_
  case failed =>
    rintro _ ys v₂ ⟨f, rfl, hy⟩
    exact ⟨f, _, rfl, hx.append hy⟩
  obtain ⟨hy, hl⟩ := he
  -- The length of the sink is asked for whether the client has ended or not.
  have hlen {mk : Nat → Invocation}
      (hm : ∀ v₃, v₂.GoesOn v₃ → Told c pid v₃ (clocks ++ []) (mk v₃.sink.length)) :
      (sinkLength h.noting c >>= fun n => pure (mk n)).AddsAt view v₂
        (fun r zs v' => ∃ clocks, Tends v v' (xs ++ (ys ++ zs)) clocks none ∧
          Told c pid v' clocks r)
        (fun e zs v' => ∃ f clocks, e = .fault f ∧
          Tends v v' (xs ++ (ys ++ zs)) clocks (some f)) := by
    refine .bind ((sinkLength_tends hs v₂).imp_error ?unread) ?read
    case unread =>
      rintro _ zs v' ⟨f, rfl, hz⟩
      exact ⟨f, _, rfl, hx.append (hy.append hz)⟩
    case read =>
      rintro _ zs v' ⟨hz, rfl⟩
      refine .pure ⟨_, ?_, hm v' hz.goesOn⟩
      rw [List.append_nil]
      exact hx.append (hy.append hz)
  cases exit
  case ok status =>
    refine hlen fun v₃ hg => ?_
    obtain ⟨hr, he⟩ := hl.later hg
    exact .ended hr he
  case error t =>
    refine .note_bind hs.log (hlen fun v₃ hg => ?_)
    obtain _ | ⟨htimer, hn, hb⟩ := hl.later hg
    obtain ⟨limit, now, hc, rfl, hd⟩ := ht t htimer
    rw [hd] at hn hb
    exact .late hc rfl hn hb

theorem run_runs (workload : Path) (hq : v.Quiet) :
    (run h.noting c workload).AddsAt view v
      (fun r xs v' => Runs c workload v v' xs (.ok r))
      (fun e xs v' => ∃ f, e = .fault f ∧ Runs c workload v v' xs (.error f)) := by
  refine .ask_bind (P := fun _ v₁ => v.GoesOn v₁) (fun w hw => hw ▸ hs.goesOn _ w rfl)
    fun a v₁ h₁ => .settled_bind hs.log hs.print (fun ha => ⟨_, rfl, ha ▸ .cut h₁⟩)
      fun opened ho => .allowed_bind (fun input ha => ?_)
        (fun e ha => ⟨_, rfl, ho ▸ ha ▸ .unopened h₁⟩)
  subst ho ha
  have hq₁ := (h₁.quiet hq).left
  refine .ask_bind (P := fun a v₂ =>
      (∀ sink, a = .ok sink → v₂.Quiet ∧ v₂.sink = [] ∧ v₂.handle = some sink) ∧
      ∀ e, a = .error e → v₁.GoesOn v₂)
    (fun w hw => ⟨fun sink => hs.created w sink (hw ▸ hq₁), hw ▸ hs.uncreated w⟩) fun a v₂ h₂ => ?_
  refine .allowed_bind (fun sink ha => ?_) fun e ha =>
    ⟨_, rfl, ha ▸ .unmade (h₁.trans (h₂.right e ha))⟩
  have ⟨hq₂, he, hh⟩ := h₂.left sink ha
  subst ha
  refine .note_bind hs.log ?_
  simp only [spawn, bind_assoc]
  refine .ask_bind (P := fun a v₃ =>
      (∀ pid, a = .ok pid → v₃.Sole pid ∧ v₃.sink = v₃.output pid) ∧
      ∀ e, a = .error e → v₂.GoesOn v₃) (fun w hw => ⟨fun pid ha => ?sole, hw ▸ hs.unspawned _ w⟩)
    fun a v₃ h₃ => .allowed_bind (fun pid ha => ?_) (fun e ha => ⟨_, rfl, ha ▸ .unspawned ?quiet⟩)
  case sole =>
    subst hw
    have ⟨hp, hw⟩ := hs.spawned _ w pid hq₂ (by rw [hh]; rfl) ha
    exact ⟨hp, hw.trans (by rw [he, List.nil_append])⟩
  case quiet => exact ((h₃.right e ha).quiet hq₂).left
  have ⟨hp, ho⟩ := h₃.left pid ha
  subst ha
  refine .releasing (P := fun v₄ v' =>
      v₄.GoesOn v' ∧ ¬v'.runs pid ∧ (v'.Sole pid → ¬v'.runs pid → v'.Quiet))
    (fun w => ⟨hs.goesOn _ w rfl, hs.released pid w, hs.quiet_of_sole⟩)
    ((serve_tends hs _ input pid v₃).imp ?served ?failed)
  case served =>
    rintro r xs v₄ ⟨clocks, hx, ht⟩ v' ⟨hg, hr, hq'⟩
    have ⟨hp₄, ho₄⟩ := hp.holds ho hx.goesOn
    have ⟨hp', ho'⟩ := hp₄.holds ho₄ hg
    exact .served hx (hq' hp' hr) hr ho' (ht.later hp₄ ho₄ hg)
  case failed =>
    rintro _ xs v₄ ⟨f, clocks, rfl, hx⟩ v' ⟨hg, hr, hq'⟩
    have ⟨hp', _⟩ := hp.holds ho (hx.goesOn.trans hg)
    exact ⟨f, rfl, .failed hx (hq' hp' hr)⟩

end Client

end EngineBench
