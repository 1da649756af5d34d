import EngineBench.Live.Parting

namespace EngineBench

-- How things stand with the sink and the processes. The moments at which a process was fed and
-- ended are those at which the host takes notice.
structure Scene where
  now    : Duration
  -- what is in the sink
  sink   : List UInt8
  -- the handle with which the sink was made last
  handle : Option FileHandle
  -- what a process has written to its output
  output : Pid → List UInt8
  runs   : Pid → Prop
  -- whether the output of a process that runs is the sink
  writes : Pid → Prop
  -- when a process had been fed
  fed?   : Pid → Option Duration
  -- when and how a process has ended by itself
  exit?  : Pid → Option (Duration × ExitStatus)

namespace Scene

-- Nobody writes to the sink.
def Quiet (v : Scene) : Prop :=
  ∀ p, ¬v.writes p

-- Nobody else does, and all that this process writes goes to the sink.
structure Sole (v : Scene) (pid : Pid) : Prop where
  only  : ∀ p, v.writes p → p = pid
  whole : v.runs pid → v.writes pid

-- A process had been fed and had ended by then.
def DoneBy (v : Scene) (pid : Pid) (t : Duration) : Prop :=
  (∃ fed, v.fed? pid = some fed ∧ fed ≤ t) ∧
    ∃ exit status, v.exit? pid = some (exit, status) ∧ exit ≤ t

-- How things go on as long as nobody makes a sink or spawns a process. Time goes on, nothing of the
-- past comes out later, an end is for good, and the sink grows by what is written to it.
structure GoesOn (v v' : Scene) : Prop where
  onward : v.now ≤ v'.now
  known  : ∀ p t, t ≤ v.now → v'.DoneBy p t → v.DoneBy p t
  rests  : ∀ p, ¬v.runs p → ¬v'.runs p ∧ v'.output p = v.output p ∧ v'.exit? p = v.exit? p
  quiet  : v.Quiet → v'.Quiet ∧ v'.sink = v.sink
  sole   : ∀ p, v.Sole p → v'.Sole p ∧
    ∃ written, v'.sink = v.sink ++ written ∧ v'.output p = v.output p ++ written

end Scene

namespace Host

variable {σ : Type}

namespace Request

-- Whether a request neither makes nor removes a file and spawns no process.
def plain : Request → Bool
  | remove _ | createOutput _ | spawn _ => false
  | _ => true

end Request

-- An output that was made is empty, what a process writes to it is added at its end, and a process
-- that has ended or was let go of writes no more. Besides, a client may be as it likes.
structure Shows (h : Host σ) (view : σ → Scene) (sink : Path) : Prop where
  log       : ∀ records w, view (h.log records w) = view w
  print     : ∀ text w, view (h.print text w) = view w
  -- no process that was spawned leaves another one behind that writes
  writes    : ∀ w p, (view w).writes p → (view w).runs p
  goesOn    : ∀ r w, r.plain → (view w).GoesOn (view (h.respond r w).2)
  created   : ∀ w handle, (view w).Quiet → (h.respond (.createOutput sink) w).1 = .ok handle →
    let v := view (h.respond (.createOutput sink) w).2
    v.Quiet ∧ v.sink = [] ∧ v.handle = some handle
  uncreated : ∀ w e, (h.respond (.createOutput sink) w).1 = .error e →
    (view w).GoesOn (view (h.respond (.createOutput sink) w).2)
  -- a process that is new has written nothing before
  spawned   : ∀ command w pid, (view w).Quiet →
    (view w).handle.map Output.file = some command.output →
    (h.respond (.spawn command) w).1 = .ok pid →
    let v := view (h.respond (.spawn command) w).2
    v.Sole pid ∧ v.sink = (view w).sink ++ v.output pid
  unspawned : ∀ command w e, (h.respond (.spawn command) w).1 = .error e →
    (view w).GoesOn (view (h.respond (.spawn command) w).2)
  ended     : ∀ pid timer w status, (h.respond (.awaitExit pid timer) w).1 = .ready (.ok status) →
    let v := view (h.respond (.awaitExit pid timer) w).2
    ¬v.runs pid ∧ ∃ exit, v.exit? pid = some (exit, status)
  unfed     : ∀ pid food timer w t ht, (h.respond (.feed pid food timer) w).1 = .late t ht →
    let v := view (h.respond (.feed pid food timer) w).2
    t.deadline ≤ v.now ∧ ¬v.DoneBy pid t.deadline
  unended   : ∀ pid timer w t ht, (h.respond (.awaitExit pid timer) w).1 = .late t ht →
    let v := view (h.respond (.awaitExit pid timer) w).2
    t.deadline ≤ v.now ∧ ¬v.DoneBy pid t.deadline
  released  : ∀ pid w, ¬(view (h.respond (.release pid) w).2).runs pid
  length    : ∀ w n, (h.respond (.length sink) w).1 = .ok n →
    n = (view (h.respond (.length sink) w).2).sink.length

namespace Exchange

-- The fault that an answer leads to when a client is run. A client that stops reading leads to
-- none, nor does one that is late.
def spoils? : Exchange → Option Fault
  | ⟨.openInput path, .ready (.error e)⟩ => some (.cannotOpenWorkload path e)
  | ⟨.createOutput path, .error e⟩ => some (.cannotCreateSink path e)
  | ⟨.spawn _, .error e⟩ => some (.launch Role.client.name (.refused e))
  | ⟨.feed .., .ready (.error .brokenPipe)⟩ => none
  | ⟨.feed .., .ready (.error e)⟩ => some (.cannotFeed e)
  | ⟨.awaitExit .., .ready (.error e)⟩ => some (.cannotWait .client e)
  | ⟨.length path, .error e⟩ => some (.cannotReadSink path e)
  | ⟨.openInput _, .cancelled⟩ => some .shutdown
  | ⟨.feed .., .cancelled⟩ => some .shutdown
  | ⟨.awaitExit .., .cancelled⟩ => some .shutdown
  | _ => none

end Exchange

end Host

namespace Client

variable {σ : Type}

-- Runs clients one after the other. One that fails does not keep the later ones from being run.
def runAll (h : Host σ) (c : Config) : List Path → Action (Session σ) Unit
  | [] => return
  | workload :: rest => do
    (run h c workload).regardless
    runAll h c rest

end Client

end EngineBench
