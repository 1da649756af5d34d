import EngineBench.Live.Binary
import EngineBench.Machine.Schedule
import EngineBench.Text.Legible
import EngineBench.Text.Lines

namespace EngineBench

namespace Machine

def isNul (c : Char) : Bool := c = '\x00'

def hasNul (c : Host.Command) : Bool :=
  (c.program.text :: c.dir.text :: c.args).any fun s => s.toList.any isNul

-- Whether a command writes to a file.
def writesTo (m : Machine) (c : Host.Command) (id : NodeId) : Bool :=
  match c.output with
  | .file handle => (m.opening? handle).any (·.stream = .node id)
  | _ => false

-- The program of a command, which is looked up from the directory it is to run in.
def programOf (m : Machine) (dir : NodeId) (c : Host.Command) : Except OsError Program :=
  let busy (id : NodeId) : Bool := m.isWritten id || m.writesTo c id
  let searchPath := (m.vars.lookup "PATH").getD Program.defaultSearchPath
  match Program.locate m.files dir searchPath (Text.Raw.ofText c.program.text) with
  | none => .error .notFound
  | some p => Program.load m.files busy dir Program.mostDepth p (c.args.map Text.Raw.ofText)

def directory (m : Machine) (p : Path) : Except OsError NodeId := do
  let id ← m.files.find m.home true p
  match m.files.node? id with
  | some (.dir ..) => return id
  | _ => throw .notDirectory

def openInputOf (fed : Bool) (m : Machine) : Machine × OpeningId × Option Nat :=
  if fed then
    let (m, r, _) := m.addPipe true
    (m, r, some (m.pipes.size - 1))
  else
    let (m, o) := m.open_ .nowhere .reading
    (m, o, none)

def openOutputOf (output : Host.Output) (m : Machine) : Machine × OpeningId :=
  match output with
  | .file handle => (m, handle)
  | .collected => m.addOutput
  | .nowhere => m.open_ .nowhere .writing

def spawn (c : Host.Command) (m : Machine) : Except OsError (Machine × Pid) := do
  if hasNul c then throw .nulInArgument
  let dir ← m.directory c.dir
  let program ← m.programOf dir c
  let pid := m.nextPid
  let wake := m.now + Turn.startCost
  let (m, input, pipe) := m.openInputOf c.fed
  let (m, output) := m.openOutputOf c.output
  let (m, aside) := m.open_ .aside .writing
  let b : Birth := ⟨m.files, dir, pid, outside, wake, m.vars⟩
  let m := m.addProcess {
    pid, parent := outside, wake, wait := none, activity := b.activity program
    fds := [(0, input), (1, output), (2, aside)], cwd := dir, vars := m.vars }
  return ({ m with inputs := (pipe.map (pid, ·)).toList ++ m.inputs }, pid)

-- Nobody outside writes to the process any more.
def closeInput (pid : Pid) (m : Machine) : Machine :=
  match m.inputs.lookup pid with
  | none => m
  | some pipe => { m with pipes := m.pipes.modify pipe fun p => { p with heldOutside := false } }

def serve (bytes : ByteArray) (pid : Pid) (m : Machine) : Except OsError Machine :=
  match m.inputs.lookup pid with
  | none => .error .brokenPipe
  | some pipe =>
    if bytes.isEmpty || m.isHeld (.pipeRead pipe) then
      .ok { m with pipes := m.pipes.modify pipe (·.add bytes) }
    else .error .brokenPipe

def bytesOf (m : Machine) : Host.Food → Except OsError ByteArray
  | .text s => .ok s.toUTF8
  | .file handle =>
    match m.opening? handle with
    | some ⟨.node id, offset, _⟩ => (m.files.bytes id).map fun b => b.extract offset b.size
    | _ => .error .badDescriptor

def feed (pid : Pid) (food : Host.Food) (m : Machine) : Except OsError Nat × Machine :=
  let fed := do
    let bytes ← m.bytesOf food
    return (bytes.size, ← m.serve bytes pid)
  match fed with
  | .ok (n, m) => (.ok n, m.closeInput pid)
  | .error e => (.error e, m.closeInput pid)

def release (pid : Pid) (m : Machine) : Machine :=
  (m.closeInput pid).finish pid (.signal Signal.kill)

def length (m : Machine) (p : Path) : Except OsError Nat := do
  match ← m.files.stat m.home p with
  | .file bytes _ => return bytes.size
  | .dir .. => return 4096
  | _ => return 0

-- What came in an earlier wait does not count for the next one.
def calm (m : Machine) : Machine :=
  { m with interrupted := false }

-- Lets the machine go on for a while, or until it is as is wanted. It moves only while somebody
-- waits, and an interrupt ends such a wait.
def waitUntil (wanted : Machine → Bool) (deadline : Option Nat) (m : Machine) : Machine :=
  m.calm.advance wanted deadline mostSteps

def sleep (d : Duration) (m : Machine) : Awaited none Unit × Machine :=
  let m := m.waitUntil (fun _ => false) (some (m.now + d.nanos))
  (if m.interrupted then .cancelled else .ready (), m)

def offer (pid : Pid) (food : Host.Food) (timer : Option Timer) (m : Machine) :
    Awaited timer (Except OsError Nat) × Machine :=
  match timer with
  | some t =>
    if t.deadline.nanos ≤ m.now then (.late t rfl, m)
    else
      let (fed, m) := m.feed pid food
      (.ready fed, m)
  | none =>
    let (fed, m) := m.feed pid food
    (.ready fed, m)

-- A wait for which nothing will ever happen is over at once.
def awaitExit (pid : Pid) (timer : Option Timer) (m : Machine) :
    Awaited timer (Except OsError ExitStatus) × Machine :=
  let deadline := timer.map fun t => t.deadline.nanos
  let m := m.waitUntil (fun m => (m.status? pid).isSome) deadline
  if m.interrupted then (.cancelled, m)
  else match m.status? pid, timer with
    | some status, _ => (.ready (.ok status), m)
    | none, some t => (.late t rfl, m)
    | none, none => (.ready (.error .interrupted), m)

def changed (m : Machine) : Except OsError Files → Except OsError Unit × Machine
  | .ok files => (.ok (), { m with files })
  | .error e => (.error e, m)

def openedFile (m : Machine) :
    Except OsError (Machine × OpeningId) → Except OsError FileHandle × Machine
  | .ok (m, o) => (.ok o, m)
  | .error e => (.error e, m)

def openInput (p : Path) (m : Machine) : Awaited none (Except OsError FileHandle) × Machine :=
  let (opened, m) := m.openedFile (m.openFile m.home .input p)
  (.ready opened, m)

def respond : (r : Host.Request) → Machine → r.Answer × Machine
  | .isThere p, m => (m.files.exists? m.home p, m)
  | .remove p, m => m.changed (m.files.remove m.home p)
  | .openInput p, m => m.calm.openInput p
  | .createOutput p, m => m.openedFile (m.openFile m.home .output p)
  | .length p, m => (m.length p, m)
  | .spawn c, m =>
    match m.spawn c with
    | .ok (m, pid) => (.ok pid, m)
    | .error e => (.error e, m)
  | .poll pid, m => (.ok (m.status? pid), m)
  | .kill pid, m => (.ok (), (m.signal? Signal.kill pid).getD m)
  | .release pid, m => ((), m.release pid)
  | .now, m => (⟨m.now⟩, m)
  | .sleep d, m => m.sleep d
  | .feed pid food timer, m => m.calm.offer pid food timer
  | .awaitExit pid timer, m => m.awaitExit pid timer

def host : Host Machine where
  respond := respond
  interrupted := interrupted
  log records m := records.foldl (fun m r => m.say (.logged r)) m
  print s m := m.say (.printed s)

-- A variable that holds text.
def textVariable? (m : Machine) (name : String) : Option String := do
  String.fromUTF8? (Text.Raw.toBytes (← m.vars.lookup name))

def homeDir (m : Machine) : Option Path :=
  ((m.vars.lookup "HOME").filter (!·.isEmpty)).map Tools.path

-- A tilde that is the first step of a path stands for the home directory.
def withoutTilde (m : Machine) (p : Path) : Path :=
  match p.steps, m.homeDir with
  | "~" :: steps, some home => home.below steps
  | _, _ => p

-- The places where a program of that name would be. A place on the search path that is not
-- absolute is meant from the working directory on.
def candidates (m : Machine) (p : Path) : Except SearchFault (List Path) :=
  let here := m.files.pathOf m.home
  if p.hasDirectory then .ok [p.placedIn here]
  else match m.vars.lookup "PATH" with
    | none => .error .noSearchPath
    | some raw => .ok (((Text.Raw.toText raw).toList.splitOn ':').map fun dir =>
      ((m.withoutTilde ⟨.ofList dir⟩).join p).placedIn here)

def which (m : Machine) (p : Path) : Except SearchFault Path := do
  match (← m.candidates p).find? (m.files.isExecutable m.home) with
  | some found => return found
  | none => throw .notOnSearchPath

def surroundings (m : Machine) : Surroundings where
  isThere := m.files.exists? m.home
  isFile := m.files.isFile m.home
  resolve := m.files.canonical m.home
  readText := m.files.readText m.home
  which := m.which
  override role := m.textVariable? role.envName

-- What has been printed.
def printed (m : Machine) : String :=
  String.join (m.said.map fun
    | .printed s => s
    | _ => "")

-- What has been logged.
def records (m : Machine) : Log :=
  m.said.filterMap fun
    | .logged r => some r
    | _ => none

-- The lines of the error stream, to which only errors are logged, without what steers terminals.
-- What processes write there is left as it is.
def errorLines (m : Machine) : List String :=
  let text := String.join (m.said.map fun
    | .logged r =>
      if r.passes .error then
        Text.Legible.ofStream (String.join (r.terminalLines.map (· ++ "\n")))
      else ""
    | .aside bytes => Text.Lossy.decode bytes
    | .printed _ => "")
  Text.lines text

end Machine

end EngineBench
