import EngineBench.Machine.Builtins
import EngineBench.Shell.Capture

namespace EngineBench

namespace Machine

namespace Turn

-- The fields of words, with the names that patterns among them stand for.
def fields (ws : List Shell.Word) (t : Turn) : Except String (List String × Turn) :=
  ws.foldlM (fun (read, t) w => do
    let (ps, t) ← t.expanding (Shell.fields w)
    return (read ++ ps.flatMap t.names, t)) ([], t)

def statusOf : ExitStatus → Nat
  | .code n => n.toNat % 256
  | .signal n => 128 + n

-- Whether a file is open to be written to, here or elsewhere.
def writes (t : Turn) (id : NodeId) : Bool :=
  (t.machine.put t.self).isWritten id

-- A program by name, or the status and the reason why there is none.
def program? (name : String) (args : List String) (t : Turn) : Except (Nat × String) Program :=
  let searchPath := (t.env.lookup "PATH").getD ""
  match Program.locate t.machine.files t.self.cwd searchPath name with
  | none => .error (127, name ++ ": not found")
  | some p =>
    match Program.load t.machine.files (t.writes ·) t.self.cwd Program.mostDepth p args with
    | .ok program => .ok program
    | .error .execFormat => .ok ⟨"sh", p :: args⟩
    | .error .notFound | .error .notDirectory | .error .nameTooLong | .error .tooManyLinks =>
      .error (127, name ++ ": not found")
    | .error e => .error (126, name ++ ": " ++ e.reason)

def birth (vars : List (String × String)) (pid parent : Pid) (wake : Nat) (t : Turn) : Birth where
  files := t.machine.files
  cwd := t.self.cwd
  pid := pid
  parent := parent
  wake := wake
  vars := vars

-- Goes on as another program.
def become (program : Program) (vars : List (String × String)) (t : Turn) : Turn :=
  let b := t.birth vars t.self.pid t.self.parent t.machine.now
  { t with replaced := some (b.activity program), self.vars := vars }

-- Starts a program and waits for its end; the last command of a shell that yields takes its
-- place.
def start (program : Program) (vars : List (String × String)) (fds : Descriptors) (t : Turn) :
    Turn :=
  if t.shell.yields && t.shell.frames.isEmpty && t.shell.traps.isEmpty then
    { t with self.fds := fds }.become program vars
  else
    let b := t.birth vars t.machine.nextPid t.self.pid (t.machine.now + startCost)
    let (t, pid) := t.spawn fds (b.activity program) vars
    t.push (.await [pid])

def external (as : List (String × Shell.Word)) (name : String) (args : List String)
    (rs : List Shell.Redirect) (t : Turn) : Turn :=
  let old := t.self.fds
  match t.redirectAll rs with
  | .error reason => (t.complain reason 2).judged
  | .ok t =>
    let fds := t.self.fds
    let back (t : Turn) : Turn := { t with self.fds := old }
    match t.assign as with
    | .error reason => (back t).abort reason
    | .ok given =>
      let env := as.foldl (fun e (n, _) => e.exportName n) given.env
      match { t with shell.env := env }.program? name args with
      | .error (status, reason) => (back (t.complain reason status)).judged
      | .ok program => (back t).start program env.outward fds

-- Runs something in the shell itself, with variables and streams of its own.
def inside (keeps : Bool) (as : List (String × Shell.Word)) (rs : List Shell.Redirect)
    (run : Turn → Turn) (t : Turn) : Turn :=
  let old := t.self.fds
  match t.redirectAll rs with
  | .error reason => if keeps then t.abort reason else (t.complain reason 2).judged
  | .ok t =>
    let saved := t.save (as.map (·.1))
    match t.assign as with
    | .error reason => t.abort reason
    | .ok t =>
      let t := if rs.isEmpty then t else t.push (.restore old)
      let t := if keeps || as.isEmpty then t else t.push (.giveBack saved)
      let ran := run t
      if ran.shell.frames.length = t.shell.frames.length then ran.judged else ran

def callFunction (body : Shell.Command) (args : List String) (t : Turn) : Turn :=
  let t := t.push (.returnTo t.env.params [])
  { t with shell.env.params := args }.exec body

def execute (as : List (String × Shell.Word)) (args : List String) (rs : List Shell.Redirect)
    (t : Turn) : Turn :=
  match t.redirectAll rs with
  | .error reason => t.abort reason
  | .ok t =>
    match t.assign as, args with
    | .error reason, _ => t.abort reason
    | .ok t, [] => t.setStatus 0
    | .ok t, name :: args =>
      let env := as.foldl (fun e (n, _) => e.exportName n) t.env
      match t.program? name args with
      | .error (status, reason) => (t.complain reason status).exit status
      | .ok program => t.become program env.outward

-- A command by its name: a builtin that is special, a function, another builtin, or a program.
def command (functions : List (String × Shell.Command)) (as : List (String × Shell.Word))
    (name : String) (args : List String) (rs : List Shell.Redirect) (t : Turn) : Turn :=
  if name = "exec" then t.execute as args rs
  else match Builtin.special.lookup name with
    | some run => t.inside true as rs (run args)
    | none =>
      match functions.lookup name with
      | some body => t.inside false as rs (callFunction body args)
      | none =>
        match Builtin.ordinary.lookup name with
        | some run => t.inside false as rs (run args)
        | none => t.external as name args rs

-- Tells what is about to be done if an option says so.
def traced (as : List (String × Shell.Word)) (fields : List String) (t : Turn) : Turn :=
  let values := as.foldlM (fun (told, t) (name, w) => do
    let t ← Turn.assign [(name, w)] t
    return (told ++ [name ++ "=" ++ (t.env.lookup name).getD ""], t)) ([], t)
  match values with
  | .ok (told, after) =>
    if 'x' ∈ t.env.options then
      let mark := (after.env.lookup "PS4").getD "+ "
      t.write 2 (mark ++ String.intercalate " " (told ++ fields) ++ "\n")
    else t
  | .error (_ : String) => t

def simple (as : List (String × Shell.Word)) (ws : List Shell.Word) (rs : List Shell.Redirect)
    (captured : Option Nat) (t : Turn) : Turn :=
  match t.fields ws with
  | .error reason => t.abort reason
  | .ok (fields, t) =>
    let t := t.traced as fields
    match fields with
    | [] =>
      let old := t.self.fds
      match t.redirectAll rs with
      | .error reason => (t.complain reason 2).judged
      | .ok t =>
        match { t with self.fds := old }.assign as with
        | .error reason => t.abort reason
        | .ok t => (t.setStatus (captured.getD 0)).judged
    | "command" :: "-v" :: args => t.inside false as rs (Builtin.tellCommand false args)
    | "command" :: "-V" :: args => t.inside false as rs (Builtin.tellCommand true args)
    | "command" :: "-p" :: name :: args | "command" :: name :: args => t.command [] as name args rs
    | name :: args => t.command t.shell.functions as name args rs

def withDescriptor (fds : Descriptors) (fd : Nat) : Option OpeningId → Descriptors
  | none => fds
  | some o => (fd, o) :: fds.filter (·.1 ≠ fd)

-- Starts the stages of a pipeline from the first to the last.
def pipeline (input : Option OpeningId) : List Shell.Command → Turn → Turn × List Pid
  | [], t => (t, [])
  | [last], t =>
    let (t, pid) := t.spawnShell (withDescriptor t.self.fds 0 input) last
    (t, [pid])
  | c :: rest, t =>
    let (machine, r, w) := t.machine.addPipe false
    let t := { t with machine }
    let fds := withDescriptor (withDescriptor t.self.fds 0 input) 1 (some w)
    let (t, pid) := t.spawnShell fds c
    let (t, pids) := pipeline (some r) rest t
    (t, pid :: pids)

def background (c : Shell.Command) (t : Turn) : Turn :=
  let (machine, o) := t.machine.open_ .nowhere .reading
  let t := { t with machine }
  let (t, pid) := t.spawnShell (withDescriptor t.self.fds 0 (some o)) c
  { t with shell.env.job := some pid }.setStatus 0

-- The first branch with a pattern that stands for the word.
def chosen (word : String) : List (List Shell.Word × Shell.Command) → Turn →
    Except String (Option Shell.Command × Turn)
  | [], t => .ok (none, t)
  | (ws, c) :: rest, t => do
    let (hit, t) ← ws.foldlM (fun (hit, t) w => do
      if hit then return (true, t)
      let (p, t) ← t.expanding (Shell.pattern w)
      return (p.matchesText word, t)) (false, t)
    if hit then return (some c, t) else chosen word rest t

def branch (w : Shell.Word) (bs : List (List Shell.Word × Shell.Command)) (t : Turn) :
    Except String Turn := do
  let (word, t) ← t.expanding (Shell.single w)
  match ← chosen word bs t with
  | (some c, t) => return t.exec c
  | (none, t) => return t.setStatus 0

def orAbort (t : Turn) : Except String Turn → Turn
  | .ok t => t
  | .error reason => t.abort reason

-- Starts on a command whose line is known.
def begin (captured : Option Nat) (t : Turn) : Shell.Command → Turn
  | .onLine _ c => t.exec c
  | .skip => t
  | .simple as ws rs => t.simple as ws rs captured
  | .pipeline stages =>
    let (t, pids) := t.pipeline none stages
    t.push (.await pids)
  | .negate c => (t.push .invert).exec c
  | .seq first second => (t.exec second).exec first
  | .both first second => (t.push (.onSuccess second)).exec first
  | .either first second => (t.push (.onFailure second)).exec first
  | .background c => t.background c
  | .cond test yes no => (t.push (.choose yes no)).exec test
  | .loop untilTrue test body => (t.push (.loopTest untilTrue test body 0)).exec test
  | .each name ws body =>
    match ws with
    | none => (t.setStatus 0).push (.eachNext name t.env.params body)
    | some ws =>
      match t.fields ws with
      | .ok (values, t) => (t.setStatus 0).push (.eachNext name values body)
      | .error reason => t.abort reason
  | .branch w bs => t.orAbort (t.branch w bs)
  | .group body rs =>
    if rs.isEmpty then t.exec body
    else match t.redirectAll rs with
      | .ok new => (new.push (.restore t.self.fds)).exec body
      | .error reason => t.complain reason 2
  | .subshell body rs =>
    match t.redirectAll rs with
    | .ok new =>
      let (new, pid) := new.spawnShell new.self.fds body
      { new with self.fds := t.self.fds }.push (.await [pid])
    | .error reason => t.complain reason 2
  | .define name body =>
    { t with shell.functions := (name, body) :: t.shell.functions.filter (·.1 ≠ name) }.setStatus 0

-- Starts on a command.
def dispatch (captured : Option Nat) (t : Turn) : Shell.Command → Turn
  | .onLine line c => { t with shell.env.line := line }.begin captured c
  | c => t.begin captured c

-- Runs a command whose output goes into the words of another.
def capture (inner outer : Shell.Command) (t : Turn) : Turn :=
  let (machine, r, w) := t.machine.addPipe false
  let t := { t with machine }
  let (t, pid) := t.spawnShell (withDescriptor t.self.fds 1 (some w)) inner
  t.push (.gather pid r "" outer)

-- Output as it goes into words: without the line ends at its end.
def trimmed (output : String) : String :=
  let cs := output.toList.filter (· ≠ '\x00')
  String.ofList (cs.reverse.dropWhile (· = '\n')).reverse

def fillIn (output : String) (status : Nat) (c : Shell.Command) (t : Turn) : Turn :=
  match c.capture? with
  | some (_, fill) => t.push (.exec (fill (trimmed output)) (some status))
  | none => t.exec c

-- So much is read at once.
def chunk : Nat := 1000000

def gather (child : Pid) (o : OpeningId) (read : String) (c : Shell.Command) (t : Turn) : Turn :=
  match t.machine.read o chunk with
  | (.bytes b, machine) =>
    { t with machine }.push (.gather child o (read ++ Text.Raw.ofBytes b) c)
  | (.blocked, _) => (t.push (.gather child o read c)).waitFor (.data o)
  | _ =>
    match t.machine.status? child with
    | some s => t.fillIn read (statusOf s) c
    | none => (t.push (.gather child o read c)).waitFor (.children [child])

def await (pids : List Pid) (t : Turn) : Turn :=
  match pids.mapM t.machine.status? with
  | none => (t.push (.await pids)).waitFor (.children pids)
  | some statuses => (t.setStatus ((statuses.getLast?.map statusOf).getD 0)).judged

def isLive (t : Turn) (pid : Pid) : Bool :=
  (t.machine.find? pid).isSome

def awaitJobs (pids : List Pid) (reported : Option Pid) (t : Turn) : Turn :=
  if pids.any t.isLive then
    (t.push (.awaitJobs pids reported)).waitFor (.children (pids.filter t.isLive))
  else match reported with
    | none => t
    | some pid => (t.setStatus ((t.machine.status? pid).map statusOf |>.getD 127)).judged

-- A character of a line that was read, and whether it stands for itself.
def unescape (plain : Bool) : List Char → List (Char × Bool)
  | [] => []
  | '\\' :: c :: rest =>
    if plain then ('\\', false) :: (c, false) :: unescape plain rest
    else (c, true) :: unescape plain rest
  | c :: rest => (c, false) :: unescape plain rest

-- The values for names: a field for each but the last, which gets the rest.
def shares (separators : List Char) : List String → List (Char × Bool) → List (String × String)
  | [], _ => []
  | [name], cs =>
    let cs := ((dropBlanks cs).reverse.dropWhile isGap).reverse
    let others := cs.dropWhile fun c => !isStop c
    -- a single separator at the very end belongs to the field before it
    let cs := if others.length = 1 then cs.dropLast else cs
    [(name, String.ofList (cs.map (·.1)))]
  | name :: names, cs =>
    let cs := dropBlanks cs
    let word := cs.takeWhile fun c => !isGap c && !isStop c
    let rest := dropBlanks (cs.drop word.length)
    let rest := match rest with
      | c :: more => if isStop c then more else rest
      | [] => []
    (name, String.ofList (word.map (·.1))) :: shares separators names rest
where
  isSeparator (c : Char × Bool) : Bool := !c.2 && c.1 ∈ separators
  isGap (c : Char × Bool) : Bool := isSeparator c && Shell.isBlank c.1
  isStop (c : Char × Bool) : Bool := isSeparator c && !Shell.isBlank c.1
  dropBlanks (cs : List (Char × Bool)) : List (Char × Bool) := cs.dropWhile isGap

def endsOpen (line : String) : Bool :=
  (line.toList.reverse.takeWhile (· = '\\')).length % 2 = 1

def takeLine (names : List String) (separators : List Char) (plain : Bool) (line : String)
    (status : Nat) (t : Turn) : Turn :=
  let values := shares separators names (unescape plain line.toList)
  let env := values.foldlM (fun e (name, value) =>
    if Builtin.isName name then e.assign name value
    else .error s!"{name}: bad variable name") t.env
  (match env with
    | .ok env => { t with shell.env := env }.setStatus status
    | .error reason => t.complain ("read: " ++ reason) 2).judged

def readLine (names : List String) (separators : List Char) (plain : Bool) (o : OpeningId)
    (read : String) (t : Turn) : Turn :=
  match t.machine.read o 1 with
  | (.bytes b, machine) =>
    let t := { t with machine }
    let c := Text.Raw.ofBytes b
    if c = "\n" then
      if !plain && endsOpen read then
        t.push (.readLine names separators plain o (read.dropEnd 1).toString)
      else t.takeLine names separators plain read 0
    else t.push (.readLine names separators plain o (read ++ c))
  | (.blocked, _) => (t.push (.readLine names separators plain o read)).waitFor (.data o)
  | _ => t.takeLine names separators plain read 1

def resume (t : Turn) : Frame → Turn
  | .exec c captured =>
    match c.capture? with
    | some (inner, _) => t.capture inner c
    | none => t.dispatch captured c
  | .onSuccess c => if t.status = 0 then t.exec c else t
  | .onFailure c => if t.status = 0 then t else t.exec c
  | .invert => t.setStatus (if t.status = 0 then 1 else 0)
  | .choose yes no =>
    if t.status = 0 then t.exec yes
    else match no with
      | .skip => t.setStatus 0
      | no => t.exec no
  | .loopTest untilTrue test body last =>
    if (t.status = 0) != untilTrue then (t.push (.loopBody untilTrue test body)).exec body
    else t.setStatus last
  | .loopBody untilTrue test body => (t.push (.loopTest untilTrue test body t.status)).exec test
  | .eachNext _ [] _ => t
  | .eachNext name (v :: rest) body =>
    match t.env.assign name v with
    | .ok env => ({ t with shell.env := env }.push (.eachNext name rest body)).exec body
    | .error reason => t.abort reason
  | .restore fds => { t with self.fds := fds }
  | .giveBack saved => t.giveBack saved
  | .returnTo params locals => ({ t with shell.env.params := params }.giveBack locals).judged
  | .scriptEnd => t
  | .gather child o read c => t.gather child o read c
  | .await pids => t.await pids
  | .awaitJobs pids reported => t.awaitJobs pids reported
  | .readLine names separators plain o read => t.readLine names separators plain o read
  | .resume status => t.setStatus status
  | .leave status => t.exit status

-- Does what a signal asks for, then goes on as if nothing had been.
def obey (signal : Nat) (t : Turn) : Turn :=
  let action := (t.shell.traps.lookup signal).getD ""
  let t := match t.shell.frames with
    | .awaitJobs .. :: rest => { t with shell.frames := rest }.setStatus (128 + signal)
    | _ => t
  (t.push (.resume t.status)).exec (commandOf action)

def step (t : Turn) : Turn :=
  match t.shell.pending, t.shell.frames with
  | signal :: rest, _ => { t with shell.pending := rest }.obey signal
  | [], [] => t.exit t.status
  | [], f :: rest => { t with shell.frames := rest }.resume f

end Turn

-- How long a step of a shell takes.
def stepCost : Nat := 10000

-- One step of a process that runs a shell.
def shellStep (p : Process) (s : Interpreter) (m : Machine) : Machine :=
  let t := Turn.step ⟨m, { p with wait := none }, s, none⟩
  t.machine.put { t.self with
    activity := t.replaced.getD (.shell t.shell)
    wake := m.now + (if t.replaced.isSome then Turn.startCost else stepCost) }

end Machine

end EngineBench
