import EngineBench.Machine.Program
import EngineBench.Machine.Signals
import EngineBench.Machine.Streams
import EngineBench.Shell.Parser

namespace EngineBench

namespace Machine

-- What a shell can see and change in one turn.
structure Turn where
  machine : Machine
  self : Process
  shell : Interpreter
  -- what the process does instead from now on
  replaced : Option Activity := none

namespace Turn

def env (t : Turn) : Shell.Env :=
  t.shell.env

def status (t : Turn) : Nat :=
  t.shell.env.status

def setStatus (n : Nat) (t : Turn) : Turn :=
  { t with shell.env.status := n }

def push (f : Frame) (t : Turn) : Turn :=
  { t with shell.frames := f :: t.shell.frames }

def exec (c : Shell.Command) (t : Turn) : Turn :=
  t.push (.exec c none)

def waitFor (w : Wait) (t : Turn) : Turn :=
  { t with self.wait := some w }

def descriptor? (t : Turn) (fd : Nat) : Option OpeningId :=
  t.self.fds.lookup fd

def setDescriptor (fd : Nat) (o : OpeningId) (t : Turn) : Turn :=
  { t with self.fds := (fd, o) :: t.self.fds.filter (·.1 ≠ fd) }

def close (fd : Nat) (t : Turn) : Turn :=
  { t with self.fds := t.self.fds.filter (·.1 ≠ fd) }

def leave (status : ExitStatus) (t : Turn) : Turn :=
  { t with machine := t.machine.finish t.self.pid status }

def commandOf (script : String) : Shell.Command :=
  (Shell.parse? script).getD .skip

-- Ends a shell, which first does what it was told to do at the end.
def exit (status : Nat) (t : Turn) : Turn :=
  match t.shell.traps.lookup 0 with
  | none => t.leave (.code (status % 256 : Nat))
  | some action =>
    let t := t.setStatus status
    { t with
      shell.traps := t.shell.traps.filter (·.1 ≠ 0)
      shell.frames := [.exec (commandOf action) none, .leave status] }

-- Writes raw text. Who writes to a pipe that nobody reads is ended by a signal.
def write (fd : Nat) (raw : String) (t : Turn) : Turn :=
  if raw.isEmpty then t
  else match t.descriptor? fd with
    | none => t.setStatus 1
    | some o =>
      match t.machine.write o (Text.Raw.toBytes raw) with
      | .ok machine => { t with machine }
      | .error .brokenPipe =>
        if t.shell.minds Signal.brokenPipe then t.setStatus 1
        else t.leave (.signal Signal.brokenPipe)
      | .error _ => t.setStatus 1

def complain (reason : String) (status : Nat) (t : Turn) : Turn :=
  (t.write 2 s!"{t.env.name}: {t.env.line}: {reason}\n").setStatus status

-- A mistake that ends a script.
def abort (reason : String) (t : Turn) : Turn :=
  (t.complain reason 2).exit 2

def expanding {α : Type} (x : Shell.Expand α) (t : Turn) : Except String (α × Turn) := do
  let (a, env) ← x.run t.env
  return (a, { t with shell.env := env })

-- The values of assignments, each made before the next is looked at.
def assign (as : List (String × Shell.Word)) (t : Turn) : Except String Turn :=
  as.foldlM (fun t (name, w) => do
    let (s, t) ← t.expanding (Shell.single w)
    return { t with shell.env := ← t.env.assign name s }) t

def save (names : List String) (t : Turn) : Saved :=
  names.map fun n => (n, t.env.vars.lookup n)

def giveBack (saved : Saved) (t : Turn) : Turn :=
  { t with shell.env := saved.foldl (fun e (name, value) =>
      match value with
      | some s => e.set name s
      | none => e.unset name) t.env }

def openReason (direction : Shell.Direction) (e : OsError) : String :=
  match direction, e with
  | .input, .notFound => "No such file"
  | _, .notFound => "Directory nonexistent"
  | _, e => e.reason

def redirect (t : Turn) : Shell.Redirect → Except String Turn
  | .mk fd direction target => do
    let (s, t) ← t.expanding (Shell.single target)
    match direction with
    | .duplicate =>
      if s = "-" then return t.close fd
      match s.toNat?.bind t.descriptor? with
      | some o => return t.setDescriptor fd o
      | none => throw (s ++ ": Bad file descriptor")
    | .here =>
      let (machine, r) := t.machine.addText (Text.Raw.toBytes s)
      return { t with machine }.setDescriptor fd r
    | direction =>
      match t.machine.openFile t.self.cwd direction (Tools.path s) with
      | .ok (machine, o) => return { t with machine }.setDescriptor fd o
      | .error e =>
        let verb := if direction = .input then "open" else "create"
        throw ("cannot " ++ verb ++ " " ++ s ++ ": " ++ openReason direction e)

def redirectAll (rs : List Shell.Redirect) (t : Turn) : Except String Turn :=
  rs.foldlM redirect t

-- How long it takes until a new process takes its first step.
def startCost : Nat := 1000000

def spawn (fds : Descriptors) (activity : Activity) (vars : List (String × String)) (t : Turn) :
    Turn × Pid :=
  let pid := t.machine.nextPid
  let child : Process := {
    pid, parent := t.self.pid, wake := t.machine.now + startCost, wait := none
    activity, fds, cwd := t.self.cwd, vars }
  ({ t with machine := t.machine.addProcess child }, pid)

def isTest : Frame → Bool
  | .onSuccess _ | .onFailure _ | .invert | .choose .. | .loopTest .. => true
  | _ => false

-- Whether somebody asks for the status of what is done now.
def tested (t : Turn) : Bool :=
  t.shell.frames.any isTest

-- Starts a shell like this one for a single command.
def spawnShell (fds : Descriptors) (c : Shell.Command) (t : Turn) : Turn × Pid :=
  let shell : Interpreter := { t.shell with
    frames := [.exec c none]
    traps := t.shell.traps.filter (·.2.isEmpty)
    pending := []
    stopsAtFailure := t.shell.stopsAtFailure && !t.tested
    yields := true }
  t.spawn fds (.shell shell) t.self.vars

-- Ends a shell that stops at failures if there was one and nobody asked.
def judged (t : Turn) : Turn :=
  if t.shell.stopsAtFailure && t.status ≠ 0 && !t.tested then t.exit t.status else t

-- Drops what is left to do, up to a place that is kept.
def unwind (isPlace : Frame → Bool) (t : Turn) : Turn :=
  let rec go : List Frame → Turn → Turn
    | [], t => { t with shell.frames := [] }
    | f :: rest, t =>
      if isPlace f then { t with shell.frames := f :: rest }
      else match f with
        | .restore fds => go rest { t with self.fds := fds }
        | .giveBack saved => go rest (t.giveBack saved)
        | _ => go rest t
  go t.shell.frames t

-- The names that a pattern with slashes stands for, or its own text if there are none.
def names (t : Turn) (p : Shell.Pattern) : List String :=
  if !p.isWild || 'f' ∈ t.env.options then [p.text]
  else
    let found := paths (pieces p)
    if found.isEmpty then [p.text] else found
where
  pieces (p : Shell.Pattern) : List Shell.Pattern :=
    p.splitOnP (·.char = '/')
  entries (dir : String) : List String :=
    let path := if dir.isEmpty then "." else Text.Raw.toText dir
    match t.machine.files.find t.self.cwd true ⟨path⟩ with
    | .ok id => ((t.machine.files.entries id).map fun (n, _) => Text.Raw.ofText n).mergeSort
    | .error _ => []
  -- The ways to go on from a path that ends in a slash, or from nowhere.
  step (base : String) (piece : Shell.Pattern) : List String :=
    if !piece.isWild then
      if piece.isEmpty || t.machine.files.exists? t.self.cwd (Tools.path (base ++ piece.text)) then
        [base ++ piece.text]
      else []
    else
      let hidden := (piece.head?.map (·.char)) = some '.'
      (entries base).filter (fun n => (hidden || !n.startsWith ".") && piece.matchesText n)
        |>.map (base ++ ·)
  paths : List Shell.Pattern → List String
    | [] => []
    | first :: rest => rest.foldl (fun bases piece =>
        bases.flatMap fun b => step (b ++ "/") piece) (step "" first)

end Turn

end Machine

end EngineBench
