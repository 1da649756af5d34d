import EngineBench.Machine.Interpreter

namespace EngineBench

namespace Machine

namespace Wait

def isOver (m : Machine) : Wait → Bool
  | children pids => pids.all fun pid => (m.status? pid).isSome
  | data o => m.isReadable o

end Wait

-- The moment of a process's next step, if it can take one.
def due? (m : Machine) (p : Process) : Option Nat :=
  match p.activity, p.wait with
  | .stopped, _ => none
  | _, none => some p.wake
  | _, some w => if w.isOver m then some (max p.wake m.now) else none

-- The process that goes next, and when.
def next? (m : Machine) : Option (Process × Nat) :=
  m.live.foldl (fun best p =>
    match m.due? p, best with
    | none, best => best
    | some t, none => some (p, t)
    | some t, some (q, u) => if t < u then some (p, t) else some (q, u)) none

-- Writes for a process that is not a shell, or ends it if nobody reads.
def emit (p : Process) (fd : Nat) (raw : String) (m : Machine) : Machine :=
  if raw.isEmpty then m
  else match p.fds.lookup fd with
    | none => m
    | some o =>
      match m.write o (Text.Raw.toBytes raw) with
      | .ok m => m
      | .error .brokenPipe => m.finish p.pid (.signal Signal.brokenPipe)
      | .error _ => m.finish p.pid (.code 1)

def runTool (p : Process) (name : String) (args : List String) (input : String) (m : Machine) :
    Machine :=
  match Tools.table.lookup name with
  | none => m.finish p.pid (.code 127)
  | some tool =>
    let a := tool {
      name, args, input, cwd := p.cwd, vars := p.vars, files := m.files }
    let m := { m with files := a.files }
    ((m.emit p 2 a.err).emit p 1 a.out).finish p.pid (.code (a.status : Nat))

-- A program that reads does so to the end before it acts.
def toolStep (p : Process) (name : String) (args : List String) (input : String) (m : Machine) :
    Machine :=
  if Tools.readsInput name args && !Tools.hasEnough name args input then
    match p.fds.lookup 0 with
    | none => m.runTool p name args input
    | some o =>
      match m.read o (Tools.appetite name args input) with
      | (.bytes b, m) =>
        m.put { p with activity := .tool name args (input ++ Text.Raw.ofBytes b), wait := none }
      | (.blocked, m) => m.put { p with wait := some (.data o) }
      | (_, m) => m.runTool p name args input
  else m.runTool p name args input

def step (p : Process) (m : Machine) : Machine :=
  match p.activity with
  | .shell s => m.shellStep p s
  | .tool name args input => m.toolStep p name args input
  | .sleeper due => if due ≤ m.now then m.finish p.pid (.code 0) else m.put { p with wake := due }
  | .stopped => m

-- No wait takes more steps than this.
def mostSteps : Nat := 20000000

-- Lets the machine go on until it is as is wanted, or somebody interrupts, or the deadline comes,
-- or nothing moves any more.
def advance (wanted : Machine → Bool) (deadline : Option Nat) : Nat → Machine → Machine
  | 0, m => m
  | steps + 1, m =>
    if wanted m || m.interrupted then m
    else match m.next?, deadline with
      | none, none => m
      | none, some d => { m with now := max m.now d }
      | some (p, t), none => advance wanted deadline steps ({ m with now := max m.now t }.step p)
      | some (p, t), some d =>
        if d < t then { m with now := max m.now d }
        else advance wanted deadline steps ({ m with now := max m.now t }.step p)

end Machine

end EngineBench
