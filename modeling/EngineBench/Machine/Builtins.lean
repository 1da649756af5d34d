import EngineBench.Machine.Start
import EngineBench.Machine.Turn

namespace EngineBench

namespace Machine

namespace Builtin

open Turn

-- Programs that a shell does not start a process for.
def tools : List String :=
  ["echo", "printf", "test", "[", "true", "false", "pwd"]

def call (t : Turn) (name : String) (args : List String) : Tools.Call where
  name := name
  args := args
  input := ""
  cwd := t.self.cwd
  vars := t.env.outward
  files := t.machine.files

-- What a program writes about mistakes tells where the script is.
def runTool (name : String) (args : List String) (t : Turn) : Turn :=
  match Tools.table.lookup name with
  | none => t
  | some tool =>
    let a := tool (call t name args)
    let t := (Tools.linesOf a.err).1.foldl (fun t reason => t.complain reason 0) t
    (t.setStatus a.status).write 1 a.out

-- Goes on with the number that the first argument is, or with the usual one.
def withNumber (name : String) (usual : Nat) (args : List String) (t : Turn)
    (run : Nat → Turn) : Turn :=
  match args with
  | [] => run usual
  | a :: _ =>
    match Numeral.natural? a with
    | some n => run n
    | none => t.abort s!"{name}: Illegal number: {a}"

def exit (args : List String) (t : Turn) : Turn :=
  withNumber "exit" t.status args t fun n => t.exit n

def endsCall : Frame → Bool
  | .returnTo .. | .scriptEnd => true
  | _ => false

def leaveCall (args : List String) (t : Turn) : Turn :=
  withNumber "return" t.status args t fun status =>
    if t.shell.frames.any endsCall then (t.setStatus status).unwind endsCall
    else t.exit status

def isLoop : Frame → Bool
  | .loopTest .. | .loopBody .. | .eachNext .. => true
  | _ => false

-- Goes out to the loop that is `depth` loops away and has it continue, or not.
def leaveLoops (goesOn : Bool) : Nat → Turn → Turn
  | 0, t => t
  | depth + 1, t =>
    let t := t.unwind isLoop
    match depth, goesOn with
    | 0, true => t
    | 0, false => { t with shell.frames := t.shell.frames.tail }
    | depth, _ => leaveLoops goesOn depth { t with shell.frames := t.shell.frames.tail }

def jump (name : String) (goesOn : Bool) (args : List String) (t : Turn) : Turn :=
  withNumber name 1 args t fun n =>
    if n = 0 then t.abort s!"{name}: Illegal number: 0"
    else
      let inside := ((t.shell.frames.takeWhile (!endsCall ·)).filter isLoop).length
      leaveLoops goesOn (min inside n) (t.setStatus 0)

def changeDir (args : List String) (t : Turn) : Turn :=
  let args := args.filter fun a => a ≠ "-P" && a ≠ "-L" && a ≠ "--"
  let target := match args with
    | [] => (t.env.lookup "HOME").getD ""
    | "-" :: _ => (t.env.lookup "OLDPWD").getD ""
    | a :: _ => a
  if target.isEmpty then t.setStatus 0
  else match t.machine.files.find t.self.cwd true (Tools.path target) with
    | .error _ => t.complain ("cd: can't cd to " ++ target) 2
    | .ok id =>
      match t.machine.files.node? id with
      | some (.dir ..) =>
        let place (id : NodeId) : String := Text.Raw.ofText (t.machine.files.pathOf id).text
        let env := (t.env.set "OLDPWD" (place t.self.cwd)).set "PWD" (place id)
        let t := { t with self.cwd := id, shell.env := env }
        (t.setStatus 0).write 1 (if args.head? = some "-" then place id ++ "\n" else "")
      | _ => t.complain ("cd: can't cd to " ++ target) 2

def shift (args : List String) (t : Turn) : Turn :=
  withNumber "shift" 1 args t fun n =>
    if t.env.params.length < n then t.abort "shift: can't shift that many"
    else { t with shell.env.params := t.env.params.drop n }.setStatus 0

-- A name, with a value if one follows it.
def nameAndValue (a : String) : String × Option String :=
  let name := String.ofList (a.toList.takeWhile (· ≠ '='))
  if a.contains '=' then (name, some (a.drop (name.length + 1)).toString) else (name, none)

def isName (s : String) : Bool :=
  match s.toList with
  | c :: cs => Shell.Parser.isNameStart c && cs.all Shell.Parser.isNameChar
  | [] => false

-- Sets variables in order and does something else about each name.
def define (also : String → Shell.Env → Shell.Env) (args : List String) (e : Shell.Env) :
    Except String Shell.Env :=
  args.foldlM (fun e a => do
    let (name, value) := nameAndValue a
    if !isName name then throw s!"{name}: bad variable name"
    match value with
    | some s => return also name (← e.assign name s)
    | none => return also name e) e

def setVariables (command : String) (also : String → Shell.Env → Shell.Env)
    (args : List String) (t : Turn) : Turn :=
  match define also (args.filter (!·.startsWith "-")) t.env with
  | .ok env => { t with shell.env := env }.setStatus 0
  | .error reason => t.abort s!"{command}: {reason}"

-- Notes in the innermost function what variables were before they became its own.
def keepLocals (saved : Saved) : List Frame → List Frame
  | [] => []
  | .returnTo params locals :: rest => .returnTo params (locals ++ saved) :: rest
  | f :: rest => f :: keepLocals saved rest

def isCall : Frame → Bool
  | .returnTo .. => true
  | _ => false

def makeLocal (args : List String) (t : Turn) : Turn :=
  if t.shell.frames.any isCall then
    let saved := t.save (args.map fun a => (nameAndValue a).1)
    setVariables "local" (fun _ e => e) args
      { t with shell.frames := keepLocals saved t.shell.frames }
  else t.abort "local: not in a function"

-- Takes away variables, none of which has to stay.
def forget (names : List String) (e : Shell.Env) : Except String Shell.Env :=
  names.foldlM (fun e name => do
    if !isName name then throw s!"{name}: bad variable name"
    else return (← e.assign name "").unset name) e

def unset (args : List String) (t : Turn) : Turn :=
  match args with
  | "-f" :: names =>
    { t with shell.functions := t.shell.functions.filter fun (n, _) => n ∉ names }.setStatus 0
  | args =>
    let names := if args.head? = some "-v" || args.head? = some "--" then args.tail else args
    match forget names t.env with
    | .ok env => { t with shell.env := env }.setStatus 0
    | .error reason => t.abort s!"unset: {reason}"

def setOption (on : Bool) (c : Char) (t : Turn) : Turn :=
  let t := { t with shell.env := t.env.withOption on c }
  if c = 'e' then { t with shell.stopsAtFailure := on } else t

-- The letters of options that have a name.
def optionNames : List (String × Char) :=
  [("errexit", 'e'), ("noglob", 'f'), ("ignoreeof", 'I'), ("interactive", 'i'), ("monitor", 'm'),
   ("noexec", 'n'), ("stdin", 's'), ("xtrace", 'x'), ("verbose", 'v'), ("vi", 'V'),
   ("emacs", 'E'), ("noclobber", 'C'), ("allexport", 'a'), ("notify", 'b'), ("nounset", 'u')]

-- Options without a letter.
def silentOptions : List String :=
  ["privileged", "nolog", "debug"]

-- Sets options by letter or, after an `o`, by the names that follow.
def setLetters (on : Bool) : List Char → List String → Turn → Except String (List String × Turn)
  | [], args, t => .ok (args, t)
  | 'o' :: cs, args, t =>
    match args with
    | [] => setLetters on cs [] t
    | name :: rest =>
      match optionNames.lookup name with
      | some c => setLetters on cs rest (setOption on c t)
      | none =>
        if name ∈ silentOptions then setLetters on cs rest t
        else .error s!"Illegal option -o {name}"
  | c :: cs, args, t =>
    if optionNames.any (·.2 = c) then setLetters on cs args (setOption on c t)
    else .error s!"Illegal option -{c}"

-- Sets options, at most `fuel` arguments of them, and then parameters if there are any.
def setOptions : Nat → List String → Turn → Except String Turn
  | 0, _, t | _, [], t => .ok t
  | fuel + 1, a :: rest, t =>
    match a.toList with
    | ['-', '-'] => .ok { t with shell.env.params := rest }
    | ['-'] => .ok (if rest.isEmpty then t else { t with shell.env.params := rest })
    | '-' :: cs => do
      let (rest, t) ← setLetters true cs rest t
      setOptions fuel rest t
    | '+' :: cs => do
      let (rest, t) ← setLetters false cs rest t
      setOptions fuel rest t
    | _ => .ok { t with shell.env.params := a :: rest }

def changeOptions (args : List String) (t : Turn) : Turn :=
  match setOptions args.length args t with
  | .ok t => t.setStatus 0
  | .error reason => t.abort s!"set: {reason}"

def evaluate (args : List String) (t : Turn) : Turn :=
  match Shell.parse? (String.intercalate " " args) with
  | some c => (t.setStatus 0).exec c
  | none => t.abort "Syntax error"

def readIn (args : List String) (t : Turn) : Turn :=
  match args with
  | [] => t.setStatus 0
  | a :: _ =>
    match Program.locate t.machine.files t.self.cwd ((t.env.lookup "PATH").getD "") a with
    | none => t.abort (".: " ++ a ++ ": not found")
    | some p =>
      match t.machine.files.read t.self.cwd (Tools.path p) with
      | .error e => t.abort s!".: cannot open {a}: {openReason .input e}"
      | .ok bytes =>
        match Shell.parse? (Text.Raw.ofBytes bytes) with
        | some c => ((t.setStatus 0).push .scriptEnd).exec c
        | none => t.abort "Syntax error"

def setTrap (action : String) (signal : Nat) (t : Turn) : Turn :=
  let others := t.shell.traps.filter (·.1 ≠ signal)
  { t with shell.traps := if action = "-" then others else (signal, action) :: others }

-- A text between single quotes, in which those of its own stand between double quotes.
def quoted (s : String) : String :=
  match s.splitOn "'" with
  | [s] => "'" ++ s ++ "'"
  | pieces => String.join (pieces.zipIdx.map fun (piece, i) =>
      (if i = 0 then "" else "\"'\"") ++ (if piece.isEmpty then "" else "'" ++ piece ++ "'"))

-- What is to be done at signals, as commands that say so.
def toldTraps (t : Turn) : String :=
  String.join ((Signal.names.mergeSort fun a b => a.1 ≤ b.1).map fun (signal, name) =>
    match t.shell.traps.lookup signal with
    | some action => s!"trap -- {quoted action} {name}\n"
    | none => "")

-- Says what is to be done at signals, up to the first that is none.
def setTraps (action : String) : List String → Turn → Turn
  | [], t => t
  | s :: rest, t =>
    match Signal.ofName? 0 s with
    | some n => setTraps action rest (setTrap action n t)
    | none => (t.write 2 s!"trap: {s}: bad trap\n").setStatus 1

def trap (args : List String) (t : Turn) : Turn :=
  let args := if args.head? = some "--" then args.tail else args
  match args with
  | [] => (t.setStatus 0).write 1 (toldTraps t)
  | action :: signals =>
    if signals.isEmpty || (Signal.ofNumber? action).isSome then setTraps "-" args (t.setStatus 0)
    else setTraps action signals (t.setStatus 0)

def children (t : Turn) : List Pid :=
  (t.machine.live.filter (·.parent = t.self.pid)).map (·.pid)

def wait (args : List String) (t : Turn) : Turn :=
  match args.find? fun a => (Numeral.natural? a).isNone with
  | some a => t.complain s!"wait: Illegal number: {a}" 2
  | none =>
    match args.filterMap Numeral.natural? with
    | [] => (t.setStatus 0).push (.awaitJobs (children t) none)
    | pids => t.push (.awaitJobs pids pids.getLast?)

-- What is asked for with signals.
inductive KillOrder
  | send (signal : Nat) (targets : List String)
  | list (statuses : List String)
  | refused (reason : String)

def killUsage : String :=
  "Usage: kill [-s sigspec | -signum | -sigspec] [pid | job]... or\nkill -l [exitstatus]"

def KillOrder.sending (signal : Nat) (targets : List String) : KillOrder :=
  if targets.isEmpty then .refused killUsage else .send signal targets

def terminate : Nat := 15

def killOrder (args : List String) : KillOrder :=
  let named (name : String) (rest : List String) : KillOrder :=
    match Signal.ofName? 1 name with
    | some n => .sending n (if rest.head? = some "--" then rest.tail else rest)
    | none => .refused s!"invalid signal number or name: {name}"
  match args with
  | [] => .refused killUsage
  | a :: rest =>
    match a.toList with
    | ['-', '-'] => .sending terminate rest
    | '-' :: cs =>
      match Signal.ofName? 1 (String.ofList cs), cs with
      | some n, _ => .sending n rest
      | none, ['l'] => .list rest
      | none, ['s'] => match rest with
        | [] => .refused "No arg for -s option"
        | name :: rest => named name rest
      | none, 's' :: name => named (String.ofList name) rest
      | none, c :: _ => .refused s!"Illegal option -{c}"
      | none, [] => .sending terminate args
    | _ => .sending terminate args

-- The name of the signal that a status stands for.
def signalOfStatus (a : String) : Except String String :=
  match Numeral.natural? a with
  | none => .error s!"Illegal number: {a}"
  | some n =>
    let n := if 128 < n then n - 128 else n
    if 0 < n && n < 65 then .ok (Signal.nameOf n)
    else .error s!"invalid signal number or exit status: {a}"

-- Sends a signal to each target, up to the first that is no number.
def kill (args : List String) (t : Turn) : Turn :=
  match killOrder args with
  | .refused reason => t.complain ("kill: " ++ reason) 2
  | .list [] =>
    (t.setStatus 0).write 1 (String.join ("0\n" :: Signal.names.tail.map fun (_, n) => n ++ "\n"))
  | .list (a :: _) =>
    match signalOfStatus a with
    | .ok name => (t.setStatus 0).write 1 (name ++ "\n")
    | .error reason => t.complain ("kill: " ++ reason) 2
  | .send signal targets => sendAll signal targets (t.setStatus 0)
where
  sendAll (signal : Nat) : List String → Turn → Turn
    | [], t => t
    | a :: rest, t =>
      match Numeral.natural? a with
      | none =>
        if a.startsWith "%" then t.complain s!"kill: No such job: {a}" 2
        else t.complain s!"kill: Illegal number: {a}" 2
      | some pid =>
        if pid = t.self.pid then sendAll signal rest (signalSelf signal t)
        else match t.machine.signal? signal pid with
          | some machine => sendAll signal rest { t with machine }
          | none => sendAll signal rest (t.complain "kill: No such process\n" 1)
  -- A shell that gets its own signal has not been put back on the machine yet.
  signalSelf (signal : Nat) (t : Turn) : Turn :=
    let self := { t.self with activity := .shell t.shell }
    let machine := (t.machine.put self).deliver signal self
    match machine.find? self.pid with
    | some { activity := .shell s, .. } => { t with machine, shell := s }
    | some p => { t with machine, replaced := some p.activity }
    | none => { t with machine }

def readLine (args : List String) (t : Turn) : Turn :=
  let plain := args.contains "-r"
  let names := args.filter (!·.startsWith "-")
  match t.descriptor? 0 with
  | none => t.setStatus 1
  | some o =>
    if names.isEmpty then t.complain "read: arg count" 2
    else t.push (.readLine names t.env.separators plain o "")

-- Words that are part of the language.
def keywords : List String :=
  ["!", "\x7b", "\x7d", "case", "do", "done", "elif", "else", "esac", "fi", "for", "if", "in",
   "then", "until", "while"]

-- What a name stands for where a command begins.
inductive Meaning
  | keyword | special | function | ordinary
  | file (path : String)

def Meaning.description : Meaning → String
  | keyword => "a shell keyword"
  | special => "a special shell builtin"
  | function => "a shell function"
  | ordinary => "a shell builtin"
  | file path => path

def nothing (_ : List String) (t : Turn) : Turn :=
  t.setStatus 0

def umask (args : List String) (t : Turn) : Turn :=
  (t.setStatus 0).write 1 (if args.isEmpty then "0022\n" else "")

-- Builtins that a mistake in makes a shell end, and that keep the variables set for them.
def special : List (String × (List String → Turn → Turn)) :=
  [(":", nothing), (".", readIn), ("break", jump "break" false),
   ("continue", jump "continue" true), ("eval", evaluate), ("exit", exit),
   ("export", setVariables "export" Shell.Env.exportName),
   ("readonly", setVariables "readonly" Shell.Env.fix), ("return", leaveCall),
   ("set", changeOptions), ("shift", shift), ("times", nothing), ("trap", trap), ("unset", unset)]

-- Builtins that look at nothing but the shell and the machine.
def plain : List (String × (List String → Turn → Turn)) :=
  [("cd", changeDir), ("local", makeLocal), ("wait", wait), ("kill", kill), ("read", readLine),
   ("umask", umask), ("ulimit", nothing), ("hash", nothing), ("jobs", nothing),
   ("alias", nothing)]
  ++ tools.map fun name => (name, runTool name)

def meaning? (name : String) (t : Turn) : Option Meaning :=
  if name ∈ keywords then some .keyword
  else if name = "exec" || special.any (·.1 = name) then some .special
  else if t.shell.functions.any (·.1 = name) then some .function
  else if name = "command" || name = "type" || plain.any (·.1 = name) then some .ordinary
  else do
    let searchPath := (t.env.lookup "PATH").getD ""
    let p ← Program.locate t.machine.files t.self.cwd searchPath name
    if t.machine.files.exists? t.self.cwd (Tools.path p) then some (.file p) else none

-- Tells what a name stands for.
def describe (name : String) (t : Turn) : Turn :=
  match meaning? name t with
  | some m => t.write 1 s!"{name} is {m.description}\n"
  | none => (t.write 1 s!"{name}: not found\n").setStatus 127

def describeAll (args : List String) (t : Turn) : Turn :=
  args.foldl (fun t name => describe name t) (t.setStatus 0)

-- Tells what the first name stands for, if it stands for anything: with the path of a file, or
-- the name itself.
def tellCommand (verbose : Bool) (args : List String) (t : Turn) : Turn :=
  match args with
  | [] => t.setStatus 0
  | name :: _ =>
    if verbose then describe name (t.setStatus 0)
    else match meaning? name t with
      | some (.file path) => (t.setStatus 0).write 1 (path ++ "\n")
      | some _ => (t.setStatus 0).write 1 (name ++ "\n")
      | none => t.setStatus 127

def ordinary : List (String × (List String → Turn → Turn)) :=
  ("type", describeAll) :: plain

end Builtin

end Machine

end EngineBench
