import EngineBench.Machine.Program
import EngineBench.Shell.Parser

namespace EngineBench

namespace Machine

-- What is known of a process before it starts.
structure Birth where
  files : Files
  cwd : NodeId
  pid : Pid
  parent : Pid
  wake : Nat
  vars : List (String × String)

namespace Birth

def newEnv (b : Birth) (name : String) (params : List String) : Shell.Env where
  vars := ("PPID", toString b.parent) ::
    ("PWD", Text.Raw.ofText (b.files.pathOf b.cwd).text) ::
    (b.vars.filter fun (n, _) => n ≠ "PPID" && n ≠ "PWD") ++
    (if b.vars.any (·.1 = "PATH") then [] else [("PATH", Program.defaultSearchPath)])
  exported := "PWD" :: b.vars.map (·.1)
  name := name
  params := params
  status := 0
  self := b.pid
  job := none
  options := []
  fixed := []
  line := 0

def shell (b : Birth) (name : String) (params : List String) (frames : List Frame) : Activity :=
  .shell {
    frames, env := b.newEnv name params
    functions := [], traps := [], pending := []
    stopsAtFailure := false, yields := false }

-- A shell that runs a script up to its first mistake.
def script (b : Birth) (name : String) (params : List String) (text : String) : Activity :=
  match Shell.parseLines text with
  | (c, true) => b.shell name params [.exec c none]
  | (c, false) => b.shell name params [.exec c none, .leave 2]

def words (args : List String) : List Shell.Word :=
  args.map fun a => [.text a true]

-- The letters of a shell's options, and the arguments after them.
def shellOptions : List String → List Char × List String
  | [] => ([], [])
  | a :: rest =>
    match a.toList with
    | ['-'] | ['-', '-'] => ([], rest)
    | '-' :: letters =>
      let (more, rest) := shellOptions rest
      (letters ++ more, rest)
    | _ => ([], a :: rest)

def withOptions (letters : List Char) : Activity → Activity
  | .shell s => .shell { s with
      stopsAtFailure := s.stopsAtFailure || letters.contains 'e'
      env := letters.foldl (fun e c => e.withOption true c) s.env }
  | a => a

def yielding : Activity → Activity
  | .shell s => .shell { s with yields := true }
  | a => a

-- The letters that a shell knows as options.
def knownLetters : List Char := "abcCefhiImnopsuvVxE".toList

-- The text of a script, in which NUL bytes do not count.
def scriptText (bytes : ByteArray) : String :=
  String.ofList ((Text.Raw.ofBytes bytes).toList.filter (· ≠ '\x00'))

def runShell (b : Birth) (name : String) (args : List String) : Activity :=
  let (letters, args) := shellOptions args
  withOptions letters <|
    if letters.any (· ∉ knownLetters) then b.shell name [] [.leave 2]
    else if letters.contains 'n' then b.shell name [] []
    else if letters.contains 'c' then
      match args with
      | [] => b.shell name [] [.leave 2]
      | text :: rest => yielding (b.script (rest.head?.getD name) rest.tail text)
    else match args with
      | [] => b.script name [] "eval \"$(cat)\""
      | file :: params =>
        match b.files.read b.cwd (Tools.path file) with
        | .ok bytes => b.script file params (scriptText bytes)
        | .error _ => b.shell name [] [.leave 2]

-- The length of a sleep, with a unit and decimals.
def sleepLength? (s : String) : Option Nat :=
  let cs := s.toList
  let (digits, unit) := match cs.getLast? with
    | some 's' => (cs.dropLast, 1)
    | some 'm' => (cs.dropLast, 60)
    | some 'h' => (cs.dropLast, 3600)
    | some 'd' => (cs.dropLast, 86400)
    | _ => (cs, 1)
  let whole := digits.takeWhile (· ≠ '.')
  let decimals := (digits.drop (whole.length + 1)).take 9
  let number (cs : List Char) : Option Nat :=
    if cs.isEmpty then some 0 else (String.ofList cs).toNat?
  if digits.isEmpty then none
  else do
    let w ← number whole
    let d ← number decimals
    return (w * 1000000000 + d * Nat.pow 10 (9 - decimals.length)) * unit

-- Says what is wrong and ends.
def refusing (b : Birth) (name reason : String) (status : Nat) : Activity :=
  let hint := s!"{name}: {reason}\nTry '{name} --help' for more information.\n"
  let toErrors : Shell.Redirect := .mk 1 .duplicate [.text "2" true]
  b.shell name [] [.exec (.simple [] (words ["printf", "%s", hint]) [toErrors]) none, .leave status]

def sleep (b : Birth) (args : List String) : Activity :=
  match args.find? fun a => (sleepLength? a).isNone with
  | some a => b.refusing "sleep" s!"invalid time interval '{a}'" 1
  | none =>
    if args.isEmpty then b.refusing "sleep" "missing operand" 1
    else .sleeper (b.wake + (args.filterMap sleepLength?).foldr (· + ·) 0)

def isAssignment (a : String) : Bool :=
  a.contains '=' && !a.startsWith "="

def assigned (vars : List (String × String)) (a : String) : List (String × String) :=
  let name := String.ofList (a.toList.takeWhile (· ≠ '='))
  (name, (a.drop (name.length + 1)).toString) :: vars.filter (·.1 ≠ name)

-- The words of a text between blanks.
def split (s : String) : List String :=
  (s.splitOn " ").filter (!·.isEmpty)

-- The variables that are left after the options, and what follows these.
def variableOptions (vars : List (String × String)) :
    List String → Option (List (String × String) × List String)
  | "-i" :: rest | "-" :: rest => variableOptions [] rest
  | "-u" :: name :: rest => variableOptions (vars.filter (·.1 ≠ name)) rest
  | "-S" :: s :: rest => some (vars, split s ++ rest)
  | a :: rest =>
    if a = "--" then some (vars, rest)
    else if a.startsWith "-S" then some (vars, split (a.drop 2).toString ++ rest)
    else if a.startsWith "-" then none
    else some (vars, a :: rest)
  | [] => some (vars, [])

-- Goes on as another program.
def running (b : Birth) (name : String) (command : List String) : Activity :=
  b.shell name [] [.exec (.simple [] (words ("exec" :: command)) []) none]

-- Another program with other variables, or a list of the variables.
def withVariables (b : Birth) (args : List String) : Activity :=
  match variableOptions b.vars args with
  | none => b.shell "env" [] [.leave 125]
  | some (vars, args) =>
    let vars := (args.takeWhile isAssignment).foldl assigned vars
    match args.dropWhile isAssignment with
    | [] =>
      if vars.isEmpty then .tool "true" [] ""
      else .tool "printf" ("%s\\n" :: vars.map fun (n, v) => n ++ "=" ++ v) ""
    | command => { b with vars }.running "env" command

def activity (b : Birth) (p : Program) : Activity :=
  if p.name ∈ Program.shells then b.runShell p.name p.args
  else match p.name with
    | "sleep" => b.sleep p.args
    | "env" => b.withVariables p.args
    | "nohup" | "setsid" | "nice" => b.running p.name p.args
    | "yes" =>
      b.script "yes" p.args "while :; do echo \"${*:-y}\"; done"
    | "kill" => b.shell "kill" [] [.exec (.simple [] (words ("kill" :: p.args)) []) none]
    | name => .tool name p.args ""

end Birth

end Machine

end EngineBench
