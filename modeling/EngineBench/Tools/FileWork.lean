import EngineBench.Tools.Format
import EngineBench.Tools.Question
import EngineBench.Tools.Search

namespace EngineBench

namespace Tools

-- Does something with each operand and collects the complaints.
def each (c : Call) (operands : List String)
    (f : String → Files → Except String Files) : Answer :=
  operands.foldl (fun a operand =>
    match f operand a.files with
    | .ok files => { a with files }
    | .error reason => a.complain c.name reason) c.quiet

def quote (s : String) : String :=
  s!"'{s}'"

-- Refuses to do something without operands.
def needing (c : Call) (operands : List String) (kind : String) (a : Answer) : Answer :=
  if operands.isEmpty then c.failing 1 s!"missing {kind}" else a

def touch (c : Call) : Answer :=
  let (os, operands) := options ['d', 't', 'r'] c.args
  needing c operands "file operand" <| each c operands fun operand files =>
    if hasOption 'c' os && !files.exists? c.cwd (path operand) then .ok files
    else if (files.stat c.cwd (path operand)).isOk then .ok files
    else match files.openToWrite c.cwd false (path operand) with
      | .ok (files, _) => .ok files
      | .error e => .error s!"cannot touch {quote operand}: {e.reason}"

def rm (c : Call) : Answer :=
  let (os, operands) := options [] c.args
  let deep := hasOption 'r' os || hasOption 'R' os
  let guarded := if hasOption 'f' os then id else needing c operands "operand"
  guarded <| each c operands fun operand files =>
    let refused (e : OsError) : Except String Files :=
      .error s!"cannot remove {quote operand}: {e.reason}"
    if deep && (path operand).pieces.getLast?.any Files.isDot then
      .error s!"refusing to remove '.' or '..' directory: skipping {quote operand}"
    else match if deep then files.removeAll c.cwd (path operand)
        else files.remove c.cwd (path operand) with
    | .ok files => .ok files
    | .error .notFound => if hasOption 'f' os then .ok files else refused .notFound
    | .error .isDirectory =>
      if hasOption 'd' os then
        match files.removeDir c.cwd (path operand) with
        | .ok files => .ok files
        | .error e => refused e
      else refused .isDirectory
    | .error e => refused e

def mkdir (c : Call) : Answer :=
  let (os, operands) := options ['m'] c.args
  needing c operands "operand" <| each c operands fun operand files =>
    let p := path operand
    let made := if hasOption 'p' os then
        (files.makeDirs (Files.startOf p c.cwd) p.pieces).map (·.1)
      else files.makeDir c.cwd p
    made.mapError fun e => s!"cannot create directory {quote operand}: {e.reason}"

def rmdir (c : Call) : Answer :=
  let (_, operands) := options [] c.args
  needing c operands "operand" <| each c operands fun operand files =>
    (files.removeDir c.cwd (path operand)).mapError fun e =>
      s!"failed to remove {quote operand}: {e.reason}"

-- Where something goes: a directory takes it under its own name.
def destination (c : Call) (files : Files) (source target : Path) : Path :=
  match files.stat c.cwd target with
  | .ok (.dir ..) => target.join ⟨source.name?.getD ""⟩
  | _ => target

def intoTarget (c : Call) (f : Path → Path → Files → Except OsError Files) : Answer :=
  let (_, operands) := options [] c.args
  match operands.getLast? with
  | none => c.misused 1 "missing file operand"
  | some target =>
    if operands.length < 2 then
      c.failing 1 s!"missing destination file operand after {quote target}"
    else each c operands.dropLast fun operand files =>
      if (files.find c.cwd false (path operand)).isOk then
        (f (path operand) (destination c files (path operand) (path target)) files).mapError
          fun e => s!"cannot move {quote operand} to {quote target}: {e.reason}"
      else .error s!"cannot stat {quote operand}: {OsError.notFound.reason}"

def mv (c : Call) : Answer :=
  intoTarget c fun source target files => files.rename c.cwd source target

def cp (c : Call) : Answer :=
  intoTarget c fun source target files => do
    let bytes ← files.read c.cwd source
    let mode := match files.stat c.cwd source with
      | .ok (.file _ mode) => mode
      | _ => 0o644
    let isNew := !files.exists? c.cwd target
    let (files, id) ← files.openToWrite c.cwd true target
    let files := files.setBytes id bytes
    return if isNew then files.setMode id mode else files

def ln (c : Call) : Answer :=
  let (os, operands) := options [] c.args
  match operands with
  | [target, name] =>
    let p := destination c c.files (path target) (path name)
    let files := if hasOption 'f' os then (c.files.remove c.cwd p).toOption.getD c.files
      else c.files
    let made :=
      if hasOption 's' os then files.makeLink c.cwd (path target).text p
      else do
        let id ← files.find c.cwd false (path target)
        let s ← files.spot c.cwd false p
        if s.node.isSome then throw .exists else return files.hook s.dir s.step id
    match made with
    | .ok files => { files }
    | .error e =>
      let kind := if hasOption 's' os then "symbolic" else "hard"
      c.failing 1 s!"failed to create {kind} link {quote name}: {e.reason}"
  | _ => c.misused 1 "missing file operand"

def octal? (s : String) : Option Nat :=
  if !s.isEmpty && s.toList.all Escape.isOctal then some (Escape.octalValue s.toList) else none

-- The mode after a change such as `755`, `+x` or `a-x`.
def changedMode (spec : String) (mode : Nat) : Nat :=
  match octal? spec with
  | some n => n
  | none =>
    let bits := if spec.contains 'x' then 0o111 else 0
    if spec.contains '+' then mode ||| bits
    else if spec.contains '-' then mode - (mode &&& bits)
    else mode

def chmod (c : Call) : Answer :=
  match c.args.filter (· ≠ "-R") with
  | [] => c.misused 1 "missing operand"
  | spec :: operands =>
    each c operands fun operand files =>
      match files.find c.cwd true (path operand) with
      | .ok id =>
        match files.node? id with
        | some (.file _ mode) => .ok (files.setMode id (changedMode spec mode))
        | _ => .ok files
      | .error e => .error s!"cannot access {quote operand}: {e.reason}"

def tee (c : Call) : Answer :=
  let (os, operands) := options [] c.args
  let a := each c operands fun operand files =>
    let opened := files.openToWrite c.cwd (!hasOption 'a' os) (path operand)
    match opened with
    | .ok (files, id) =>
      let old := (files.bytes id).toOption.getD .empty
      .ok (files.setBytes id (old ++ Text.Raw.toBytes c.input))
    | .error e => .error s!"{operand}: {e.reason}"
  { a with out := c.input }

def ls (c : Call) : Answer :=
  let (os, operands) := options [] c.args
  let names (files : Files) (dir : NodeId) : List String :=
    let all := (files.entries dir).map (·.1)
    let shown := if hasOption 'a' os then "." :: ".." :: all
      else if hasOption 'A' os then all
      else all.filter (!·.startsWith ".")
    shown.mergeSort fun a b => !(b < a)
  let listing (operand : String) : Except OsError String := do
    let id ← c.files.find c.cwd true (path operand)
    match c.files.node? id with
    | some (.dir ..) =>
      return String.join ((names c.files id).map fun n => Text.Raw.ofText n ++ "\n")
    | _ => return operand ++ "\n"
  (if operands.isEmpty then ["."] else operands).foldl (fun a operand =>
    match listing operand with
    | .ok s => { a with out := a.out ++ s }
    | .error e => { a.complain c.name s!"cannot access {quote operand}: {e.reason}" with
        status := 2 }) c.quiet

-- The last name of a path, or the path itself if it is only slashes.
def baseName (s : String) : String :=
  match (Path.mk s).name? with
  | some n => n
  | none => if s.isEmpty then "" else "/"

def basename (c : Call) : Answer :=
  match (options [] c.args).2 with
  | [] => c.misused 1 "missing operand"
  | s :: more =>
    let b := baseName s
    let b := match more with
      | [ending] =>
        if b ≠ ending && b.endsWith ending then (b.dropEnd ending.length).toString else b
      | _ => b
    c.printing (b ++ "\n")

def dirName (s : String) : String :=
  let trimmed := (Files.trimmed ⟨s⟩).text
  let before := trimmed.toList.reverse.dropWhile (· ≠ '/')
  let dir := (before.dropWhile (· = '/')).reverse
  if dir.isEmpty then (if before.isEmpty && !(trimmed.isEmpty && !s.isEmpty) then "." else "/")
  else String.ofList dir

def dirname (c : Call) : Answer :=
  match c.args with
  | [s] => c.printing (dirName s ++ "\n")
  | _ => c.misused 1 "missing operand"

def pwd (c : Call) : Answer :=
  c.printing (Text.Raw.ofText (c.files.pathOf c.cwd).text ++ "\n")

def realpath (c : Call) : Answer :=
  match (options [] c.args).2 with
  | [s] =>
    match c.files.canonical c.cwd (path s) with
    | .ok p => c.printing (Text.Raw.ofText p.text ++ "\n")
    | .error e => c.failing 1 s!"{s}: {e.reason}"
  | _ => c.misused 1 "missing operand"

def readlink (c : Call) : Answer :=
  let target (o : String) : Option String :=
    match (c.files.find c.cwd false (path o)).toOption.bind c.files.node? with
    | some (.link target) => some target
    | _ => none
  match (options [] c.args).2.mapM target with
  | some targets => c.printing (String.join (targets.map fun t => Text.Raw.ofText t ++ "\n"))
  | none => c.exiting 1

-- Tells by its status whether two files are the same.
def cmp (c : Call) : Answer :=
  match (options [] c.args).2.mapM fun o => (readFile c o).toOption with
  | some [a, b] => c.exiting (if a = b then 0 else 1)
  | _ => c.exiting 2

def printenv (c : Call) : Answer :=
  match c.args with
  | [] => c.printing (String.join (c.vars.map fun (k, v) => k ++ "=" ++ v ++ "\n"))
  | name :: _ =>
    match c.vars.lookup name with
    | some v => c.printing (v ++ "\n")
    | none => c.exiting 1

def seq (c : Call) : Answer :=
  let numbers (first step last : Int) : List Int :=
    if step = 0 then []
    else
      let count := (last - first) / step + 1
      (List.range count.toNat).map fun (n : Nat) => first + step * (n : Int)
  let out := match c.args.mapM String.toInt? with
    | some [last] => numbers 1 1 last
    | some [first, last] => numbers first 1 last
    | some [first, step, last] => numbers first step last
    | _ => []
  c.printing (String.join (out.map fun n => toString n ++ "\n"))

-- The value of two numbers and a sign between them, or of a single word.
def expr (c : Call) : Answer :=
  let answer (s : String) : Answer :=
    { c.printing (s ++ "\n") with status := if s.isEmpty || s = "0" then 1 else 0 }
  match c.args with
  | [a] => answer a
  | [a, op, b] =>
    let truth (holds : Bool) : Answer := answer (if holds then "1" else "0")
    match a.toInt?, b.toInt? with
    | some m, some n =>
      match op with
      | "+" => answer (toString (m + n))
      | "-" => answer (toString (m - n))
      | "*" => answer (toString (m * n))
      | "/" => if n = 0 then c.failing 2 "division by zero" else answer (toString (m.tdiv n))
      | "%" => if n = 0 then c.failing 2 "division by zero" else answer (toString (m.tmod n))
      | "<" => truth (m < n)
      | "<=" => truth (m ≤ n)
      | ">" => truth (n < m)
      | ">=" => truth (n ≤ m)
      | "=" => truth (m = n)
      | "!=" => truth (m ≠ n)
      | _ => c.failing 2 "syntax error"
    | _, _ =>
      match op with
      | "=" => truth (a = b)
      | "!=" => truth (a ≠ b)
      | _ => c.failing 2 "non-integer argument"
  | _ => c.failing 2 "syntax error"

-- Copies blocks of the input.
def dd (c : Call) : Answer :=
  let value (name : String) : Option String :=
    (c.args.find? (·.startsWith (name ++ "="))).map fun a =>
      (a.drop (name.length + 1)).toString
  let size := ((value "bs").bind String.toNat?).getD 512
  let text := match value "if" with
    | some p => (readFile c p).toOption.getD ""
    | none => c.input
  let text := match (value "count").bind String.toNat? with
    | some n => (text.take (size * n)).toString
    | none => text
  match value "of" with
  | none => c.printing text
  | some p =>
    match c.files.write c.cwd (Text.Raw.toBytes text) (path p) with
    | .ok files => { files }
    | .error e => c.failing 1 s!"failed to open {quote p}: {e.reason}"

-- The programs by name.
def table : List (String × (Call → Answer)) :=
  [("cat", cat), ("wc", wc), ("head", head), ("tail", tail), ("sort", sort), ("uniq", uniq),
   ("cut", cut), ("tr", tr), ("tac", tac), ("rev", rev), ("grep", grep), ("sed", sed),
   ("tee", tee), ("dd", dd), ("touch", touch), ("rm", rm), ("mkdir", mkdir), ("rmdir", rmdir),
   ("mv", mv), ("cp", cp), ("ln", ln), ("chmod", chmod), ("ls", ls), ("basename", basename),
   ("dirname", dirname), ("pwd", pwd), ("realpath", realpath), ("printenv", printenv),
   ("seq", seq), ("expr", expr), ("true", fun c => c.quiet), ("false", fun c => c.exiting 1),
   ("echo", fun c => c.printing (echo c.args)),
   ("printf", printf),
   ("test", test), ("[", test), ("sync", fun c => c.quiet), ("cmp", cmp), ("readlink", readlink)]

-- Whether a program reads its input to the end before it acts.
def readsInput (name : String) (args : List String) : Bool :=
  let noFile (valued : List Char) (before : Nat) : Bool :=
    let (os, operands) := options valued args
    let operands := operands.drop (if hasOption 'e' os || hasOption 'f' os then 0 else before)
    operands.isEmpty || "-" ∈ operands
  match name with
  | "tr" | "tee" => true
  | "cat" | "wc" | "tac" | "rev" | "uniq" => noFile [] 0
  | "head" | "tail" => noFile ['n', 'c'] 0
  | "sort" => noFile ['k', 't', 'o'] 0
  | "cut" => noFile ['d', 'f', 'c', 'b'] 0
  | "grep" => noFile ['e', 'm'] 1
  | "sed" => noFile ['e', 'f'] 1
  | "dd" => !args.any (·.startsWith "if=")
  | _ => false

-- Whether a program that reads its input has enough of it before the end.
def hasEnough (name : String) (args : List String) (input : String) : Bool :=
  name = "head" && headHasEnough args input

-- How much more a program reads at most, beyond what it has.
def appetite (name : String) (args : List String) (input : String) : Nat :=
  let limit := if name = "head" then headLimit? args else none
  match limit with
  | some n => n - input.length
  | none => usualAppetite
where
  usualAppetite : Nat := 1000000

end Tools

end EngineBench
