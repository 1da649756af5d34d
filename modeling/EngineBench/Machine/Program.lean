import EngineBench.Machine.State
import EngineBench.Tools.FileWork

namespace EngineBench

namespace Machine

-- A program by name, with its arguments.
structure Program where
  name : String
  args : List String
  deriving DecidableEq, Repr

namespace Program

def shells : List String := ["sh", "dash", "bash", "ash"]

def names : List String :=
  shells ++ ["sleep", "env", "nohup", "setsid", "nice", "kill", "yes"] ++ Tools.table.map (·.1)

-- A known program is stored as this mark and its name.
def mark : String := "\x7fELF"

-- The system looks at no more bytes of a script than these.
def headLength : Nat := 256

def isGap (c : Char) : Bool :=
  c = ' ' || c = '\t'

-- The first word of a line, and what follows the gap behind it, if there is a gap.
def splitWord (line : List Char) : List Char × Option (List Char) :=
  let cs := line.dropWhile isGap
  let word := cs.takeWhile (!isGap ·)
  (word, if cs.length = word.length then none else some ((cs.drop word.length).dropWhile isGap))

-- An interpreter and its one argument, from a line of which nothing is missing.
def named (line : List Char) : String × List String :=
  let (word, rest) := splitWord (line.reverse.dropWhile isGap).reverse
  (String.ofList word, rest.toList.map String.ofList)

-- The interpreter that the first line of a script names, with its one argument. Gaps at the end of
-- a line do not count, but where the script is over they do. A name that may have been cut off is
-- none.
def interpreter? (raw : String) : Option (String × List String) :=
  match raw.toList.take headLength with
  | '#' :: '!' :: head =>
    let line := head.takeWhile fun c => c ≠ '\n' && c ≠ '\x00'
    let (word, rest) := splitWord line
    let isOver := line.length < head.length || head.length + 2 < headLength
    if head[line.length]? = some '\n' then
      if word.isEmpty then none else some (named line)
    else if isOver then some (String.ofList word, rest.toList.map String.ofList)
    else if rest.isNone then none
    else some (named line.dropLast)
  | _ => none

-- The content of a file that may be run, which nobody may be writing to.
def image (files : Files) (busy : NodeId → Bool) (cwd : NodeId) (raw : String) :
    Except OsError String := do
  let id ← files.find cwd true (Tools.path raw)
  match files.node? id with
  | some (.file bytes mode) =>
    if !(Node.file bytes mode).executable then throw .denied
    else if busy id then throw .textBusy
    else return Text.Raw.ofBytes bytes
  | _ => throw .denied

-- Follows first lines from a script to a program, at most `depth` files in all.
def load (files : Files) (busy : NodeId → Bool) (cwd : NodeId) :
    Nat → String → List String → Except OsError Program
  | 0, raw, _ => do
    let _ ← image files busy cwd raw
    throw .tooManyLinks
  | depth + 1, raw, args => do
    let content ← image files busy cwd raw
    let name := (content.drop mark.length).toString
    if content.startsWith mark && name ∈ names then return ⟨name, args⟩
    match interpreter? content with
    | none => throw .execFormat
    | some ("", _) => throw .denied
    | some (i, more) => load files busy cwd depth i (more ++ raw :: args)

def mostDepth : Nat := 6

def defaultSearchPath : String :=
  "/usr/local/sbin:/usr/local/bin:/usr/sbin:/usr/bin:/sbin:/bin"

-- Where a program of that name is; a name with a slash is taken as it is.
def locate (files : Files) (cwd : NodeId) (searchPath : String) (raw : String) : Option String :=
  if raw.contains '/' then some raw
  else ((searchPath.splitOn ":").map fun dir =>
    if dir.isEmpty then raw else dir ++ "/" ++ raw).find? fun p =>
      files.isFile cwd (Tools.path p)

end Program

-- A tree with the known programs, and an empty directory to work in.
def baseFiles (scratch : List String) : Files × NodeId :=
  let (fs, usr) := Files.empty.addDir Files.root "usr"
  let (fs, bin) := fs.addDir usr "bin"
  let fs := Program.names.foldl (fun fs name =>
    let (fs, id) := fs.add (.file (Text.Raw.toBytes (Program.mark ++ name)) 0o755)
    fs.hook bin name id) fs
  let (fs, link) := fs.add (.link "usr/bin")
  let fs := fs.hook Files.root "bin" link
  let (fs, _) := fs.addDir Files.root "root"
  let (fs, dev) := fs.addDir Files.root "dev"
  let (fs, null) := fs.add .sinkhole
  let fs := fs.hook dev "null" null
  scratch.foldl (fun (fs, dir) step => fs.addDir dir step) (fs, Files.root)

-- A machine at rest.
def boot (files : Files) (home : NodeId) (vars : List (String × String)) : Machine where
  files := files
  home := home
  vars := vars
  now := firstMoment
  live := []
  ended := []
  openings := #[]
  pipes := #[]
  outputs := #[]
  inputs := []
  nextPid := firstPid
  interrupted := false
  said := []

end Machine

end EngineBench
