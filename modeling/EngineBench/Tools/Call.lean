import EngineBench.Files.Edit
import EngineBench.Text.Raw

namespace EngineBench

namespace Tools

-- Arguments, input and output are raw text. All of the input has been read before a program acts.
structure Call where
  name : String
  args : List String
  input : String
  cwd : NodeId
  vars : List (String × String)
  files : Files

structure Answer where
  files : Files
  out : String := ""
  err : String := ""
  status : Nat := 0

def path (raw : String) : Path :=
  ⟨Text.Raw.toText raw⟩

namespace Call

def quiet (c : Call) : Answer :=
  { files := c.files }

def printing (c : Call) (out : String) : Answer :=
  { files := c.files, out }

def exiting (c : Call) (status : Nat) : Answer :=
  { files := c.files, status }

def failing (c : Call) (status : Nat) (reason : String) : Answer :=
  { files := c.files, err := s!"{c.name}: {reason}\n", status }

-- Fails because of the way it was called.
def misused (c : Call) (status : Nat) (reason : String) : Answer :=
  let a := c.failing status reason
  { a with err := a.err ++ s!"Try '{c.name} --help' for more information.\n" }

end Call

namespace Answer

-- Notes that something went wrong and goes on.
def complain (name reason : String) (a : Answer) : Answer :=
  { a with err := a.err ++ s!"{name}: {reason}\n", status := 1 }

end Answer

-- Short options, with the values of those that take one, and what follows the options.
def options (valued : List Char) : List String → List (Char × String) × List String
  | [] => ([], [])
  | "--" :: rest => ([], rest)
  | arg :: rest =>
    match arg.toList with
    | '-' :: '-' :: _ => options valued rest
    | '-' :: c :: cs =>
      let (given, more, valueOpen) := cluster valued (c :: cs)
      match valueOpen, rest with
      | some c, value :: rest =>
        let (os, operands) := options valued rest
        (given ++ (c, value) :: os, operands)
      | some c, [] => (given ++ [(c, "")], [])
      | none, rest =>
        let (os, operands) := options valued rest
        (given ++ more ++ os, operands)
    | _ =>
      let (os, operands) := options valued rest
      (os, arg :: operands)
where
  -- The letters of one argument: options without values, then one with its value, or one whose
  -- value is the next argument.
  cluster (valued : List Char) :
      List Char → List (Char × String) × List (Char × String) × Option Char
    | [] => ([], [], none)
    | c :: cs =>
      if c ∈ valued then
        if cs.isEmpty then ([], [], some c) else ([], [(c, String.ofList cs)], none)
      else
        let (given, more, valueOpen) := cluster valued cs
        ((c, "") :: given, more, valueOpen)

def hasOption (c : Char) (os : List (Char × String)) : Bool :=
  os.any (·.1 = c)

def optionValue? (c : Char) (os : List (Char × String)) : Option String :=
  (os.reverse.find? (·.1 = c)).map (·.2)

-- The lines of a text, and whether the last one was ended.
def linesOf (s : String) : List String × Bool :=
  let pieces := s.splitOn "\n"
  if s.isEmpty then ([], true)
  else if pieces.getLast? = some "" then (pieces.dropLast, true)
  else (pieces, false)

def ofLines (lines : List String) (ended : Bool) : String :=
  String.intercalate "\n" lines ++ (if ended && !lines.isEmpty then "\n" else "")

-- The text of a file, raw.
def readFile (c : Call) (raw : String) : Except OsError String :=
  if raw = "-" then .ok c.input
  else (c.files.read c.cwd (path raw)).map Text.Raw.ofBytes

-- How a program says that it cannot read a file, and its status then.
def unread (name operand : String) (e : OsError) : String × Nat :=
  let isDir : Bool := e = .isDirectory
  match name with
  | "head" | "tail" =>
    (if isDir then s!"error reading '{operand}': {e.reason}"
      else s!"cannot open '{operand}' for reading: {e.reason}", 1)
  | "sed" =>
    if isDir then (s!"read error on {operand}: {e.reason}", 4)
    else (s!"can't read {operand}: {e.reason}", 2)
  | "sort" =>
    (if isDir then s!"read failed: {operand}: {e.reason}"
      else s!"cannot read: {operand}: {e.reason}", 2)
  | "grep" => (s!"{operand}: {e.reason}", 2)
  | _ => (s!"{operand}: {e.reason}", 1)

-- The text of all operands one after another, or the input if there are none.
def gather (c : Call) (operands : List String) : String × Answer :=
  if operands.isEmpty then (c.input, c.quiet)
  else operands.foldl (fun (s, a) operand =>
    match readFile c operand with
    | .ok more => (s ++ more, a)
    | .error e =>
      let (reason, status) := unread c.name operand e
      (s, { a.complain c.name reason with status })) ("", c.quiet)

end Tools

end EngineBench
