import EngineBench.Numeric.Numeral
import EngineBench.Tools.Call

namespace EngineBench

namespace Tools

namespace Question

-- What a word can be in a question besides an operand.
inductive Sign
  | unary (op : String)
  | binary (op : String)
  | not | and | or
  | opening | closing
  deriving DecidableEq, Repr

def unaryOps : List String :=
  ["-r", "-w", "-x", "-e", "-f", "-d", "-c", "-b", "-p", "-u", "-g", "-k", "-s", "-t", "-z", "-n",
   "-h", "-O", "-G", "-L", "-S"]

def binaryOps : List String :=
  ["=", "!=", "<", ">", "-eq", "-ne", "-ge", "-gt", "-le", "-lt", "-nt", "-ot", "-ef"]

def Sign.ofWord? (w : String) : Option Sign :=
  if w ∈ unaryOps then some (.unary w)
  else if w ∈ binaryOps then some (.binary w)
  else match w with
    | "!" => some .not
    | "-a" => some .and
    | "-o" => some .or
    | "(" => some .opening
    | ")" => some .closing
    | _ => none

def isBinary (w : String) : Bool :=
  w ∈ binaryOps

inductive Token
  | nothing
  | operand
  | sign (s : Sign)
  deriving DecidableEq, Repr

-- What the first of some words is. A sign for one operand is an operand itself if nothing comes
-- behind it, or a sign between it and something else.
def Token.ofWords : List String → Token
  | [] => .nothing
  | w :: rest =>
    match Sign.ofWord? w, rest with
    | none, _ => .operand
    | some (.unary _), [] => .operand
    | some (.unary op), [_] => .sign (.unary op)
    | some (.unary op), next :: _ => if isBinary next then .operand else .sign (.unary op)
    | some .opening, [] => .operand
    | some s, _ => .sign s

def complaint (w reason : String) : String :=
  if w.isEmpty then reason else s!"{w}: {reason}"

def number (s : String) : Except String Int :=
  match Numeral.whole? Numeral.decimal? s with
  | some n => .ok n
  | none => .error s!"Illegal number: {s}"

def isLink (c : Call) (arg : String) : Bool :=
  match (c.files.find c.cwd false (path arg)).toOption.bind c.files.node? with
  | some (.link _) => true
  | _ => false

-- The answer to a question about one operand. Everything may be read and written.
def unary (c : Call) (op arg : String) : Except String Bool :=
  let node (f : Node → Bool) : Bool := match c.files.stat c.cwd (path arg) with
    | .ok n => f n
    | .error _ => false
  match op with
  | "-n" => .ok !arg.isEmpty
  | "-z" => .ok arg.isEmpty
  | "-f" => .ok (node Node.isFile)
  | "-d" => .ok (node Node.isDir)
  | "-x" => .ok (node fun n => n.isDir || n.executable)
  | "-c" => .ok (node fun n => n matches .sinkhole)
  | "-s" => .ok (node fun
      | .file bytes _ => bytes.size ≠ 0
      | .dir .. => true
      | _ => false)
  | "-L" | "-h" => .ok (isLink c arg)
  | "-t" => (number arg).map fun _ => false
  | "-p" | "-S" | "-b" | "-u" | "-g" | "-k" => .ok false
  | _ => .ok (node fun _ => true)

def isSame (c : Call) (a b : String) : Bool :=
  match c.files.find c.cwd true (path a), c.files.find c.cwd true (path b) with
  | .ok m, .ok n => m = n
  | _, _ => false

def binary (c : Call) (op a b : String) : Except String Bool :=
  let compared (holds : Int → Int → Bool) : Except String Bool := do
    let m ← number a
    return holds m (← number b)
  match op with
  | "=" => .ok (a = b)
  | "!=" => .ok (a ≠ b)
  | "<" => .ok (a < b)
  | ">" => .ok (b < a)
  | "-eq" => compared (· = ·)
  | "-ne" => compared (· ≠ ·)
  | "-lt" => compared (· < ·)
  | "-le" => compared (· ≤ ·)
  | "-gt" => compared (· > ·)
  | "-ge" => compared (· ≥ ·)
  | "-ef" => .ok (isSame c a b)
  | _ => .ok false

-- A part of a question: its answer, and the words from the last one on that belongs to it.
abbrev Part := Except String (Bool × List String)

mutual

-- A choice between parts, the first of which begins with the token.
def either (c : Call) (fuel : Nat) (t : Token) (ws : List String) : Part :=
  match fuel with
  | 0 => .ok (false, [])
  | fuel + 1 => do
    let (a, ws) ← both c fuel t ws
    if Token.ofWords ws.tail = .sign .or then
      let (b, ws) ← either c fuel (.ofWords ws.tail.tail) ws.tail.tail
      return (a || b, ws)
    else return (a, ws)

def both (c : Call) (fuel : Nat) (t : Token) (ws : List String) : Part :=
  match fuel with
  | 0 => .ok (false, [])
  | fuel + 1 => do
    let (a, ws) ← negated c fuel t ws
    if Token.ofWords ws.tail = .sign .and then
      let (b, ws) ← both c fuel (.ofWords ws.tail.tail) ws.tail.tail
      return (a && b, ws)
    else return (a, ws)

def negated (c : Call) (fuel : Nat) (t : Token) (ws : List String) : Part :=
  match fuel with
  | 0 => .ok (false, [])
  | fuel + 1 =>
    if t = .sign .not then do
      let rest := if ws.tail.isEmpty then ws else ws.tail
      let (a, ws) ← negated c fuel (.ofWords ws.tail) rest
      return (!a, ws)
    else simple c fuel t ws

-- A part in brackets, a sign with its operands, or a word, which asks whether it is empty.
def simple (c : Call) (fuel : Nat) (t : Token) (ws : List String) : Part :=
  match fuel, t, ws with
  | 0, _, _ | _, _, [] | _, .nothing, _ => .ok (false, ws)
  | fuel + 1, .sign .opening, _ :: rest =>
    if Token.ofWords rest = .sign .closing then .ok (false, rest)
    else do
      let (a, ws) ← either c fuel (.ofWords rest) rest
      if Token.ofWords ws.tail = .sign .closing then return (a, ws.tail)
      else throw "closing paren expected"
  | _, .sign (.unary op), _ :: rest =>
    match rest with
    | [] => .error (complaint op "argument expected")
    | arg :: _ => (unary c op arg).map (·, rest)
  | _, _, w :: rest =>
    match rest with
    | op :: more =>
      if isBinary op then
        match more with
        | [] => .error (complaint op "argument expected")
        | arg :: _ => (binary c op w arg).map (·, more)
      else .ok (!w.isEmpty, ws)
    | [] => .ok (!w.isEmpty, ws)

end

-- The answer to a question that is read to its end.
def judged (c : Call) (t : Token) (ws : List String) : Except String Bool := do
  match ← either c (8 * ws.length + 8) t ws with
  | (_, w :: _ :: _) => throw (complaint w "unexpected operator")
  | (a, _) => return a

-- The answer to a question. Of three words the middle one is a sign if it can be one, and of three
-- or four words brackets around them and a sign of negation before them come off first; however
-- many such signs come off, they turn the answer round once.
def answer (c : Call) (turned : Bool) : List String → Except String Bool
  | [] => .ok turned
  | w :: rest =>
    let few := rest.length = 2 || rest.length = 3
    if rest.length = 2 && isBinary (rest.headD "") then
      (judged c .operand (w :: rest)).map (· != turned)
    else if few && w = "(" && rest.getLast? = some ")" then
      (judged c (.ofWords rest.dropLast) rest.dropLast).map (· != turned)
    else if few && w = "!" then answer c true rest
    else (judged c (.ofWords (w :: rest)) (w :: rest)).map (· != turned)

end Question

-- Asks the question that the arguments make; under the name of a bracket they end in one.
def test (c : Call) : Answer :=
  let asked (ws : List String) : Answer := match Question.answer c false ws with
    | .ok holds => c.exiting (if holds then 0 else 1)
    | .error reason => c.failing 2 reason
  if c.name = "[" then
    if c.args.getLast? = some "]" then asked c.args.dropLast else c.failing 2 "missing ]"
  else asked c.args

end Tools

end EngineBench
