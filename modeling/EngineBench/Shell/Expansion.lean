import EngineBench.Shell.Arithmetic
import EngineBench.Shell.Pattern
import EngineBench.Shell.Syntax

namespace EngineBench

namespace Shell

-- What expansions look at.
structure Env where
  vars : List (String × String)
  exported : List String
  name : String
  params : List String
  status : Nat
  self : Nat
  job : Option Nat
  -- the letters of the options that are on
  options : List Char
  -- variables that keep their values
  fixed : List String
  -- the line of the command that is being carried out
  line : Nat

namespace Env

-- The characters at which values are cut.
def separators (e : Env) : List Char :=
  match e.vars.lookup "IFS" with
  | some s => s.toList
  | none => [' ', '\t', '\n']

def set (name value : String) (e : Env) : Env :=
  { e with vars := (name, value) :: e.vars.filter (·.1 ≠ name) }

-- Sets a variable that may change.
def assign (name value : String) (e : Env) : Except String Env :=
  if name ∈ e.fixed then .error s!"{name}: is read only" else .ok (e.set name value)

def unset (name : String) (e : Env) : Env :=
  { e with
    vars := e.vars.filter (·.1 ≠ name)
    exported := e.exported.filter (· ≠ name) }

def fix (name : String) (e : Env) : Env :=
  { e with fixed := name :: e.fixed.filter (· ≠ name) }

-- The options of which it can be told that they are on, in the order in which they are told.
def toldOptions : List Char := ['u', 'x', 'f', 'e']

def withOption (on : Bool) (c : Char) (e : Env) : Env :=
  let others := e.options.filter (· ≠ c)
  { e with options := if on then c :: others else others }

-- Whether a parameter that is not set is an error.
def isStrict (e : Env) : Bool :=
  'u' ∈ e.options

def exportName (name : String) (e : Env) : Env :=
  { e with exported := name :: e.exported.filter (· ≠ name) }

-- The variables that other programs get to see.
def outward (e : Env) : List (String × String) :=
  e.vars.filter (·.1 ∈ e.exported)

def lookup (name : String) (e : Env) : Option String :=
  match name.toNat? with
  | some 0 => some e.name
  | some (n + 1) => e.params[n]?
  | none =>
    match name with
    | "#" => some (toString e.params.length)
    | "?" => some (toString e.status)
    | "$" => some (toString e.self)
    | "!" => e.job.map toString
    | "-" => some (String.ofList (toldOptions.filter (· ∈ e.options)))
    | "@" | "*" =>
      let between := if name = "@" then [' '] else e.separators.take 1
      if e.params.isEmpty then none
      else some (String.intercalate (String.ofList between) e.params)
    | _ => e.vars.lookup name

end Env

-- What words are made of once nothing is left to expand.
inductive Atom
  | char (m : Mark)
  -- A blank between fields.
  | gap (c : Char)
  -- The end of a field, be it empty or not.
  | stop (c : Char)
  -- A trace of quotes, which keeps an empty field.
  | quotes
  deriving DecidableEq, Repr

abbrev Expand := StateT Env (Except String)

def isBlank (c : Char) : Bool :=
  c = ' ' || c = '\t' || c = '\n'

def quotedAtoms (s : String) : List Atom :=
  .quotes :: s.toList.map fun c => .char ⟨c, false⟩

def literalAtoms (s : String) : List Atom :=
  s.toList.map fun c => .char ⟨c, true⟩

-- A value that was not quoted is cut at separators.
def valueAtoms (separators : List Char) (s : String) : List Atom :=
  s.toList.map fun c =>
    if c ∉ separators then .char ⟨c, true⟩ else if isBlank c then .gap c else .stop c

def atomsOf (separators : List Char) (s : String) (quoted : Bool) : List Atom :=
  if quoted then quotedAtoms s else valueAtoms separators s

-- The marks of a word that is not cut into fields.
def marks (atoms : List Atom) : Pattern :=
  atoms.filterMap fun
    | .char m => some m
    | .gap c | .stop c => some ⟨c, false⟩
    | .quotes => none

def allParams (separators : List Char) (params : List String) (quoted : Bool) : List Atom :=
  ((params.map fun p => atomsOf separators p quoted).intersperse [.gap ' ']).flatten

-- The value without the shortest or longest end, or beginning, that a pattern stands for.
def trim (atEnd longest : Bool) (p : Pattern) (s : String) : String :=
  let cs := s.toList
  let cutAt (n : Nat) : List Char × List Char := if atEnd then (cs.drop n, cs.take n)
    else (cs.take n, cs.drop n)
  let shortestFirst := List.range (cs.length + 1)
  let places := if atEnd != longest then shortestFirst.reverse else shortestFirst
  match places.find? fun n => Pattern.accepts p.steps (cutAt n).1 with
  | some n => String.ofList (cutAt n).2
  | none => s

-- Variables as arithmetic sees them.
def numbers : Arithmetic.Variables Env where
  get name e := match e.lookup name with
    | none => .ok 0
    | some s =>
      if s.isEmpty then .ok 0
      else match Numeral.whole? Numeral.anyBase? s with
        | some n => .ok n
        | none => .error s!"Illegal number: {s}"
  set name n e := e.assign name (toString n)

mutual

def partAtoms : Part → Expand (List Atom)
  | .text s true => return quotedAtoms s
  | .text s false => return literalAtoms s
  | .value s quoted => return atomsOf (← get).separators s quoted
  | .capture _ _ => return []
  | .arith ps quoted => do
    let text := (marks (← wordAtoms ps)).text
    let (n, e) ← Arithmetic.run numbers text (← get)
    set e
    return atomsOf e.separators (toString n) quoted
  | .param name edit quoted => do
    let e ← get
    match edit with
    | .plain =>
      if name = "@" then return allParams e.separators e.params quoted
      else match e.lookup name with
        | some s => return atomsOf e.separators s quoted
        | none =>
          if e.isStrict && name ≠ "*" then throw s!"{name}: parameter not set"
          else return atomsOf [] "" quoted
    | .length => return atomsOf [] (toString ((e.lookup name).getD "").length) quoted
    | .trim atEnd longest p =>
      let p := marks (← wordAtoms p)
      return atomsOf e.separators (trim atEnd longest p ((e.lookup name).getD "")) quoted
    | .choice kind colon w =>
      let value := (e.lookup name).filter fun s => !(colon && s.isEmpty)
      match kind, value with
      | .alternative, none => return atomsOf [] "" quoted
      | .alternative, some _ => wordAtoms w
      | _, some s => return atomsOf e.separators s quoted
      | .default, none => wordAtoms w
      | .assign, none =>
        let s := (marks (← wordAtoms w)).text
        set (← (← get).assign name s)
        return atomsOf e.separators s quoted
      | .demand, none =>
        let s := (marks (← wordAtoms w)).text
        let reason := if s.isEmpty then "parameter not set" else s
        throw s!"{name}: {reason}"

def wordAtoms : List Part → Expand (List Atom)
  | [] => return []
  | p :: ps => do
    let atoms ← partAtoms p
    return atoms ++ (← wordAtoms ps)

end

-- Fields on the way: those that are done, last first, the one that is open, and whether a gap has
-- closed the last one.
structure Cutting where
  done : List Pattern
  field : Option Pattern
  gapped : Bool

namespace Cutting

def close (c : Cutting) : List Pattern :=
  match c.field with
  | some f => f.reverse :: c.done
  | none => c.done

def next (c : Cutting) : Atom → Cutting
  | .char m => ⟨c.done, some (m :: c.field.getD []), false⟩
  | .quotes => ⟨c.done, some (c.field.getD []), false⟩
  | .gap _ => ⟨c.close, none, c.gapped || c.field.isSome⟩
  | .stop _ =>
    if c.gapped then ⟨c.done, none, false⟩ else ⟨(c.field.getD []).reverse :: c.done, none, false⟩

end Cutting

-- The fields that atoms make: a field is kept if it has characters or quotes.
def fieldsOf (atoms : List Atom) : List Pattern :=
  (atoms.foldl Cutting.next ⟨[], none, false⟩).close.reverse

def startsTilde (atoms : List Atom) (home : Option String) : List Atom :=
  match atoms, home with
  | .char ⟨'~', true⟩ :: rest, some home =>
    match rest with
    | [] | .char ⟨'/', _⟩ :: _ => quotedAtoms home ++ rest
    | _ => atoms
  | _, _ => atoms

-- The fields of a word.
def fields (w : Word) : Expand (List Pattern) := do
  return fieldsOf (startsTilde (← wordAtoms w) ((← get).lookup "HOME"))

-- A word as one pattern, not cut.
def pattern (w : Word) : Expand Pattern := do
  return marks (startsTilde (← wordAtoms w) ((← get).lookup "HOME"))

-- A word as one text, not cut.
def single (w : Word) : Expand String := do
  return (← pattern w).text

end Shell

end EngineBench
