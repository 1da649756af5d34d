import EngineBench.Tools.Filter
import EngineBench.Tools.Regex

namespace EngineBench

namespace Tools

namespace Grep

def found (os : List (Char × String)) (wanted line : String) : Bool :=
  let fold (s : String) : String := if hasOption 'i' os then s.toLower else s
  let wanted := fold wanted
  let line := fold line
  if hasOption 'F' os then
    if hasOption 'x' os then line = wanted else 1 < (line.splitOn wanted).length || wanted.isEmpty
  else
    let extended := hasOption 'E' os
    let choices := if extended then wanted.splitOn "|" else wanted.splitOn "\\|"
    choices.any fun wanted =>
      let r := Regex.parse extended wanted
      let r := if hasOption 'x' os then { r with atStart := true, atEnd := true } else r
      (r.find? true line.toList).isSome

end Grep

def grep (c : Call) : Answer :=
  let (os, operands) := options ['e', 'm'] c.args
  let (wanted, files) := match optionValue? 'e' os, operands with
    | some w, files => (w, files)
    | none, w :: files => (w, files)
    | none, [] => ("", [])
  let (s, a) := gather c files
  let hits := ((linesOf s).1.zipIdx 1).filter fun (line, _) =>
    Grep.found os wanted line != hasOption 'v' os
  let status := if a.status ≠ 0 then 2 else if hits.isEmpty then 1 else 0
  let out :=
    if hasOption 'q' os then ""
    else if hasOption 'c' os then toString hits.length ++ "\n"
    else ofLines (hits.map fun (line, n) =>
      if hasOption 'n' os then toString n ++ ":" ++ line else line) true
  { a with out, status }

namespace Sed

inductive Place
  | every
  | line (n : Nat)
  | last
  | matching (r : Regex)
  | between (first last : Nat)
  | onwards (first : Nat)

inductive Action
  | substitute (r : Regex) (replacement : List Char) (all print : Bool)
  | print | delete | quit

structure Rule where
  place : Place
  action : Action

-- What stands before a delimiter, and what follows it.
def untilDelimiter (d : Char) : List Char → List Char × List Char
  | [] => ([], [])
  | '\\' :: c :: rest =>
    let (inside, after) := untilDelimiter d rest
    if c = d then (c :: inside, after) else ('\\' :: c :: inside, after)
  | c :: rest =>
    if c = d then ([], rest)
    else
      let (inside, after) := untilDelimiter d rest
      (c :: inside, after)

def action? (extended : Bool) (cs : List Char) : Option (Action × List Char) :=
  match cs with
  | 's' :: d :: rest =>
    let (wanted, rest) := untilDelimiter d rest
    let (replacement, rest) := untilDelimiter d rest
    let flags := rest.takeWhile (· ∈ ['g', 'p', 'i', 'I'])
    some (.substitute (Regex.parse extended (String.ofList wanted)) replacement ('g' ∈ flags)
      ('p' ∈ flags), rest.drop flags.length)
  | 'p' :: rest => some (.print, rest)
  | 'd' :: rest => some (.delete, rest)
  | 'q' :: rest => some (.quit, rest)
  | _ => none

def place (extended : Bool) (cs : List Char) : Place × List Char :=
  match cs with
  | '$' :: rest => (.last, rest)
  | '/' :: rest =>
    let (wanted, rest) := untilDelimiter '/' rest
    (.matching (Regex.parse extended (String.ofList wanted)), rest)
  | _ =>
    let digits := cs.takeWhile Char.isDigit
    match (String.ofList digits).toNat? with
    | none => (.every, cs)
    | some n =>
      match cs.drop digits.length with
      | ',' :: rest =>
        let more := rest.takeWhile Char.isDigit
        match (String.ofList more).toNat?, rest with
        | some m, _ => (.between n (max n m), rest.drop more.length)
        | none, '$' :: rest => (.onwards n, rest)
        | none, rest => (.line n, rest)
      | rest => (.line n, rest)

-- The rules of a script, at most `fuel` of them; a comment goes up to the end of its line.
def rules (extended : Bool) : Nat → List Char → Option (List Rule)
  | 0, _ => some []
  | fuel + 1, cs =>
    match cs.dropWhile fun c => Numeral.isBlank c || c = ';' with
    | [] => some []
    | '#' :: cs => rules extended fuel (cs.dropWhile (· ≠ '\n'))
    | cs => do
      let (p, cs) := place extended cs
      let (a, rest) ← action? extended (cs.dropWhile Numeral.isBlank)
      return ⟨p, a⟩ :: (← rules extended fuel rest)

-- The replacement, in which an ampersand stands for what was found.
def replaced (found : List Char) : List Char → List Char
  | [] => []
  | '\\' :: 'n' :: rest => '\n' :: replaced found rest
  | '\\' :: c :: rest => c :: replaced found rest
  | '&' :: rest => found ++ replaced found rest
  | c :: rest => c :: replaced found rest

-- Replaces the first match, or all, at most `fuel` of them.
def substitute (r : Regex) (replacement : List Char) (all : Bool) :
    Nat → Bool → List Char → List Char × Bool
  | 0, _, cs => (cs, false)
  | fuel + 1, first, cs =>
    match r.find? first cs with
    | none => (cs, false)
    | some (before, n) =>
      let found := (cs.drop before).take n
      let rest := (cs.drop before).drop n
      let head := cs.take before ++ replaced found replacement
      if !all || rest.isEmpty then (head ++ rest, true)
      else if n = 0 then
        let (more, _) := substitute r replacement all fuel false (rest.drop 1)
        (head ++ rest.take 1 ++ more, true)
      else (head ++ (substitute r replacement all fuel false rest).1, true)

structure Cycle where
  line : List Char
  out : List (List Char)
  deleted : Bool
  quits : Bool

def applies (n : Nat) (last : Bool) (line : List Char) : Place → Bool
  | .every => true
  | .line m => n = m
  | .last => last
  | .between first last => first ≤ n && n ≤ last
  | .onwards first => first ≤ n
  | .matching r => (r.find? true line).isSome

def cycle (n : Nat) (last : Bool) (rs : List Rule) (line : List Char) : Cycle :=
  rs.foldl (fun c r =>
    if c.deleted || c.quits || !applies n last c.line r.place then c
    else match r.action with
      | .substitute re replacement all print =>
        let (line, changed) := substitute re replacement all (c.line.length + 2) true c.line
        { c with line, out := if changed && print then c.out ++ [line] else c.out }
      | .print => { c with out := c.out ++ [c.line] }
      | .delete => { c with deleted := true }
      | .quit => { c with quits := true }) ⟨line, [], false, false⟩

-- The lines to write, each with the number of the line it comes from.
def run (quiet : Bool) (rs : List Rule) (total : Nat) : Nat → List String → List (Nat × String)
  | _, [] => []
  | n, line :: rest =>
    let c := cycle n (n = total) rs line.toList
    let out := c.out ++ (if c.deleted || quiet then [] else [c.line])
    out.map (n, String.ofList ·) ++ (if c.quits then [] else run quiet rs total (n + 1) rest)

-- Only what comes from a last line without an end is written without one.
def edit (quiet : Bool) (rs : List Rule) (s : String) : String :=
  let (lines, ended) := linesOf s
  let out := run quiet rs lines.length 1 lines
  ofLines (out.map (·.2)) (ended || (out.getLast?.map (·.1)) ≠ some lines.length)

end Sed

def sed (c : Call) : Answer :=
  let (os, operands) := options ['e', 'f'] c.args
  let extended := hasOption 'E' os || hasOption 'r' os
  let pieces : List (Except OsError String) := os.filterMap fun (o, s) =>
    if o = 'e' then some (.ok s) else if o = 'f' then some (readFile c s) else none
  let (script, files) : Except OsError String × List String := match pieces, operands with
    | [], s :: files => (.ok s, files)
    | [], [] => (.ok "", [])
    | _, files => ((pieces.mapM id).map (String.intercalate "\n"), files)
  match script with
  | .error e => c.failing 1 s!"couldn't open file: {e.reason}"
  | .ok script =>
    match Sed.rules extended (script.length + 1) script.toList with
    | none => c.failing 1 "unknown command"
    | some rs => filter c files (Sed.edit (hasOption 'n' os) rs)

end Tools

end EngineBench
