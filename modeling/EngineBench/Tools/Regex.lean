import EngineBench.Shell.Pattern

namespace EngineBench

namespace Tools

open Shell (Mark)

namespace Regex

inductive Item
  | char (c : Char)
  | any
  | oneOf (b : Shell.Pattern.Bracket)

namespace Item

def holds (c : Char) : Item → Bool
  | char d => c = d
  | any => true
  | oneOf b => b.holds c

end Item

inductive Repeat
  | once | many | atLeastOnce | atMostOnce
  deriving DecidableEq, Repr

end Regex

structure Regex where
  atStart : Bool
  atEnd : Bool
  items : List (Regex.Item × Regex.Repeat)

namespace Regex

def special (cs : List Char) : List Mark :=
  cs.map fun c => ⟨c, true⟩

-- One item from the front.
def item? : List Char → Option (Item × List Char)
  | [] => none
  | '\\' :: c :: rest => some (if c = 'n' then .char '\n' else .char c, rest)
  | '.' :: rest => some (.any, rest)
  | '[' :: rest =>
    match Shell.Pattern.bracket? (special rest) with
    | some (b, left) => some (.oneOf b, left.map (·.char))
    | none => some (.char '[', rest)
  | c :: rest => some (.char c, rest)

def repeat? (extended : Bool) (cs : List Char) : Repeat × List Char :=
  match cs with
  | '*' :: rest => (.many, rest)
  | '+' :: rest => if extended then (.atLeastOnce, rest) else (.once, cs)
  | '?' :: rest => if extended then (.atMostOnce, rest) else (.once, cs)
  | '\\' :: '+' :: rest => if extended then (.once, cs) else (.atLeastOnce, rest)
  | '\\' :: '?' :: rest => if extended then (.once, cs) else (.atMostOnce, rest)
  | _ => (.once, cs)

def readItems (extended : Bool) : Nat → List Char → List (Item × Repeat) × Bool
  | 0, _ | _, [] => ([], false)
  | _, ['$'] => ([], true)
  | fuel + 1, cs =>
    match item? cs with
    | none => ([], false)
    | some (i, rest) =>
      let (r, rest) := repeat? extended rest
      let (more, atEnd) := readItems extended fuel rest
      ((i, r) :: more, atEnd)

def parse (extended : Bool) (s : String) : Regex :=
  let (atStart, cs) := match s.toList with
    | '^' :: rest => (true, rest)
    | cs => (false, cs)
  let (is, atEnd) := readItems extended (cs.length + 1) cs
  ⟨atStart, atEnd, is⟩

-- The length of a match at the front, repetitions trying the most first.
def matchFront (atEnd : Bool) (items : List (Item × Repeat)) (cs : List Char) : Option Nat :=
  match items with
  | [] => if atEnd && !cs.isEmpty then none else some 0
  | (i, .once) :: rest =>
    match cs with
    | c :: cs => if i.holds c then (matchFront atEnd rest cs).map (· + 1) else none
    | [] => none
  | (i, .atLeastOnce) :: rest =>
    match cs with
    | c :: cs => if i.holds c then (most atEnd i rest cs).map (· + 1) else none
    | [] => none
  | (i, .atMostOnce) :: rest =>
    match cs with
    | c :: cs' =>
      if i.holds c then
        match matchFront atEnd rest cs' with
        | some n => some (n + 1)
        | none => matchFront atEnd rest (c :: cs')
      else matchFront atEnd rest (c :: cs')
    | [] => matchFront atEnd rest []
  | (i, .many) :: rest => most atEnd i rest cs
termination_by (items.length, cs.length + 1)
where
  -- As many of one item as there can be, then the rest.
  most (atEnd : Bool) (i : Item) (rest : List (Item × Repeat)) (cs : List Char) : Option Nat :=
    match cs with
    | c :: cs' =>
      if i.holds c then
        match most atEnd i rest cs' with
        | some n => some (n + 1)
        | none => matchFront atEnd rest (c :: cs')
      else matchFront atEnd rest (c :: cs')
    | [] => matchFront atEnd rest []
  termination_by (rest.length, cs.length + 2)

-- The leftmost match from a place in a line on: how many characters come before it, and its
-- length.
def find? (r : Regex) (first : Bool) (cs : List Char) : Option (Nat × Nat) :=
  let here := if r.atStart && !first then none else matchFront r.atEnd r.items cs
  match here, cs with
  | some n, _ => some (0, n)
  | none, [] => none
  | none, _ :: rest =>
    if r.atStart then none else (find? r false rest).map fun (before, n) => (before + 1, n)

end Regex

end Tools

end EngineBench
