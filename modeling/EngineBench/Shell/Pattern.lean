namespace EngineBench

namespace Shell

-- A character, and whether it may have a special meaning.
structure Mark where
  char : Char
  special : Bool
  deriving DecidableEq, Repr

abbrev Pattern := List Mark

namespace Pattern

def plain (s : String) : Pattern :=
  s.toList.map fun c => ⟨c, false⟩

def text (p : Pattern) : String :=
  String.ofList (p.map (·.char))

def isWild (p : Pattern) : Bool :=
  p.any fun m => m.special && (m.char = '*' || m.char = '?' || m.char = '[')

-- One character or range of a bracket, and what follows it.
inductive Item
  | one (c : Char)
  | range (low high : Char)
  deriving DecidableEq, Repr

namespace Item

def holds (c : Char) : Item → Bool
  | one d => c = d
  | range low high => low ≤ c && c ≤ high

end Item

structure Bracket where
  negated : Bool
  items : List Item
  deriving Repr

namespace Bracket

def holds (b : Bracket) (c : Char) : Bool :=
  b.items.any (·.holds c) != b.negated

end Bracket

-- The items up to the closing bracket; one that comes first stands for itself.
def items (first : Bool) : Pattern → Option (List Item × Pattern)
  | [] => none
  | ⟨']', _⟩ :: rest =>
    if first then do
      let (is, rest) ← items false rest
      return (.one ']' :: is, rest)
    else some ([], rest)
  | [⟨c, _⟩] => if c = ']' then some ([], []) else none
  | ⟨low, _⟩ :: ⟨'-', _⟩ :: ⟨high, _⟩ :: rest =>
    if high = ']' then some ([.one low, .one '-'], rest)
    else do
      let (is, rest) ← items false rest
      return (.range low high :: is, rest)
  | ⟨c, _⟩ :: rest => do
    let (is, rest) ← items false rest
    return (.one c :: is, rest)

def bracket? (p : Pattern) : Option (Bracket × Pattern) :=
  match p with
  | ⟨'!', _⟩ :: rest | ⟨'^', _⟩ :: rest => do
    let (is, rest) ← items true rest
    return (⟨true, is⟩, rest)
  | _ => do
    let (is, rest) ← items true p
    return (⟨false, is⟩, rest)

-- What one step of a pattern stands for.
inductive Step
  | star
  | any
  | oneOf (b : Bracket)
  | only (c : Char)

-- The steps of a pattern, at most `fuel` of them.
def stepsOf : Nat → Pattern → List Step
  | 0, _ | _, [] => []
  | fuel + 1, m :: rest =>
    if !m.special then .only m.char :: stepsOf fuel rest
    else match m.char with
      | '*' => .star :: stepsOf fuel rest
      | '?' => .any :: stepsOf fuel rest
      | '[' =>
        match bracket? rest with
        | some (b, rest) => .oneOf b :: stepsOf fuel rest
        | none => .only '[' :: stepsOf fuel rest
      | c => .only c :: stepsOf fuel rest

def steps (p : Pattern) : List Step :=
  stepsOf p.length p

-- Whether a pattern stands for the whole of a text.
def accepts (steps : List Step) (cs : List Char) : Bool :=
  match steps with
  | [] => cs.isEmpty
  | .star :: rest => anyTail rest cs
  | .any :: rest =>
    match cs with
    | _ :: cs => accepts rest cs
    | [] => false
  | .oneOf b :: rest =>
    match cs with
    | c :: cs => b.holds c && accepts rest cs
    | [] => false
  | .only d :: rest =>
    match cs with
    | c :: cs => c = d && accepts rest cs
    | [] => false
termination_by (steps.length, cs.length + 1)
where
  -- Whether the steps stand for what is left of a text after some of it.
  anyTail (steps : List Step) (cs : List Char) : Bool :=
    accepts steps cs || match cs with
      | [] => false
      | _ :: cs => anyTail steps cs
  termination_by (steps.length, cs.length + 2)

def matchesText (p : Pattern) (s : String) : Bool :=
  accepts p.steps s.toList

end Pattern

end Shell

end EngineBench
