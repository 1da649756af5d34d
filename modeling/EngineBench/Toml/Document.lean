import EngineBench.Toml.Scalar

namespace EngineBench

namespace Toml

def isBareKeyChar (c : Char) : Bool :=
  isDigit c || ('a' ≤ c && c ≤ 'z') || ('A' ≤ c && c ≤ 'Z') || c = '_' || c = '-'

-- Arrays, braces and dotted keys may not be nested this deep.
def depthLimit : Nat := 80

namespace Entries

-- Changes the table at the end of a path, making what is missing on the way. A dotted path may
-- only pass through tables that no line defines as a whole.
def change (newOrigin : Origin) (f : Origin → Entries → Option Entries) :
    Origin → List String → Entries → Option Entries
  | origin, [], t => f origin t
  | _, key :: path, t =>
    match t.lookup key with
    | none => do
      let inner ← change newOrigin f newOrigin path []
      return t.put key (.table newOrigin inner)
    | some (.table origin inner) => do
      if newOrigin = .dotted && (origin = .header || origin = .inline) then none
      let inner ← change newOrigin f origin path inner
      return t.put key (.table origin inner)
    | some (.tables last before) => do
      let inner ← change newOrigin f .header path last
      return t.put key (.tables inner before)
    | some _ => none

-- A key with a value goes into a table that dotted keys made if its own key is dotted, and into
-- any other table if not.
def addValue (path : List String) (key : String) (value : Value) (origin : Origin) (t : Entries) :
    Option Entries :=
  change .dotted (fun origin t =>
    if (origin = .dotted) = (path = []) then none
    else if (t.lookup key).isSome then none
    else some (t.put key value)) origin path t

-- Opens the table that a header names.
def openTable (path : List String) (key : String) (t : Entries) : Option Entries :=
  change .implied (fun _ t =>
    match t.lookup key with
    | none => some (t.put key (.table .header []))
    | some (.table .implied inner) => some (t.put key (.table .header inner))
    | some _ => none) .header path t

-- Adds an empty element to the list of tables that a header names.
def openElement (path : List String) (key : String) (t : Entries) : Option Entries :=
  change .implied (fun _ t =>
    match t.lookup key with
    | none => some (t.put key (.tables [] []))
    | some (.tables last before) => some (t.put key (.tables [] (last :: before)))
    | some _ => none) .header path t

-- Adds a key with a value to the table that a header opened.
def addUnder (opened : List String) (path : List String) (key : String) (value : Value)
    (t : Entries) : Option Entries :=
  change .implied (addValue path key value) .header opened t

end Entries

namespace Reader

def keyPart : Reader String := do
  match ← peek? with
  | some '"' => return String.ofList (← basic)
  | some '\'' => return String.ofList (← literal)
  | _ => return String.ofList (← span1 isBareKeyChar)

-- The parts of a key, of which there is at least one.
def keyParts : Nat → Reader (List String × String)
  | 0 => failure
  | n + 1 => do
    blanks
    let part ← keyPart
    blanks
    if ← skip? "." then
      let (path, last) ← keyParts n
      return (part :: path, last)
    else return ([], part)

def key : Reader (List String × String) :=
  keyParts (depthLimit - 1)

-- Values up to the closing bracket, at most `n` of them; a comma may stand before it.
def arrayTail (value : Reader Value) : Nat → Reader (List Value)
  | 0 => failure
  | n + 1 => do
    anyPadding
    if ← skip? "]" then return []
    let v ← value
    anyPadding
    if ← skip? "," then return v :: (← arrayTail value n)
    else
      skip "]"
      return [v]

def keyValue (value : Reader Value) : Reader ((List String × String) × Value) := do
  let k ← key
  skip "="
  blanks
  let v ← value
  blanks
  return (k, v)

-- Keys with values up to the closing brace, at most `n` of them; no comma may stand before it.
def braceTail (value : Reader Value) : Nat → Entries → Reader Entries
  | 0, _ => failure
  | n + 1, t => do
    let ((path, last), v) ← keyValue value
    match t.addValue path last v .inline with
    | none => failure
    | some t =>
      if ← skip? "," then braceTail value n t
      else
        skip "\x7d"
        return t

-- A value in which brackets and braces are nested at most `depth` deep.
def value : Nat → Reader Value
  | 0 => scalar
  | depth + 1 => do
    match ← peek? with
    | some '[' =>
      let _ ← next
      return .array (← arrayTail (value depth) (← read))
    | some '\x7b' =>
      let _ ← next
      blanks
      if ← skip? "\x7d" then return .table .inline []
      else return .table .inline (← braceTail (value depth) (← read) [])
    | _ => scalar

-- The document so far, and the header under which the next keys go.
structure Position where
  root : Entries
  opened : List String

def orFail {α : Type} : Option α → Reader α
  | some a => return a
  | none => failure

def line (p : Position) : Reader Position := do
  blanks
  match ← peek? with
  | none => return p
  | some '#' | some '\n' | some '\r' =>
    restOfLine
    return p
  | some '[' =>
    let _ ← next
    let nested ← skip? "["
    let (path, last) ← key
    skip "]"
    if nested then skip "]"
    restOfLine
    let root ← orFail (if nested then p.root.openElement path last else p.root.openTable path last)
    return ⟨root, path ++ [last]⟩
  | _ =>
    let ((path, last), v) ← keyValue (value (depthLimit - 1))
    restOfLine
    return { p with root := ← orFail (p.root.addUnder p.opened path last v) }

-- At most `n` lines.
def lines : Nat → Position → Reader Entries
  | 0, p => return p.root
  | n + 1, p => do
    if ← atEnd then return p.root
    lines n (← line p)

end Reader

-- Reads a whole document. A byte order mark may stand before it.
def parse? (text : String) : Option Entries :=
  let chars := match text.toList with
    | '\ufeff' :: rest => rest
    | all => all
  let size := chars.length + 1
  ((Reader.lines size ⟨[], []⟩).runOn size chars).bind fun (t, rest) =>
    if rest.isEmpty then some t else none

end Toml

end EngineBench
