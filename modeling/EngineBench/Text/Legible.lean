namespace EngineBench

namespace Text

namespace Legible

-- A sequence that has begun, by what may come next.
inductive Sequence
  | escape
  | escapeRest
  | control
  | deviceStart
  | deviceParams
  | deviceRest
  -- text for a device, up to the string terminator
  | message
  -- text for the system, up to the bell
  | command
  deriving DecidableEq, Repr

inductive Place
  | plain
  | inside (s : Sequence)
  -- after a blank within a sequence, up to the next control character
  | aside (s : Sequence)
  deriving DecidableEq, Repr

def bell : Char := '\x07'

def cancel : Char := '\x18'

def substitute : Char := '\x1a'

def escapeChar : Char := '\x1b'

-- A control character that is kept.
def isBlank (c : Char) : Bool :=
  c = '\t' || c = '\n' || c = '\x0c' || c = '\r'

def isShown (c : Char) : Bool :=
  isBlank c || (0x20 ≤ c.toNat && c.toNat ≠ 0x7F)

-- The string terminator is a byte, which ends a message also as a part of a character.
def hasTerminator (c : Char) : Bool :=
  (String.singleton c).toUTF8.toList.contains 0x9C

def inRange (low high : Nat) (c : Char) : Bool :=
  low ≤ c.toNat && c.toNat ≤ high

namespace Sequence

def ofEscape (c : Char) : Option Sequence :=
  match c with
  | '[' => some control
  | ']' => some command
  | 'P' => some deviceStart
  | 'X' | '^' | '_' => some message
  | _ =>
    if inRange 0x20 0x2F c then some escapeRest
    else if inRange 0x30 0x7E c then none
    else some escape

-- The sequence after one more character, or none if that character ends it.
def next? (c : Char) : Sequence → Option Sequence
  | escape => ofEscape c
  | escapeRest => if inRange 0x30 0x7E c then none else some escapeRest
  | control => if inRange 0x40 0x7E c then none else some control
  | deviceStart =>
    if inRange 0x20 0x2F c then some deviceRest
    else if inRange 0x30 0x3F c then some deviceParams
    else if inRange 0x40 0x7E c then some message
    else some deviceStart
  | deviceParams =>
    if inRange 0x20 0x2F c then some deviceRest
    else if inRange 0x3C 0x7E c then some message
    else some deviceParams
  | deviceRest => if inRange 0x30 0x7E c then some message else some deviceRest
  | message => if hasTerminator c then none else some message
  | command => if c = bell then none else some command

-- Whether blanks within the sequence are kept.
def keepsBlanks : Sequence → Bool
  | escape | escapeRest | control => true
  | _ => false

def place : Option Sequence → Place
  | none => .plain
  | some s => .inside s

end Sequence

-- One character: where it leads, and whether it is kept. A blank breaks a sequence off, or the
-- sequence goes on (`resumes`) at the next control character.
def step (resumes : Bool) (p : Place) (c : Char) : Place × Bool :=
  if c = escapeChar then (.inside .escape, false)
  else if c = cancel || c = substitute then (.plain, false)
  else match p with
    | .plain => (.plain, isShown c)
    | .inside s =>
      if s.keepsBlanks && isBlank c then (if resumes then .aside s else .plain, true)
      else (Sequence.place (s.next? c), false)
    | .aside s =>
      if isShown c then (if c.toNat < 0x80 then .aside s else .plain, true)
      else (Sequence.place (s.next? c), false)

def keep (resumes : Bool) : Place → List Char → List Char
  | _, [] => []
  | p, c :: rest =>
    let (p, shown) := step resumes p c
    if shown then c :: keep resumes p rest else keep resumes p rest

-- What is left of a text that is taken as a whole.
def ofText (s : String) : String :=
  String.ofList (keep false .plain s.toList)

-- What is left of a text that is written to a stream, piece by piece.
def ofStream (s : String) : String :=
  String.ofList (keep true .plain s.toList)

end Legible

end Text

end EngineBench
