namespace EngineBench

namespace Toml

-- Takes what it wants from the front of a text, or fails. It knows how long the whole text is,
-- which bounds how often it may repeat something.
abbrev Reader := ReaderT Nat (StateT (List Char) Option)

namespace Reader

-- Reads a text of at most so many characters.
def runOn {α : Type} (r : Reader α) (size : Nat) (text : List Char) : Option (α × List Char) :=
  (r.run size).run text

def peek? : Reader (Option Char) := do
  return (← get).head?

def next : Reader Char := do
  match ← get with
  | [] => failure
  | c :: rest =>
    set rest
    return c

def one (allowed : Char → Bool) : Reader Char := do
  let c ← next
  if allowed c then return c else failure

def char (c : Char) : Reader Unit := do
  let _ ← one (· = c)

-- As many characters as the class has.
def span (allowed : Char → Bool) : Reader (List Char) := do
  let text ← get
  set (text.dropWhile allowed)
  return text.takeWhile allowed

def span1 (allowed : Char → Bool) : Reader (List Char) := do
  let found ← span allowed
  if found.isEmpty then failure else return found

-- Takes the word if the text begins with it.
def skip? (word : String) : Reader Bool := do
  let text ← get
  if word.toList.isPrefixOf text then
    set (text.drop word.length)
    return true
  else return false

def skip (word : String) : Reader Unit := do
  if !(← skip? word) then failure

def atEnd : Reader Bool := do
  return (← get).isEmpty

def optional {α : Type} (r : Reader α) : Reader (Option α) := fun size text =>
  match r size text with
  | some (a, rest) => some (some a, rest)
  | none => some (none, text)

-- Exactly `n` characters of the class.
def exactly (n : Nat) (allowed : Char → Bool) : Reader (List Char) :=
  (List.replicate n ()).mapM fun _ => one allowed

end Reader

def isBlank (c : Char) : Bool :=
  c = ' ' || c = '\t'

def isDigit (c : Char) : Bool :=
  '0' ≤ c && c ≤ '9'

def isHexDigit (c : Char) : Bool :=
  isDigit c || ('a' ≤ c && c ≤ 'f') || ('A' ≤ c && c ≤ 'F')

def digitValue (c : Char) : Nat :=
  if isDigit c then c.toNat - 48
  else if 'a' ≤ c then c.toNat - 87
  else c.toNat - 55

def number (base : Nat) (digits : List Char) : Nat :=
  digits.foldl (fun n c => base * n + digitValue c) 0

def isBeyondAscii (c : Char) : Bool :=
  0x80 ≤ c.toNat

-- What a comment may hold.
def isCommentChar (c : Char) : Bool :=
  c = '\t' || (' ' ≤ c && c ≤ '~') || isBeyondAscii c

namespace Reader

def blanks : Reader Unit := do
  let _ ← span isBlank

-- A line ends with a line feed, which a carriage return may precede.
def newline? : Reader Bool := do
  if ← skip? "\r\n" then return true else skip? "\n"

def comment : Reader Unit := do
  if ← skip? "#" then
    let _ ← span isCommentChar

-- Blanks and a comment up to the end of the line or of the text.
def restOfLine : Reader Unit := do
  blanks
  comment
  if !((← newline?) || (← atEnd)) then failure

-- Blanks, comments and line ends, at most `n` lines of them.
def padding : Nat → Reader Unit
  | 0 => blanks
  | n + 1 => do
    blanks
    comment
    if ← newline? then padding n

-- Blanks, comments and line ends, as many as there are.
def anyPadding : Reader Unit := do
  padding (← read)

end Reader

end Toml

end EngineBench
