import EngineBench.Shell.Syntax

namespace EngineBench

namespace Shell

namespace HereText

structure Mark where
  ending : List Char
  -- whether nothing in the text is expanded
  literal : Bool
  -- whether tabs at the beginning of a line are dropped
  tight : Bool

inductive Piece
  | char (c : Char)
  | text (m : Mark)

def isEnd (c : Char) : Bool :=
  c ∈ [' ', '\t', '\n', ';', '&', '|', '<', '>', '(', ')']

-- A word up to its end, which does not lie between quotes.
def markWord : Option Char → List Char → List Char
  | _, [] => []
  | some quote, c :: rest => c :: markWord (if c = quote then none else some quote) rest
  | none, c :: rest =>
    if isEnd c then []
    else c :: markWord (if c = '\'' || c = '"' then some c else none) rest

-- The word after the sign, which tells the line at which the text ends.
def mark (tight : Bool) (cs : List Char) : Mark × List Char :=
  let cs := cs.dropWhile (· = ' ')
  let word := markWord none cs
  let isQuote (c : Char) : Bool := c = '\'' || c = '"' || c = '\\'
  (⟨word.filter fun c => !isQuote c, word.any isQuote, tight⟩, cs.drop word.length)

-- The pieces of one line of commands, which may go on inside quotes, and what comes after it. At
-- most `fuel` pieces are read.
def line : Nat → Option Char → List Char → List Piece × List Char
  | 0, _, cs => ([], cs)
  | _, _, [] => ([], [])
  | fuel + 1, some quote, c :: rest =>
    if c = '\\' && quote = '"' then
      let (ps, left) := line fuel (some quote) (rest.drop 1)
      (.char c :: (rest.take 1).map .char ++ ps, left)
    else
      let (ps, left) := line fuel (if c = quote then none else some quote) rest
      (.char c :: ps, left)
  | fuel + 1, none, '<' :: '<' :: rest =>
    let tight := rest.head? = some '-'
    let (m, rest) := mark tight (if tight then rest.drop 1 else rest)
    let (ps, left) := line fuel none rest
    (.char '<' :: .char '<' :: .text m :: ps, left)
  | fuel + 1, none, '$' :: '(' :: '(' :: rest =>
    let inside := rest.takeWhile (· ≠ ')')
    let (ps, left) := line fuel none (rest.drop inside.length)
    ((['$', '(', '('] ++ inside).map .char ++ ps, left)
  | fuel + 1, none, ' ' :: '#' :: rest =>
    line fuel none (rest.dropWhile (· ≠ '\n'))
  | _, none, '\n' :: rest => ([.char '\n'], rest)
  | fuel + 1, none, c :: rest =>
    if c = '\\' then
      let (ps, left) := line fuel none (rest.drop 1)
      (.char c :: (rest.take 1).map .char ++ ps, left)
    else
      let (ps, left) := line fuel (if c = '\'' || c = '"' then some c else none) rest
      (.char c :: ps, left)

-- The lines of a text up to the one that ends it, and what comes after them.
def body (m : Mark) : List (List Char) → List (List Char) × List (List Char)
  | [] | [[]] => ([], [])
  | l :: rest =>
    let l := if m.tight then l.dropWhile (· = '\t') else l
    if l = m.ending then ([], rest)
    else
      let (ls, left) := body m rest
      (l :: ls, left)

def escaped (special : List Char) (put : Char → List Char) (cs : List Char) : List Char :=
  cs.flatMap fun c => if c ∈ special then put c else [c]

-- A backslash before a quote stands for itself.
def expandable : List Char → List Char
  | '\\' :: '"' :: rest => '\\' :: '\\' :: '\\' :: '"' :: expandable rest
  | '"' :: rest => '\\' :: '"' :: expandable rest
  | c :: rest => c :: expandable rest
  | [] => []

-- The text as one word. A joined line makes up for the line that ended it.
def quoted (m : Mark) (ls : List (List Char)) : List Char :=
  let text := ls.flatMap (· ++ ['\n'])
  let word :=
    if m.literal then '\'' :: escaped ['\''] (fun _ => ['\'', '\\', '\'', '\'']) text ++ ['\'']
    else '"' :: expandable text ++ ['"']
  word ++ ['\\', '\n']

def cutLines (cs : List Char) : List (List Char) :=
  ((String.ofList cs).splitOn "\n").map String.toList

def joinLines (ls : List (List Char)) : List Char :=
  (ls.intersperse ['\n']).flatten

-- Puts the texts in their places.
def placed : List Piece → List Char → List Char × List Char
  | [], rest => ([], rest)
  | .char c :: ps, rest =>
    let (cs, rest) := placed ps rest
    (c :: cs, rest)
  | .text m :: ps, rest =>
    let (ls, left) := body m (cutLines rest)
    let (cs, rest) := placed ps (joinLines left)
    (quoted m ls ++ cs, rest)

def inlined : Nat → List Char → List Char
  | 0, cs => cs
  | _, [] => []
  | fuel + 1, cs =>
    let (ps, rest) := line (cs.length + 1) none cs
    let (out, rest) := placed ps rest
    out ++ inlined fuel rest

end HereText

-- A script with all texts in their places.
def withHereTexts (script : List Char) : List Char :=
  HereText.inlined (script.length + 1) script

end Shell

end EngineBench
