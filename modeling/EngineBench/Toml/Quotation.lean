import EngineBench.Toml.Reader

namespace EngineBench

namespace Toml

def isBasicChar (c : Char) : Bool :=
  isBlank c || c = '!' || ('#' ≤ c && c ≤ '[') || (']' ≤ c && c ≤ '~') || isBeyondAscii c

def isLiteralChar (c : Char) : Bool :=
  c = '\t' || (' ' ≤ c && c ≤ '&') || ('(' ≤ c && c ≤ '~') || isBeyondAscii c

-- The character with that number, unless it is none or half of a surrogate pair.
def scalar? (n : Nat) : Option Char :=
  if h : n.isValidChar then some (Char.ofNatAux n h) else none

namespace Reader

def codePoint (digits : Nat) : Reader Char := do
  let code := number 16 (← exactly digits isHexDigit)
  match scalar? code with
  | some c => return c
  | none => failure

-- What follows a backslash.
def escape : Reader Char := do
  match ← next with
  | 'b' => return '\x08'
  | 'f' => return '\x0c'
  | 'n' => return '\n'
  | 'r' => return '\r'
  | 't' => return '\t'
  | 'u' => codePoint 4
  | 'U' => codePoint 8
  | '"' => return '"'
  | '\\' => return '\\'
  | _ => failure

-- The text up to the closing quote of a line, of at most `n` characters.
def basicTail : Nat → Reader (List Char)
  | 0 => failure
  | n + 1 => do
    match ← next with
    | '"' => return []
    | '\\' =>
      let c ← escape
      return c :: (← basicTail n)
    | c => if isBasicChar c then return c :: (← basicTail n) else failure

def basic : Reader (List Char) := do
  char '"'
  basicTail (← read)

def literal : Reader (List Char) := do
  char '\''
  let text ← span isLiteralChar
  char '\''
  return text

-- Three closing quotes, before which up to two more belong to the text.
def closing (quote : Char) : Reader (Option (List Char)) := do
  let quotes := ((← get).takeWhile (· = quote)).length
  if quotes < 3 then return none
  else if 5 < quotes then failure
  else
    modify (·.drop quotes)
    return some (List.replicate (quotes - 3) quote)

-- A backslash at the end of a line takes with it all blanks and line ends that follow.
def continuation : Reader Bool := fun _ text =>
  let afterBlanks := text.dropWhile isBlank
  let ended := match afterBlanks with
    | '\n' :: _ => true
    | '\r' :: '\n' :: _ => true
    | _ => false
  if ended then some (true, skipLines afterBlanks) else some (false, text)
where
  skipLines : List Char → List Char
    | '\r' :: '\n' :: rest => skipLines rest
    | c :: rest => if isBlank c || c = '\n' then skipLines rest else c :: rest
    | [] => []

def multiBasicTail : Nat → Reader (List Char)
  | 0 => failure
  | n + 1 => do
    if let some quotes ← closing '"' then return quotes
    if ← newline? then return '\n' :: (← multiBasicTail n)
    match ← next with
    | '\\' =>
      if ← continuation then multiBasicTail n
      else
        let c ← escape
        return c :: (← multiBasicTail n)
    | c => if c = '"' || isBasicChar c then return c :: (← multiBasicTail n) else failure

def multiLiteralTail : Nat → Reader (List Char)
  | 0 => failure
  | n + 1 => do
    if let some quotes ← closing '\'' then return quotes
    if ← newline? then return '\n' :: (← multiLiteralTail n)
    let c ← next
    if c = '\'' || isLiteralChar c then return c :: (← multiLiteralTail n) else failure

-- A line end right after the opening quotes is not part of the text.
def multi (opening : String) (tail : Nat → Reader (List Char)) : Reader (List Char) := do
  skip opening
  let _ ← newline?
  tail (← read)

def quotation : Reader String := do
  let text ← multi "\"\"\"" multiBasicTail <|> multi "'''" multiLiteralTail <|> basic <|> literal
  return String.ofList text

end Reader

end Toml

end EngineBench
