import EngineBench.Shell.HereText

namespace EngineBench

namespace Shell

namespace Parser

def isMeta (c : Char) : Bool :=
  c ∈ [' ', '\t', '\n', ';', '&', '|', '<', '>', '(', ')']

def isNameStart (c : Char) : Bool :=
  c.isAlpha || c = '_'

def isNameChar (c : Char) : Bool :=
  isNameStart c || c.isDigit

-- Skips blanks and joined lines.
def blanks : List Char → List Char
  | ' ' :: rest | '\t' :: rest | '\\' :: '\n' :: rest => blanks rest
  | cs => cs

-- Skips blanks and a comment.
def gap (cs : List Char) : List Char :=
  match blanks cs with
  | '#' :: rest => rest.dropWhile (· ≠ '\n')
  | cs => cs

-- Skips blanks, comments and ends of lines.
def gaps : Nat → List Char → List Char
  | 0, cs => cs
  | fuel + 1, cs =>
    match gap cs with
    | '\n' :: rest => gaps fuel rest
    | cs => cs

def skipGaps (cs : List Char) : List Char :=
  gaps cs.length cs

-- The plain word at the front, if it ends there.
def plainWord (cs : List Char) : String × List Char :=
  let w := cs.takeWhile fun c => !isMeta c
  (String.ofList w, cs.drop w.length)

-- Reads one certain word.
def keyword (w : String) (cs : List Char) : Option (List Char) :=
  let (found, rest) := plainWord (skipGaps cs)
  if found = w then some rest else none

def closers : List String :=
  ["then", "else", "elif", "fi", "do", "done", "esac", "\x7d"]

-- Words that no command begins with.
def unexpected : List String :=
  "!" :: closers

-- Whether a list of commands ends here.
def atEnd (cs : List Char) : Bool :=
  match cs with
  | [] | ')' :: _ | ';' :: ';' :: _ => true
  | _ => (plainWord cs).1 ∈ closers

def name (cs : List Char) : String × List Char :=
  match cs with
  | c :: _ =>
    if isNameStart c then
      let w := cs.takeWhile isNameChar
      (String.ofList w, cs.drop w.length)
    else ("", cs)
  | [] => ("", cs)

def isSpecial (c : Char) : Bool :=
  c ∈ ['#', '?', '$', '!', '@', '*', '-'] || c.isDigit

-- The name of a parameter: a name, digits or one special character.
def paramName (cs : List Char) : String × List Char :=
  match cs with
  | c :: rest =>
    if c.isDigit then
      let w := cs.takeWhile Char.isDigit
      (String.ofList w, cs.drop w.length)
    else if isSpecial c then (c.toString, rest)
    else name cs
  | [] => ("", [])

-- What stands before a closing quote.
def untilQuote (quote : Char) (cs : List Char) : Option (String × List Char) :=
  let inside := cs.takeWhile (· ≠ quote)
  match cs.drop inside.length with
  | _ :: rest => some (String.ofList inside, rest)
  | [] => none

-- What stands before two closing brackets.
def untilBrackets (depth : Nat) (read : List Char) : List Char → Option (List Char × List Char)
  | ')' :: ')' :: rest =>
    if depth = 0 then some (read.reverse, rest)
    else untilBrackets (depth - 1) (')' :: read) (')' :: rest)
  | '(' :: rest => untilBrackets (depth + 1) ('(' :: read) rest
  | ')' :: rest => untilBrackets (depth - 1) (')' :: read) rest
  | c :: rest => untilBrackets depth (c :: read) rest
  | [] => none

-- What stands before a back quote; a backslash may stand before some characters.
def untilBackquote (quoted : Bool) (read : List Char) :
    List Char → Option (List Char × List Char)
  | '`' :: rest => some (read.reverse, rest)
  | '\\' :: c :: rest =>
    if c ∈ ['`', '\\', '$'] || quoted && c = '"' then untilBackquote quoted (c :: read) rest
    else untilBackquote quoted (c :: '\\' :: read) rest
  | c :: rest => untilBackquote quoted (c :: read) rest
  | [] => none

def assignment? (cs : List Char) : Option (String × List Char) :=
  match name cs with
  | ("", _) => none
  | (n, '=' :: rest) => some (n, rest)
  | _ => none

-- The head of a redirection: the descriptor and the direction.
def redirectHead? (cs : List Char) : Option (Nat × Direction × List Char) :=
  let digits := cs.takeWhile Char.isDigit
  let fd (default : Nat) : Nat := (String.ofList digits).toNat?.getD default
  match cs.drop digits.length with
  | '>' :: '>' :: rest => some (fd 1, .append, rest)
  | '>' :: '&' :: rest => some (fd 1, .duplicate, rest)
  | '>' :: '|' :: rest | '>' :: rest => some (fd 1, .output, rest)
  | '<' :: '&' :: rest => some (fd 0, .duplicate, rest)
  | '<' :: '<' :: rest => some (fd 0, .here, rest)
  | '<' :: rest => some (fd 0, .input, rest)
  | _ => none

-- The name and the brackets that begin the definition of a function.
def functionHead? (cs : List Char) : Option (String × List Char) :=
  match name cs with
  | ("", _) => none
  | (n, rest) =>
    match blanks rest with
    | '(' :: rest =>
      match blanks rest with
      | ')' :: rest => some (n, rest)
      | _ => none
    | _ => none

def isPlain (c : Char) : Bool :=
  !isMeta c && c ∉ ['\'', '"', '\\', '$', '`']

def isPlainInQuotes (c : Char) : Bool :=
  c ∉ ['"', '\\', '$', '`']

-- The number of ends of lines in a text.
def lineEnds (cs : List Char) : Nat :=
  cs.count '\n'

-- What double quotes hold. They keep an empty field, but not for parameters that there are not.
def inQuotes : Word → Word
  | [.param "@" .plain true] => [.param "@" .plain true]
  | w => .text "" true :: w

-- how many lines end in the whole text
variable (total : Nat)

mutual

-- The parts of a word up to its end.
def parts (fuel : Nat) (read : List Part) (cs : List Char) : Option (Word × List Char) :=
  match fuel, cs with
  | 0, _ => none
  | _, [] => some (read.reverse, [])
  | fuel + 1, '\'' :: rest => do
    let (s, rest) ← untilQuote '\'' rest
    parts fuel (.text s true :: read) rest
  | fuel + 1, '"' :: rest => do
    let (inside, rest) ← quotedParts fuel [] rest
    parts fuel ((inQuotes inside).reverse ++ read) rest
  | fuel + 1, '\\' :: '\n' :: rest => parts fuel read rest
  | fuel + 1, '\\' :: c :: rest => parts fuel (.text c.toString true :: read) rest
  | fuel + 1, '$' :: rest => do
    let (p, rest) ← dollar fuel false rest
    parts fuel (p :: read) rest
  | fuel + 1, '`' :: rest => do
    let (c, rest) ← backquoted fuel false rest
    parts fuel (.capture c false :: read) rest
  | fuel + 1, c :: rest =>
    if isMeta c then some (read.reverse, cs)
    else
      let plain := (c :: rest).takeWhile isPlain
      if plain.isEmpty then parts fuel (.text c.toString false :: read) rest
      else parts fuel (.text (String.ofList plain) false :: read) (cs.drop plain.length)

-- The parts up to a closing double quote.
def quotedParts (fuel : Nat) (read : List Part) (cs : List Char) : Option (Word × List Char) :=
  match fuel, cs with
  | 0, _ | _, [] => none
  | _, '"' :: rest => some (read.reverse, rest)
  | fuel + 1, '\\' :: '\n' :: rest => quotedParts fuel read rest
  | fuel + 1, '\\' :: c :: rest =>
    let s := if c ∈ ['$', '`', '"', '\\'] then c.toString else String.ofList ['\\', c]
    quotedParts fuel (.text s true :: read) rest
  | fuel + 1, '$' :: rest => do
    let (p, rest) ← dollar fuel true rest
    quotedParts fuel (p :: read) rest
  | fuel + 1, '`' :: rest => do
    let (c, rest) ← backquoted fuel true rest
    quotedParts fuel (.capture c true :: read) rest
  | fuel + 1, c :: rest =>
    let plain := (c :: rest).takeWhile isPlainInQuotes
    if plain.isEmpty then quotedParts fuel (.text c.toString true :: read) rest
    else quotedParts fuel (.text (String.ofList plain) true :: read) (cs.drop plain.length)

-- The commands up to a back quote. They have lines of their own, which begin with the first.
def backquoted (fuel : Nat) (quoted : Bool) (cs : List Char) : Option (Command × List Char) :=
  match fuel with
  | 0 => none
  | fuel + 1 => do
    let (inside, rest) ← untilBackquote quoted [] cs
    let (c, left) ← list fuel (inside ++ List.replicate (total - lineEnds inside) '\n')
    match skipGaps left with
    | [] => return (c, rest)
    | _ => none

-- What follows a dollar sign.
def dollar (fuel : Nat) (quoted : Bool) (cs : List Char) : Option (Part × List Char) :=
  match fuel, cs with
  | 0, _ => none
  | fuel + 1, '(' :: '(' :: rest => do
    let (inside, rest) ← untilBrackets 0 [] rest
    let (w, _) ← quotedParts fuel [] (inside ++ ['"'])
    return (.arith w quoted, rest)
  | fuel + 1, '(' :: rest => do
    let (c, rest) ← list fuel rest
    match skipGaps rest with
    | ')' :: rest => return (.capture c quoted, rest)
    | _ => none
  | fuel + 1, '{' :: '#' :: rest =>
    match paramName rest with
    | ("", _) => braced fuel quoted ('#' :: rest)
    | (n, '}' :: rest) => some (.param n .length quoted, rest)
    | _ => none
  | fuel + 1, '{' :: rest => braced fuel quoted rest
  | _, cs =>
    match cs with
    | c :: rest =>
      if isSpecial c then some (.param c.toString .plain quoted, rest)
      else match name cs with
        | ("", _) => some (.text "$" quoted, cs)
        | (n, rest) => some (.param n .plain quoted, rest)
    | [] => some (.text "$" quoted, [])

-- What stands in braces after a dollar sign.
def braced (fuel : Nat) (quoted : Bool) (cs : List Char) : Option (Part × List Char) :=
  match fuel with
  | 0 => none
  | fuel + 1 =>
    let (n, rest) := paramName cs
    let choice (kind : Choice) (colon : Bool) (rest : List Char) : Option (Part × List Char) := do
      let (w, rest) ← bracedWord fuel quoted [] rest
      return (.param n (.choice kind colon w) quoted, rest)
    let trim (atEnd longest : Bool) (rest : List Char) : Option (Part × List Char) := do
      let (w, rest) ← bracedWord fuel false [] rest
      return (.param n (.trim atEnd longest w) quoted, rest)
    match rest with
    | '}' :: rest => some (.param n .plain quoted, rest)
    | ':' :: '-' :: rest => choice .default true rest
    | '-' :: rest => choice .default false rest
    | ':' :: '=' :: rest => choice .assign true rest
    | '=' :: rest => choice .assign false rest
    | ':' :: '+' :: rest => choice .alternative true rest
    | '+' :: rest => choice .alternative false rest
    | ':' :: '?' :: rest => choice .demand true rest
    | '?' :: rest => choice .demand false rest
    | '%' :: '%' :: rest => trim true true rest
    | '%' :: rest => trim true false rest
    | '#' :: '#' :: rest => trim false true rest
    | '#' :: rest => trim false false rest
    | _ => none

-- A word up to a closing brace. Within double quotes a single quote stands for itself.
def bracedWord (fuel : Nat) (quoted : Bool) (read : List Part) (cs : List Char) :
    Option (Word × List Char) :=
  match fuel, cs with
  | 0, _ | _, [] => none
  | _, '}' :: rest => some (read.reverse, rest)
  | fuel + 1, '\'' :: rest =>
    if quoted then bracedWord fuel quoted (.text "'" true :: read) rest
    else do
      let (s, rest) ← untilQuote '\'' rest
      bracedWord fuel quoted (.text s true :: read) rest
  | fuel + 1, '"' :: rest => do
    let (inside, rest) ← quotedParts fuel [] rest
    bracedWord fuel quoted ((inQuotes inside).reverse ++ read) rest
  | fuel + 1, '\\' :: c :: rest =>
    let s := if quoted && c ∉ ['$', '`', '"', '\\', '}'] then String.ofList ['\\', c]
      else c.toString
    bracedWord fuel quoted (.text s true :: read) rest
  | fuel + 1, '$' :: rest => do
    let (p, rest) ← dollar fuel quoted rest
    bracedWord fuel quoted (p :: read) rest
  | fuel + 1, '`' :: rest => do
    let (c, rest) ← backquoted fuel quoted rest
    bracedWord fuel quoted (.capture c quoted :: read) rest
  | fuel + 1, c :: rest => bracedWord fuel quoted (.value c.toString quoted :: read) rest

-- Commands up to a closing word or bracket.
def list (fuel : Nat) (cs : List Char) : Option (Command × List Char) :=
  match fuel with
  | 0 => none
  | fuel + 1 =>
    let cs := skipGaps cs
    if atEnd cs then some (.skip, cs)
    else do
      let (c, cs) ← andOr fuel cs
      let follow (c : Command) (rest : List Char) : Option (Command × List Char) := do
        let (d, rest) ← list fuel rest
        return (.seq c d, rest)
      match gap cs with
      | ';' :: ';' :: rest => return (c, ';' :: ';' :: rest)
      | ';' :: rest | '\n' :: rest => follow c rest
      | '&' :: rest => follow (.background c) rest
      | cs => return (c, cs)

def andOr (fuel : Nat) (cs : List Char) : Option (Command × List Char) :=
  match fuel with
  | 0 => none
  | fuel + 1 => do
    let (c, cs) ← pipeline fuel cs
    andOrRest fuel c cs

def andOrRest (fuel : Nat) (c : Command) (cs : List Char) : Option (Command × List Char) :=
  match fuel with
  | 0 => none
  | fuel + 1 =>
    match gap cs with
    | '&' :: '&' :: rest => do
      let (d, rest) ← pipeline fuel (skipGaps rest)
      andOrRest fuel (.both c d) rest
    | '|' :: '|' :: rest => do
      let (d, rest) ← pipeline fuel (skipGaps rest)
      andOrRest fuel (.either c d) rest
    | cs => some (c, cs)

def pipeline (fuel : Nat) (cs : List Char) : Option (Command × List Char) :=
  match fuel with
  | 0 => none
  | fuel + 1 =>
    match keyword "!" cs with
    | some rest => do
      let (c, rest) ← joined fuel (skipGaps rest)
      return (.negate c, rest)
    | none => joined fuel cs

def joined (fuel : Nat) (cs : List Char) : Option (Command × List Char) :=
  match fuel with
  | 0 => none
  | fuel + 1 => do
    let (stages, rest) ← stages fuel cs
    match stages with
    | [c] => return (c, rest)
    | _ => return (.pipeline stages, rest)

def stages (fuel : Nat) (cs : List Char) : Option (List Command × List Char) :=
  match fuel with
  | 0 => none
  | fuel + 1 => do
    let (c, rest) ← command fuel cs
    match gap rest with
    | '|' :: '|' :: rest => return ([c], '|' :: '|' :: rest)
    | '|' :: rest =>
      let (more, rest) ← stages fuel (skipGaps rest)
      return (c :: more, rest)
    | rest => return ([c], rest)

def command (fuel : Nat) (cs : List Char) : Option (Command × List Char) :=
  match fuel with
  | 0 => none
  | fuel + 1 => do
    let (c, rest) ← byForm fuel cs
    return (.onLine (total + 1 - lineEnds cs) c, rest)

-- A command by the form that its first word or sign announces.
def byForm (fuel : Nat) (cs : List Char) : Option (Command × List Char) :=
  match fuel with
  | 0 => none
  | fuel + 1 =>
    let redirected (c : Command) (rest : List Char) : Option (Command × List Char) := do
      let (rs, rest) ← redirects fuel [] rest
      return (if rs.isEmpty then c else .group c rs, rest)
    match plainWord cs with
    | ("if", rest) => do
      let (c, rest) ← ifRest fuel rest
      redirected c rest
    | ("while", rest) => do
      let (c, rest) ← loopRest fuel false rest
      redirected c rest
    | ("until", rest) => do
      let (c, rest) ← loopRest fuel true rest
      redirected c rest
    | ("for", rest) => do
      let (c, rest) ← forRest fuel rest
      redirected c rest
    | ("case", rest) => do
      let (c, rest) ← caseRest fuel rest
      redirected c rest
    | ("\x7b", rest) => do
      let (c, rest) ← list fuel rest
      let rest ← keyword "\x7d" rest
      redirected c rest
    | _ =>
      match cs with
      | '(' :: rest => do
        let (c, rest) ← list fuel rest
        match skipGaps rest with
        | ')' :: rest =>
          let (rs, rest) ← redirects fuel [] rest
          return (.subshell c rs, rest)
        | _ => none
      | _ =>
        match functionHead? cs with
        | some (n, rest) => do
          let (c, rest) ← command fuel (skipGaps rest)
          return (.define n c, rest)
        | none =>
          if (plainWord cs).1 ∈ unexpected then none else simple fuel [] [] [] cs

def ifRest (fuel : Nat) (cs : List Char) : Option (Command × List Char) :=
  match fuel with
  | 0 => none
  | fuel + 1 => do
    let (test, cs) ← list fuel cs
    let cs ← keyword "then" cs
    let (yes, cs) ← list fuel cs
    match plainWord (skipGaps cs) with
    | ("fi", rest) => return (.cond test yes .skip, rest)
    | ("else", rest) =>
      let (no, rest) ← list fuel rest
      let rest ← keyword "fi" rest
      return (.cond test yes no, rest)
    | ("elif", rest) =>
      let (no, rest) ← ifRest fuel rest
      return (.cond test yes no, rest)
    | _ => none

def loopRest (fuel : Nat) (untilTrue : Bool) (cs : List Char) : Option (Command × List Char) :=
  match fuel with
  | 0 => none
  | fuel + 1 => do
    let (test, cs) ← list fuel cs
    let (body, cs) ← doGroup fuel cs
    return (.loop untilTrue test body, cs)

def doGroup (fuel : Nat) (cs : List Char) : Option (Command × List Char) :=
  match fuel with
  | 0 => none
  | fuel + 1 => do
    let cs ← keyword "do" cs
    let (body, cs) ← list fuel cs
    let cs ← keyword "done" cs
    return (body, cs)

def forRest (fuel : Nat) (cs : List Char) : Option (Command × List Char) :=
  match fuel with
  | 0 => none
  | fuel + 1 => do
    let (n, cs) := name (blanks cs)
    let semicolon (cs : List Char) : List Char :=
      match gap cs with
      | ';' :: rest => rest
      | cs => cs
    match keyword "in" cs with
    | some rest =>
      let (ws, rest) ← words fuel [] rest
      let (body, rest) ← doGroup fuel (semicolon rest)
      return (.each n (some ws) body, rest)
    | none =>
      let (body, rest) ← doGroup fuel (semicolon cs)
      return (.each n none body, rest)

-- Words up to the end of a line or a semicolon.
def words (fuel : Nat) (read : List Word) (cs : List Char) : Option (List Word × List Char) :=
  match fuel with
  | 0 => none
  | fuel + 1 =>
    match gap cs with
    | [] => some (read.reverse, [])
    | c :: rest =>
      if isMeta c then some (read.reverse, c :: rest)
      else do
        let (w, rest) ← parts fuel [] (c :: rest)
        words fuel (w :: read) rest

def caseRest (fuel : Nat) (cs : List Char) : Option (Command × List Char) :=
  match fuel with
  | 0 => none
  | fuel + 1 => do
    let (w, cs) ← parts fuel [] (blanks cs)
    let cs ← keyword "in" cs
    let (bs, cs) ← branches fuel [] cs
    return (.branch w bs, cs)

def branches (fuel : Nat) (read : List (List Word × Command)) (cs : List Char) :
    Option (List (List Word × Command) × List Char) :=
  match fuel with
  | 0 => none
  | fuel + 1 =>
    let cs := skipGaps cs
    match keyword "esac" cs with
    | some rest => some (read.reverse, rest)
    | none => do
      let cs := match cs with
        | '(' :: rest => rest
        | cs => cs
      let (ps, cs) ← patterns fuel [] cs
      let (body, cs) ← list fuel cs
      match skipGaps cs with
      | ';' :: ';' :: rest => branches fuel ((ps, body) :: read) rest
      | cs =>
        let rest ← keyword "esac" cs
        return (((ps, body) :: read).reverse, rest)

def patterns (fuel : Nat) (read : List Word) (cs : List Char) : Option (List Word × List Char) :=
  match fuel with
  | 0 => none
  | fuel + 1 => do
    let (w, cs) ← parts fuel [] (blanks cs)
    match blanks cs with
    | '|' :: rest => patterns fuel (w :: read) rest
    | ')' :: rest => return ((w :: read).reverse, rest)
    | _ => none

def redirects (fuel : Nat) (read : List Redirect) (cs : List Char) :
    Option (List Redirect × List Char) :=
  match fuel with
  | 0 => none
  | fuel + 1 =>
    let here := gap cs
    match redirectHead? here with
    | some (fd, direction, rest) => do
      let (w, rest) ← parts fuel [] (blanks rest)
      redirects fuel (.mk fd direction w :: read) rest
    | none => some (read.reverse, here)

-- Assignments, words and redirections.
def simple (fuel : Nat) (as : List (String × Word)) (ws : List Word) (rs : List Redirect)
    (cs : List Char) : Option (Command × List Char) :=
  match fuel with
  | 0 => none
  | fuel + 1 =>
    let here := gap cs
    let finished : Option (Command × List Char) :=
      if as.isEmpty && ws.isEmpty && rs.isEmpty then none
      else some (.simple as.reverse ws.reverse rs.reverse, here)
    match redirectHead? here with
    | some (fd, direction, rest) => do
      let (w, rest) ← parts fuel [] (blanks rest)
      simple fuel as ws (.mk fd direction w :: rs) rest
    | none =>
      match here with
      | [] => finished
      | c :: _ =>
        if isMeta c then finished
        else
          match (if ws.isEmpty then assignment? here else none) with
          | some (n, rest) => do
            let (w, rest) ← parts fuel [] rest
            simple fuel ((n, w) :: as) ws rs rest
          | none => do
            let (w, rest) ← parts fuel [] here
            simple fuel as (w :: ws) rs rest

end

end Parser

-- The commands of a whole script, if it is one.
def parse? (script : String) : Option Command := do
  let cs := withHereTexts script.toList
  let (c, rest) ← Parser.list (Parser.lineEnds cs) (8 * cs.length + 64) cs
  match Parser.skipGaps rest with
  | [] => return c
  | _ => none

-- The commands of as many lines as there are before the first mistake, and whether there is
-- none.
def parseLines (script : String) : Command × Bool :=
  match parse? script with
  | some c => (c, true)
  | none =>
    let lines := script.splitOn "\n"
    let shorter := (List.range lines.length).reverse.map fun n =>
      parse? (String.intercalate "\n" (lines.take n))
    ((shorter.findSome? id).getD .skip, false)

end Shell

end EngineBench
