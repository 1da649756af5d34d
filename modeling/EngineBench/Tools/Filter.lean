import EngineBench.Numeric.Numeral
import EngineBench.Tools.Call

namespace EngineBench

namespace Tools

-- Reads files, or the input, and writes what a function makes of the whole text.
def filter (c : Call) (operands : List String) (f : String → String) : Answer :=
  let (s, a) := gather c operands
  { a with out := f s }

def byLines (f : List String → List String) (s : String) : String :=
  let (lines, ended) := linesOf s
  ofLines (f lines) ended

def cat (c : Call) : Answer :=
  filter c (options [] c.args).2 id

def countWords (s : String) : Nat :=
  (s.toList.foldl (fun (n, inside) c =>
    if Numeral.isBlank c then (n, false) else (if inside then n else n + 1, true)) (0, false)).1

def padded (width n : Nat) : String :=
  let digits := toString n
  String.ofList (List.replicate (width - digits.length) ' ') ++ digits

-- Counts of lines, words and bytes; several files make a total. Columns are as wide as the sum of
-- the sizes, or seven wide where there is no file to ask for its size.
def wc (c : Call) : Answer :=
  let (os, operands) := options [] c.args
  let asked (letter : Char) : Bool :=
    hasOption letter os || letter = 'c' && hasOption 'm' os
  let letters := if os.isEmpty then ['l', 'w', 'c'] else ['l', 'w', 'c'].filter asked
  let counts (s : String) : List Nat := letters.map fun
    | 'l' => s.toList.count '\n'
    | 'w' => countWords s
    | _ => s.length
  let line (width : Nat) (counts : List Nat) (name : String) : String :=
    String.intercalate " " (counts.map (padded width))
      ++ (if name.isEmpty then "" else " " ++ name) ++ "\n"
  let texts := operands.map fun o => (o, readFile c o)
  let total := (texts.map fun (_, t) => (t.toOption.getD "").length).foldr (· + ·) 0
  let single := letters.length = 1 && operands.length ≤ 1
  let width := if single then 1 else if operands.isEmpty then 7 else (toString total).length
  match operands with
  | [] => c.printing (line width (counts c.input) "")
  | _ =>
    let a := texts.foldl (fun a (operand, text) =>
      match text with
      | .ok s => { a with out := a.out ++ line width (counts s) operand }
      | .error e => a.complain c.name s!"{operand}: {e.reason}") c.quiet
    if operands.length = 1 then a
    else
      let all := texts.map fun (_, t) => counts (t.toOption.getD "")
      let sums := all.foldl (List.zipWith (· + ·)) (letters.map fun _ => 0)
      { a with out := a.out ++ line width sums "total" }

-- A first option made of a number alone asks for that many lines.
def plainCount (args : List String) : List String :=
  match (args.head?.getD "").toList with
  | '-' :: d :: rest =>
    if d.isDigit then ("-n" ++ String.ofList (d :: rest)) :: args.tail else args
  | _ => args

-- How many lines or bytes from one end: a number, and whether it came with a sign.
def amount (s : String) : Option Char × Nat :=
  match s.toList.dropWhile Numeral.isBlank with
  | '-' :: rest => (some '-', (String.ofList rest).toNat?.getD 0)
  | '+' :: rest => (some '+', (String.ofList rest).toNat?.getD 0)
  | rest => (none, (String.ofList rest).toNat?.getD 0)

def takeSome {α : Type} (count : Option Char × Nat) (l : List α) : List α :=
  match count with
  | (some '-', n) => l.take (l.length - n)
  | (_, n) => l.take n

def lastSome {α : Type} (count : Option Char × Nat) (l : List α) : List α :=
  match count with
  | (some '+', n) => l.drop (n - 1)
  | (_, n) => l.drop (l.length - n)

-- Keeps some lines, each with the end it had.
def someLines (keep : List String → List String) (s : String) : String :=
  let (lines, ended) := linesOf s
  let marked := lines.dropLast.map (· ++ "\n")
    ++ (lines.drop (lines.length - 1)).map fun l => if ended then l ++ "\n" else l
  String.join (keep marked)

def oneEnd (c : Call) (keep : {α : Type} → Option Char × Nat → List α → List α) : Answer :=
  let (os, operands) := options ['n', 'c'] (plainCount c.args)
  filter c operands fun s =>
    match optionValue? 'c' os with
    | some n => String.ofList (keep (amount n) s.toList)
    | none => someLines (keep (amount ((optionValue? 'n' os).getD "10"))) s

def head (c : Call) : Answer :=
  oneEnd c takeSome

def tail (c : Call) : Answer :=
  oneEnd c lastSome

-- Whether this much input is all that a look at its beginning needs.
def headHasEnough (args : List String) (input : String) : Bool :=
  let (os, _) := options ['n', 'c'] (plainCount args)
  match optionValue? 'c' os with
  | some n => (amount n).1 ≠ some '-' && (amount n).2 ≤ input.length
  | none =>
    let n := amount ((optionValue? 'n' os).getD "10")
    n.1 ≠ some '-' && n.2 ≤ input.toList.count '\n'

-- So many bytes are read at most.
def headLimit? (args : List String) : Option Nat :=
  match optionValue? 'c' (options ['n', 'c'] (plainCount args)).1 with
  | some n => if (amount n).1 = some '-' then none else some (amount n).2
  | none => none

def numberOf (line : String) : Int :=
  let cs := line.toList.dropWhile Numeral.isBlank
  let (sign, cs) := match cs with
    | '-' :: rest => ((-1 : Int), rest)
    | cs => (1, cs)
  sign * ((String.ofList (cs.takeWhile Char.isDigit)).toNat?.getD 0)

def distinct : List String → List String
  | a :: b :: rest => if a = b then distinct (b :: rest) else a :: distinct (b :: rest)
  | l => l

def sort (c : Call) : Answer :=
  let (os, operands) := options ['k', 't', 'o'] c.args
  let a := filter c operands fun s =>
    let before (a b : String) : Bool :=
      if hasOption 'n' os then
        numberOf a < numberOf b || numberOf a = numberOf b && !(b < a)
      else !(b < a)
    let lines := (linesOf s).1.mergeSort before
    let lines := if hasOption 'u' os then distinct lines else lines
    ofLines (if hasOption 'r' os then lines.reverse else lines) true
  -- nothing is sorted unless all can be read
  if a.status = 0 then a else { a with out := "" }

-- Lines with how many times they stand in a row.
def runs (lines : List String) : List (Nat × String) :=
  lines.foldr (fun l acc => match acc with
    | (n, m) :: rest => if l = m then (n + 1, m) :: rest else (1, l) :: acc
    | [] => [(1, l)]) []

def uniq (c : Call) : Answer :=
  let (os, operands) := options [] c.args
  filter c operands fun s =>
    let rows := (runs (linesOf s).1).filter fun (n, _) =>
      !(hasOption 'd' os && n = 1) && !(hasOption 'u' os && 1 < n)
    ofLines (rows.map fun (n, l) =>
      if hasOption 'c' os then padded 7 n ++ " " ++ l else l) true

-- Places given as numbers and ranges between commas.
def inPlaces (spec : String) (n : Nat) : Bool :=
  (spec.splitOn ",").any fun piece => match piece.splitOn "-" with
    | [a] => a.toNat? = some n
    | [a, b] => (a.toNat?.getD 1) ≤ n && (b.isEmpty || n ≤ b.toNat?.getD 0)
    | _ => false

def kept {α : Type} (spec : String) (l : List α) : List α :=
  (l.zipIdx 1).filterMap fun (a, n) => if inPlaces spec n then some a else none

def cut (c : Call) : Answer :=
  let (os, operands) := options ['d', 'f', 'c', 'b'] c.args
  let delimiter := (optionValue? 'd' os).getD "\t"
  let delimited := !hasOption 's' os
  filter c operands fun s => ofLines ((linesOf s).1.filterMap (piece delimiter delimited os)) true
where
  piece (delimiter : String) (keepsWhole : Bool) (os : List (Char × String)) (line : String) :
      Option String :=
    match (optionValue? 'c' os).orElse fun _ => optionValue? 'b' os with
    | some spec => some (String.ofList (kept spec line.toList))
    | none =>
      let fields := line.splitOn delimiter
      if fields.length = 1 then if keepsWhole then some line else none
      else some (String.intercalate delimiter (kept ((optionValue? 'f' os).getD "1-") fields))

-- The characters that a set names: ranges, escapes and classes.
def characters : Nat → List Char → List Char
  | 0, _ | _, [] => []
  | fuel + 1, '[' :: ':' :: rest =>
    let name := String.ofList (rest.takeWhile (· ≠ ':'))
    let after := (rest.drop name.length).drop 2
    let all := (List.range 128).map Char.ofNat
    let cs := match name with
      | "upper" => all.filter Char.isUpper
      | "lower" => all.filter Char.isLower
      | "alpha" => all.filter Char.isAlpha
      | "digit" => all.filter Char.isDigit
      | "alnum" => all.filter Char.isAlphanum
      | "space" => all.filter Numeral.isBlank
      | "blank" => [' ', '\t']
      | "punct" => all.filter fun c => 32 < c.toNat && c.toNat < 127 && !c.isAlphanum
      | _ => []
    cs ++ characters fuel after
  | fuel + 1, '\\' :: 'n' :: rest => '\n' :: characters fuel rest
  | fuel + 1, '\\' :: 't' :: rest => '\t' :: characters fuel rest
  | fuel + 1, '\\' :: '0' :: rest => Char.ofNat 0 :: characters fuel rest
  | fuel + 1, '\\' :: '\\' :: rest => '\\' :: characters fuel rest
  | fuel + 1, low :: '-' :: high :: rest =>
    (List.range (high.toNat + 1 - low.toNat)).map (fun n => Char.ofNat (low.toNat + n))
      ++ characters fuel rest
  | fuel + 1, c :: rest => c :: characters fuel rest

def setOf (s : String) : List Char :=
  characters (s.length + 1) s.toList

def squeezed (set cs : List Char) : List Char :=
  cs.foldr (fun c acc => if acc.head? = some c && c ∈ set then acc else c :: acc) []

def tr (c : Call) : Answer :=
  let (os, sets) := options [] c.args
  let first := setOf (sets.head?.getD "")
  let second := setOf (sets.tail.head?.getD "")
  let inFirst (x : Char) : Bool := (x ∈ first) != (hasOption 'c' os || hasOption 'C' os)
  let changed (x : Char) : Char :=
    match first.idxOf? x with
    | some i => if hasOption 'c' os then x else (second[i]?.getD (second.getLast?.getD x))
    | none => if hasOption 'c' os then second.getLast?.getD x else x
  let cs := c.input.toList
  let cs :=
    if hasOption 'd' os then cs.filter fun x => !inFirst x
    else if sets.length < 2 then cs
    else cs.map changed
  let cs :=
    if hasOption 's' os then squeezed (if sets.length < 2 then first else second) cs else cs
  c.printing (String.ofList cs)

def tac (c : Call) : Answer :=
  filter c (options [] c.args).2 (someLines List.reverse)

def rev (c : Call) : Answer :=
  filter c (options [] c.args).2 <| byLines <| List.map fun line =>
    String.ofList line.toList.reverse

end Tools

end EngineBench
