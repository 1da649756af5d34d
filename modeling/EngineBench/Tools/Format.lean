import EngineBench.Numeric.Numeral
import EngineBench.Numeric.Scientific
import EngineBench.Tools.Writing

namespace EngineBench

namespace Tools

namespace Format

-- A width or a number of places: none, one that is written, or one that an argument gives.
inductive Size
  | none
  | fixed (n : Nat)
  | argument
  deriving DecidableEq, Repr

structure Spec where
  flags : List Char
  width : Size
  precision : Size
  letter : Char
  -- How it is written.
  text : String
  deriving DecidableEq, Repr

inductive Piece
  | text (cs : List Char)
  | spec (s : Spec)
  -- A specification without a letter.
  | unfinished
  deriving DecidableEq, Repr

def isFlag (c : Char) : Bool :=
  c ∈ ['#', '-', '+', ' ', '0']

-- The size in front of a text, and what follows it.
def size (cs : List Char) : Size × List Char :=
  match cs with
  | '*' :: rest => (.argument, rest)
  | _ =>
    let digits := cs.takeWhile fun c => c = '*' || c.isDigit
    (match (String.ofList digits).toNat? with
      | some n => .fixed n
      | none => .none, cs.drop digits.length)

-- The specification behind a percent sign, and what follows it.
def spec? (cs : List Char) : Option (Spec × List Char) :=
  let flags := cs.takeWhile isFlag
  let (width, rest) := size (cs.drop flags.length)
  let (precision, rest) := match rest with
    | '.' :: rest =>
      match size rest with
      | (.none, rest) => (Size.fixed 0, rest)
      | found => found
    | _ => (.none, rest)
  match rest with
  | [] => none
  | letter :: rest =>
    let text := String.ofList ('%' :: cs.take (cs.length - rest.length))
    some ({ flags, width, precision, letter, text }, rest)

-- The pieces of a format, at most `fuel` of them.
def pieces : Nat → List Char → List Piece
  | 0, _ | _, [] => []
  | fuel + 1, '\\' :: rest =>
    match Escape.plain rest with
    | (c, rest) => .text [c] :: pieces fuel rest
  | fuel + 1, '%' :: '%' :: rest => .text ['%'] :: pieces fuel rest
  | fuel + 1, '%' :: rest =>
    match spec? rest with
    | some (s, rest) => .spec s :: pieces fuel rest
    | none => [.unfinished]
  | fuel + 1, c :: rest => .text [c] :: pieces fuel rest

-- How one argument is set: to the left, with zeros, and in how many columns.
structure Layout where
  left : Bool
  zeros : Bool
  plus : Bool
  blank : Bool
  marked : Bool
  width : Nat
  precision : Option Nat
  deriving DecidableEq, Repr

namespace Layout

def padded (l : Layout) (s : String) : String :=
  let fill := String.ofList (List.replicate (l.width - s.length) ' ')
  if l.left then s ++ fill else fill ++ s

def cut (l : Layout) (s : String) : String :=
  match l.precision with
  | some n => (s.take n).toString
  | none => s

def sign (l : Layout) (negative : Bool) : String :=
  if negative then "-" else if l.plus then "+" else if l.blank then " " else ""

-- A number: what stands before the digits, and the digits.
def number (l : Layout) (zeros : Bool) (before digits : String) : String :=
  let digits :=
    if zeros && !l.left then Fixed.padLeft (l.width - before.length) '0' digits else digits
  l.padded (before ++ digits)

-- A whole number; the number of places is that of its digits.
def whole (l : Layout) (before digits : String) : String :=
  let digits := match l.precision with
    | some n => Fixed.padLeft n '0' (if digits = "0" then "" else digits)
    | none => digits
  l.number (l.zeros && l.precision.isNone) before digits

end Layout

-- What is left to write of, what has been written, and what went wrong.
structure Progress where
  args : List String
  out : String
  complaints : List String
  isOver : Bool
  status : Nat
  deriving DecidableEq, Repr

namespace Progress

def write (s : String) (p : Progress) : Progress :=
  { p with out := p.out ++ s }

def complain (reason : String) (p : Progress) : Progress :=
  { p with complaints := p.complaints ++ [reason], status := 1 }

-- Ends the output for good.
def fail (reason : String) (p : Progress) : Progress :=
  { p.complain reason with isOver := true, status := 2 }

def next (p : Progress) : Option String × Progress :=
  (p.args.head?, { p with args := p.args.tail })

-- A character that a number may be given by, behind a quote.
def quoted? (s : String) : Option Nat :=
  match s.toList with
  | '"' :: rest | '\'' :: rest => some ((rest.head?.map Char.toNat).getD 0)
  | _ => none

-- The next argument as a number, read by `value` if it is not a quoted character.
def numeral {α : Type} (zero : α) (ofQuoted : Nat → α)
    (value : String → Option (α × List Char × Bool)) (p : Progress) : α × Progress :=
  match p.next with
  | (none, p) => (zero, p)
  | (some s, p) =>
    match quoted? s, value s with
    | some c, _ => (ofQuoted c, p)
    | none, none =>
      (zero, if s.isEmpty then p else p.complain s!"{s}: expected numeric value")
    | none, some (a, [], true) => (a, p)
    | none, some (a, [], false) => (a, p.complain s!"{s}: Numerical result out of range")
    | none, some (a, _, _) => (a, p.complain s!"{s}: not completely converted")

def whole : Progress → Int × Progress :=
  numeral 0 Int.ofNat fun s => (Numeral.read? Numeral.anyBase? s).map fun n =>
    (n.clamped, n.rest, n.clamped = n.value)

-- The next argument as 64 bits without a sign.
def bits : Progress → Nat × Progress :=
  numeral 0 id fun s => (Numeral.read? Numeral.anyBase? s).map fun n =>
    (n.clampedBits, n.rest, n.magnitude < Nat.pow 2 64)

-- A width or a number of places, if there is one.
def size (s : Size) (p : Progress) : Option Int × Progress :=
  match s with
  | .none => (none, p)
  | .fixed n => (some n, p)
  | .argument =>
    let (n, p) := p.whole
    (some n, p)

def layout (s : Spec) (p : Progress) : Layout × Progress :=
  let (width, p) := p.size s.width
  let (precision, p) := p.size s.precision
  let given := width.getD 0
  ({ left := '-' ∈ s.flags || given < 0
     zeros := '0' ∈ s.flags
     plus := '+' ∈ s.flags
     blank := ' ' ∈ s.flags
     marked := '#' ∈ s.flags
     width := given.natAbs
     precision := precision.bind Int.toNat? }, p)

end Progress

-- The text of a decimal number with a point and an exponent, and what follows it.
def decimal? (cs : List Char) : Option (Float × List Char) :=
  let whole := cs.takeWhile Char.isDigit
  let rest := cs.drop whole.length
  let (decimals, rest) := match rest with
    | '.' :: more => (more.takeWhile Char.isDigit, more.dropWhile Char.isDigit)
    | _ => ([], rest)
  if whole.isEmpty && decimals.isEmpty then none
  else
    let (power, rest) := match rest with
      | e :: more =>
        let (negative, digits) := Numeral.splitSign more
        match Numeral.decimal? digits with
        | some (n, rest') =>
          if e = 'e' || e = 'E' then ((if negative then -(n : Int) else n), rest') else (0, rest)
        | none => ((0 : Int), rest)
      | [] => (0, rest)
    let mantissa := ((String.ofList (whole ++ decimals)).toNat?).getD 0
    let power := max (-2000) (min 2000 power) - decimals.length
    some (Float.ofScientific mantissa (power < 0) power.natAbs, rest)

def float? (s : String) : Option (Float × List Char × Bool) :=
  let (negative, cs) := Numeral.splitSign (s.toList.dropWhile Numeral.isBlank)
  (decimal? cs).map fun (x, rest) => (if negative then -x else x, rest, x.isFinite)

-- A number with decimals.
def decimals (l : Layout) (letter : Char) (x : Float) : String :=
  let places := l.precision.getD 6
  match Binary64.ofFloat x with
  | .nan => l.padded "nan"
  | .infinite negative => l.padded (l.sign negative ++ "inf")
  | .finite negative mantissa exponent =>
    let digits := match letter with
      | 'e' => Scientific.text places mantissa exponent
      | 'g' => Scientific.shorter places mantissa exponent
      | _ => Fixed.pointed places (Fixed.scaled places mantissa exponent)
    l.number l.zeros (l.sign negative) digits

def digitsIn (base n : Nat) : String :=
  String.ofList (Nat.toDigits base n)

-- Writes an argument as a specification wants it.
def Spec.write (s : Spec) (p : Progress) : Progress :=
  let (l, p) := p.layout s
  let unsigned (base : Nat) (before : String) : Progress :=
    let (n, p) := p.bits
    let before := if l.marked && n ≠ 0 then before else ""
    p.write (l.whole before (digitsIn base n))
  let signed : Progress :=
    let (n, p) := p.whole
    p.write (l.whole (l.sign (n < 0)) (toString n.natAbs))
  let floating (letter : Char) : Progress × String :=
    let (x, p) := p.numeral (0 : Float) (fun n => n.toFloat) float?
    (p, decimals l letter x)
  match s.letter with
  | 'd' | 'i' => signed
  | 'u' => unsigned 10 ""
  | 'o' => unsigned 8 "0"
  | 'x' => unsigned 16 "0x"
  | 'X' =>
    let (n, p) := p.bits
    let before := if l.marked && n ≠ 0 then "0X" else ""
    p.write (l.whole before (digitsIn 16 n).toUpper)
  | 'c' =>
    let (arg, p) := p.next
    p.write (l.padded (if (arg.getD "").isEmpty then "\x00" else ((arg.getD "").take 1).toString))
  | 's' =>
    let (arg, p) := p.next
    p.write (l.padded (l.cut (arg.getD "")))
  | 'b' =>
    let (arg, p) := p.next
    let (cs, stopped) := Escape.expand (arg.getD "").toList
    let p := p.write (l.padded (l.cut (String.ofList cs)))
    { p with isOver := stopped }
  | 'f' | 'e' | 'g' =>
    let (p, s) := floating s.letter
    p.write s
  | 'F' | 'E' | 'G' =>
    let (p, s) := floating s.letter.toLower
    p.write s.toUpper
  | _ => p.fail s!"{s.text}: invalid directive"

def Piece.write (piece : Piece) (p : Progress) : Progress :=
  if p.isOver then p
  else match piece with
    | text cs => p.write (String.ofList cs)
    | spec s => s.write p
    | unfinished => p.fail "missing format character"

-- The format again and again until no argument is left, or none has been taken.
def passes (ps : List Piece) : Nat → Progress → Progress
  | 0, p => p
  | fuel + 1, p =>
    let done := ps.foldl (fun p piece => piece.write p) p
    if done.isOver || done.args.isEmpty || done.args.length = p.args.length then done
    else passes ps fuel done

end Format

-- Writes arguments with the format that comes first.
def printf (c : Call) : Answer :=
  let run (format : String) (args : List String) : Answer :=
    let p := Format.passes (Format.pieces (format.length + 1) format.toList) (args.length + 1)
      { args, out := "", complaints := [], isOver := false, status := 0 }
    { c.printing p.out with
      err := String.join (p.complaints.map fun reason => s!"{c.name}: {reason}\n")
      status := p.status }
  let usage : Answer := c.failing 2 "usage: printf format [arg ...]"
  match c.args with
  | [] => usage
  | first :: rest =>
    if first = "--" then match rest with
      | [] => usage
      | format :: args => run format args
    else match first.toList with
      | '-' :: letter :: _ => c.failing 2 s!"Illegal option -{letter}"
      | _ => run first rest

end Tools

end EngineBench
