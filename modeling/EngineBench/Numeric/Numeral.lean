namespace EngineBench

structure Numeral where
  negative : Bool
  magnitude : Nat
  -- What follows the last digit.
  rest : List Char
  deriving DecidableEq, Repr

namespace Numeral

def isBlank (c : Char) : Bool :=
  c ∈ [' ', '\t', '\n', '\x0b', '\x0c', '\r']

def digit? (base : Nat) (c : Char) : Option Nat :=
  let value :=
    if c.isDigit then c.toNat - '0'.toNat
    else if 'a' ≤ c && c ≤ 'f' then c.toNat - 'a'.toNat + 10
    else if 'A' ≤ c && c ≤ 'F' then c.toNat - 'A'.toNat + 10
    else base
  if value < base then some value else none

-- The digits in front of a text as a number, with what follows them, if there are any.
def digits? (base : Nat) (cs : List Char) : Option (Nat × List Char) :=
  let ds := cs.takeWhile fun c => (digit? base c).isSome
  if ds.isEmpty then none
  else some ((ds.filterMap (digit? base)).foldl (fun n d => base * n + d) 0, cs.drop ds.length)

def decimal? : List Char → Option (Nat × List Char) :=
  digits? 10

-- Digits of base eight begin with a zero, of base sixteen with a zero and an `x`.
def anyBase? : List Char → Option (Nat × List Char)
  | '0' :: x :: cs =>
    if x = 'x' || x = 'X' then (digits? 16 cs).orElse fun _ => some (0, x :: cs)
    else digits? 8 ('0' :: x :: cs)
  | cs => decimal? cs

-- The sign in front of a text, and the text behind it.
def splitSign : List Char → Bool × List Char
  | '-' :: cs => (true, cs)
  | '+' :: cs => (false, cs)
  | cs => (false, cs)

-- The number that a text begins with.
def read? (digits? : List Char → Option (Nat × List Char)) (s : String) : Option Numeral :=
  let (negative, cs) := splitSign (s.toList.dropWhile isBlank)
  (digits? cs).map fun (magnitude, rest) => { negative, magnitude, rest }

def value (n : Numeral) : Int :=
  if n.negative then -n.magnitude else n.magnitude

-- The value, or the nearest one of 64 bits with a sign.
def clamped (n : Numeral) : Int :=
  max (-Nat.pow 2 63) (min (Nat.pow 2 63 - 1) n.value)

-- The value as 64 bits without a sign, or the greatest if it needs more.
def clampedBits (n : Numeral) : Nat :=
  if Nat.pow 2 64 ≤ n.magnitude then Nat.pow 2 64 - 1
  else (n.value.emod (Nat.pow 2 64)).toNat

-- A text that is nothing but digits.
def natural? (s : String) : Option Nat :=
  match decimal? s.toList with
  | some (n, []) => some n
  | _ => none

-- A text that is nothing but a number of 64 bits, up to blanks around it.
def whole? (digits? : List Char → Option (Nat × List Char)) (s : String) : Option Int := do
  let n ← read? digits? s
  if n.rest.all isBlank && n.clamped = n.value then some n.value else none

end Numeral

end EngineBench
