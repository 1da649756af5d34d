import EngineBench.Numeric.Fixed

namespace EngineBench

namespace Scientific

-- A positive number as a fraction.
def fraction (mantissa : Nat) (exponent : Int) : Nat × Nat :=
  (mantissa * Nat.pow 2 exponent.toNat, Nat.pow 2 (-exponent).toNat)

-- The fraction times a power of ten, rounded.
def scaled (num den : Nat) (power : Int) : Nat :=
  roundDiv (num * Nat.pow 10 power.toNat) (den * Nat.pow 10 (-power).toNat)

-- The power of ten that a positive fraction reaches.
def magnitude (num den : Nat) : Int :=
  let guess := ((toString num).length : Int) - (toString den).length
  if den * Nat.pow 10 guess.toNat ≤ num * Nat.pow 10 (-guess).toNat then guess else guess - 1

-- The digits, one more than there are places, and the power of ten of the first.
def digits (places mantissa : Nat) (exponent : Int) : Nat × Int :=
  if mantissa = 0 then (0, 0)
  else
    let (num, den) := fraction mantissa exponent
    let power := magnitude num den
    let n := scaled num den (places - power)
    if n = Nat.pow 10 (places + 1) then (Nat.pow 10 places, power + 1) else (n, power)

def exponentText (power : Int) : String :=
  (if power < 0 then "e-" else "e+") ++ Fixed.padLeft 2 '0' (toString power.natAbs)

-- The text of a number without its sign.
def text (places mantissa : Nat) (exponent : Int) : String :=
  let (n, power) := digits places mantissa exponent
  Fixed.pointed places n ++ exponentText power

-- Decimals without the zeros at their end.
def withoutZeros (s : String) : String :=
  if s.contains '.' then
    let kept := s.toList.reverse.dropWhile (· = '0')
    String.ofList ((if kept.head? = some '.' then kept.tail else kept).reverse)
  else s

-- The text of a number without its sign, with so many digits that count at most.
def shorter (count mantissa : Nat) (exponent : Int) : String :=
  let count := max 1 count
  let (n, power) := digits (count - 1) mantissa exponent
  if -4 ≤ power && power < count then
    let places := (count - 1 - power).toNat
    withoutZeros (Fixed.pointed places (Fixed.scaled places mantissa exponent))
  else withoutZeros (Fixed.pointed (count - 1) n) ++ exponentText power

end Scientific

end EngineBench
