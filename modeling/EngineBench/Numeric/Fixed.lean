namespace EngineBench

-- The quotient rounded to the nearest natural, a tie to the even one.
def roundDiv (num den : Nat) : Nat :=
  let q := num / den
  let r := num % den
  if 2 * r < den then q
  else if den < 2 * r then q + 1
  else if q % 2 = 0 then q
  else q + 1

-- What the bits of a binary64 number stand for.
inductive Binary64
  | nan
  | infinite (negative : Bool)
  | finite (negative : Bool) (mantissa : Nat) (exponent : Int)
  deriving DecidableEq, Repr

namespace Binary64

-- Subnormal numbers share the exponent of the smallest normal ones and lack the leading bit.
def ofBits (bits : Nat) : Binary64 :=
  let negative : Bool := bits / Nat.pow 2 63 % 2 = 1
  let biased : Nat := bits / Nat.pow 2 52 % Nat.pow 2 11
  let fraction : Nat := bits % Nat.pow 2 52
  if biased = 2047 then
    if fraction = 0 then .infinite negative else .nan
  else if biased = 0 then .finite negative fraction (-1074)
  else .finite negative (Nat.pow 2 52 + fraction) ((biased : Int) - 1075)

def ofFloat (x : Float) : Binary64 :=
  ofBits x.toBits.toNat

end Binary64

namespace Fixed

-- The magnitude in units of the last place.
def scaled (places mantissa : Nat) (exponent : Int) : Nat :=
  if 0 ≤ exponent then mantissa * Nat.pow 2 exponent.toNat * Nat.pow 10 places
  else roundDiv (mantissa * Nat.pow 10 places) (Nat.pow 2 (-exponent).toNat)

def padLeft (width : Nat) (fill : Char) (text : String) : String :=
  String.ofList (List.replicate (width - text.length) fill) ++ text

-- A natural written with its last `places` digits after a point.
def pointed (places n : Nat) : String :=
  if places = 0 then toString n
  else
    toString (n / Nat.pow 10 places) ++ "." ++
      padLeft places '0' (toString (n % Nat.pow 10 places))

def signText (negative : Bool) : String :=
  if negative then "-" else ""

-- The sign is kept also where the digits round to zero.
def ofBinary64 (places : Nat) : Binary64 → String
  | .nan => "NaN"
  | .infinite negative => signText negative ++ "inf"
  | .finite negative mantissa exponent =>
    signText negative ++ pointed places (scaled places mantissa exponent)

def ofFloat (places : Nat) (x : Float) : String :=
  ofBinary64 places (.ofFloat x)

end Fixed

end EngineBench
