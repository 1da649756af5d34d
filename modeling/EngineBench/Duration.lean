import EngineBench.Numeric.Fixed

namespace EngineBench

structure Duration where
  nanos : Nat
  deriving DecidableEq, Repr

namespace Duration

def zero : Duration := ⟨0⟩

def ofSecs (secs : Nat) : Duration := ⟨secs * 1000000000⟩

def ofMillis (millis : Nat) : Duration := ⟨millis * 1000000⟩

def ofParts (secs nanos : Nat) : Duration := ⟨secs * 1000000000 + nanos⟩

def wholeSecs (d : Duration) : Nat := d.nanos / 1000000000

def subsecNanos (d : Duration) : Nat := d.nanos % 1000000000

-- Seconds as binary64: the whole seconds and the rest are converted apart, then added.
def toSeconds (d : Duration) : Float :=
  d.wholeSecs.toUInt64.toFloat + d.subsecNanos.toUInt64.toFloat / 1000000000.0

def min (a b : Duration) : Duration := if a.nanos ≤ b.nanos then a else b

def max (a b : Duration) : Duration := if a.nanos ≤ b.nanos then b else a

instance : LE Duration := ⟨fun a b => a.nanos ≤ b.nanos⟩

instance (a b : Duration) : Decidable (a ≤ b) :=
  inferInstanceAs (Decidable (a.nanos ≤ b.nanos))

-- The digits of `rest`, read as `width` decimals, without trailing zeros.
def decimals (width rest : Nat) : String :=
  let digits := (Fixed.padLeft width '0' (toString rest)).toList
  let kept := (digits.reverse.dropWhile (· = '0')).reverse
  if kept.isEmpty then "" else "." ++ String.ofList kept

-- `n` counted in units of `10 ^ width`.
def inUnit (width : Nat) (unit : String) (n : Nat) : String :=
  toString (n / Nat.pow 10 width) ++ decimals width (n % Nat.pow 10 width) ++ unit

def text (d : Duration) : String :=
  if 1000000000 ≤ d.nanos then inUnit 9 "s" d.nanos
  else if 1000000 ≤ d.nanos then inUnit 6 "ms" d.nanos
  else if 1000 ≤ d.nanos then inUnit 3 "µs" d.nanos
  else inUnit 0 "ns" d.nanos

instance : ToString Duration := ⟨text⟩

end Duration

end EngineBench
