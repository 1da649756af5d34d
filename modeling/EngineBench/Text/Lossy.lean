namespace EngineBench

namespace Text

namespace Lossy

def replacement : Char := Char.ofNat 0xFFFD

def inRange (low high : Nat) (b : UInt8) : Bool :=
  low ≤ b.toNat && b.toNat ≤ high

-- How a first byte begins: the bits it brings, the range of the second byte, and how many plain
-- bytes follow the second.
def lead? (b : UInt8) : Option (Nat × (Nat × Nat) × Nat) :=
  let n := b.toNat
  if n < 0xC2 then none
  else if n < 0xE0 then some (n - 0xC0, (0x80, 0xBF), 0)
  else if n = 0xE0 then some (0, (0xA0, 0xBF), 1)
  else if n = 0xED then some (0xD, (0x80, 0x9F), 1)
  else if n < 0xF0 then some (n - 0xE0, (0x80, 0xBF), 1)
  else if n = 0xF0 then some (0, (0x90, 0xBF), 2)
  else if n < 0xF4 then some (n - 0xF0, (0x80, 0xBF), 2)
  else if n = 0xF4 then some (4, (0x80, 0x8F), 2)
  else none

-- What is still expected of a character that has begun.
structure Pending where
  bits : Nat
  next : Nat × Nat
  left : Nat

def begin (b : UInt8) : List Char × Option Pending :=
  if b.toNat < 0x80 then ([Char.ofNat b.toNat], none)
  else match lead? b with
    | some (bits, next, left) => ([], some ⟨bits, next, left⟩)
    | none => ([replacement], none)

def feed (p : Option Pending) (b : UInt8) : List Char × Option Pending :=
  match p with
  | none => begin b
  | some p =>
    if inRange p.next.1 p.next.2 b then
      let bits := p.bits * 64 + (b.toNat - 0x80)
      match p.left with
      | 0 => ([Char.ofNat bits], none)
      | left + 1 => ([], some ⟨bits, (0x80, 0xBF), left⟩)
    else
      let (chars, next) := begin b
      (replacement :: chars, next)

-- The characters read so far, the last one first, and what has begun.
def run (bytes : List UInt8) : List Char × Option Pending :=
  bytes.foldl
    (fun (done, p) b => let (chars, p) := feed p b; (chars.reverse ++ done, p)) ([], none)

def decode (bytes : ByteArray) : String :=
  match String.fromUTF8? bytes with
  | some s => s
  | none =>
    let (chars, p) := run bytes.toList
    String.ofList (match p with
      | none => chars.reverse
      | some _ => (replacement :: chars).reverse)

end Lossy

end Text

end EngineBench
