import EngineBench.Toml.Quotation
import EngineBench.Toml.Value

namespace EngineBench

namespace Toml

-- The digits of a number whose groups single underscores part.
def groupsAreSound : List Char → Bool
  | [] => false
  | '_' :: _ => false
  | _ :: '_' :: rest => groupsAreSound rest
  | [_] => true
  | _ :: c :: rest => groupsAreSound (c :: rest)

def withoutUnderscores (digits : List Char) : List Char :=
  digits.filter (· ≠ '_')

def daysInMonth (year month : Nat) : Nat :=
  if month = 2 then
    if year % 4 = 0 && (year % 100 ≠ 0 || year % 400 = 0) then 29 else 28
  else if month = 4 || month = 6 || month = 9 || month = 11 then 30
  else 31

-- The largest integer of a document; the smallest is one less than its negative.
def maxInteger : Nat := Nat.pow 2 63 - 1

-- Whether `digits * 10 ^ exponent` lies beyond the largest binary64 number, from the point on
-- where rounding to nearest gives infinity.
def overflowsBinary64 (digits : Nat) (exponent : Int) : Bool :=
  let width : Int := (toString digits).length
  let limit := Nat.pow 2 1024 - Nat.pow 2 970
  if digits = 0 then false
  else if 400 < width + exponent then true
  else if width + exponent < 300 then false
  else if 0 ≤ exponent then limit ≤ digits * Nat.pow 10 exponent.toNat
  else limit * Nat.pow 10 (-exponent).toNat ≤ digits

namespace Reader

def digitGroups (allowed : Char → Bool) : Reader (List Char) := do
  let text ← span1 fun c => allowed c || c = '_'
  if groupsAreSound text then return withoutUnderscores text else failure

def radix (opening : String) (base : Nat) (allowed : Char → Bool) : Reader Value := do
  skip opening
  let n := number base (← digitGroups allowed)
  if n ≤ maxInteger then return .integer n else failure

def sign : Reader Bool := do
  if ← skip? "-" then return true
  else
    let _ ← skip? "+"
    return false

-- Digits without a leading zero, unless zero is all there is.
def wholeDigits : Reader (List Char) := do
  let digits ← digitGroups isDigit
  if digits.head? = some '0' && digits.length ≠ 1 then failure else return digits

def decimal : Reader Value := do
  let negative ← sign
  let n := number 10 (← wholeDigits)
  if negative then
    if n ≤ maxInteger + 1 then return .integer (-n) else failure
  else if n ≤ maxInteger then return .integer n
  else failure

def fraction : Reader (List Char) := do
  skip "."
  digitGroups isDigit

def exponent : Reader Int := do
  let _ ← one fun c => c = 'e' || c = 'E'
  let negative ← sign
  let n : Int := number 10 (← digitGroups isDigit)
  return if negative then -n else n

-- A number beyond the largest stands for infinity, which only a negative number may.
def numericFloat : Reader Value := do
  let negative ← sign
  let whole ← wholeDigits
  let decimals ← optional fraction
  let power ← optional exponent
  if decimals.isNone && power.isNone then failure
  let places := (decimals.getD []).length
  let digits := whole ++ decimals.getD []
  if !negative && overflowsBinary64 (number 10 digits) (power.getD 0 - places) then failure
  return .float ((if negative then "-" else "") ++ String.ofList digits)

def specialFloat : Reader Value := do
  let negative ← sign
  let name ← (do skip "inf"; return "inf") <|> (do skip "nan"; return "nan")
  return .float ((if negative then "-" else "") ++ name)

-- A number of exactly that many digits, between the two bounds.
def between (digits low high : Nat) : Reader Nat := do
  let n := number 10 (← exactly digits isDigit)
  if low ≤ n && n ≤ high then return n else failure

def fullDate : Reader Unit := do
  let year ← between 4 0 9999
  skip "-"
  let month ← between 2 1 12
  skip "-"
  let _ ← between 2 1 (daysInMonth year month)

def clockTime : Reader Unit := do
  let _ ← between 2 0 23
  skip ":"
  let _ ← between 2 0 59
  skip ":"
  let _ ← between 2 0 60
  let _ ← optional (do skip "."; span1 isDigit)

def zone : Reader Unit := do
  let named ← optional (one fun c => c = 'Z' || c = 'z')
  if named.isNone then
    let _ ← one fun c => c = '+' || c = '-'
    let _ ← between 2 0 23
    skip ":"
    let _ ← between 2 0 59

def dateTime : Reader Value := do
  let text ← get
  let dated ← optional fullDate
  if dated.isSome then
    let _ ← optional do
      let _ ← one fun c => c = 'T' || c = 't' || c = ' '
      clockTime
      optional zone
  else clockTime
  return .dateTime (String.ofList (text.take (text.length - (← get).length)))

def scalar : Reader Value := do
  match ← peek? with
  | none => failure
  | some c =>
    if c = '"' || c = '\'' then return .string (← quotation)
    else if c = 't' then skip "true"; return .boolean true
    else if c = 'f' then skip "false"; return .boolean false
    else
      dateTime <|> numericFloat <|> specialFloat <|> radix "0x" 16 isHexDigit
        <|> radix "0o" 8 (fun d => '0' ≤ d && d ≤ '7')
        <|> radix "0b" 2 (fun d => d = '0' || d = '1') <|> decimal

end Reader

end Toml

end EngineBench
