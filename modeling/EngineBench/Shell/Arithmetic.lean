import EngineBench.Numeric.Numeral

namespace EngineBench

namespace Shell

namespace Arithmetic

-- What can be wrong with a text or its value.
inductive Mistake
  | noOperand
  | unclosed
  | noAlternative
  | leftOver
  | division
  -- A variable has no value that is a number, or must keep the one it has.
  | value (reason : String)
  deriving DecidableEq, Repr

def Mistake.message (text : String) : Mistake → String
  | value reason => reason
  | noOperand => within "expecting primary"
  | unclosed => within "expecting ')'"
  | noAlternative => within "expecting ':'"
  | leftOver => within "expecting EOF"
  | division => within "division by zero"
where
  within (reason : String) : String :=
    s!"arithmetic expression: {reason}: \"{text}\""

inductive Token
  | number (n : Int)
  | name (s : String)
  | sign (s : String)
  | unknown
  deriving DecidableEq, Repr

-- Longer signs come before those that they begin with.
def signs : List String :=
  ["<<=", ">>=", "<<", ">>", "<=", ">=", "==", "!=", "&&", "||", "+=", "-=", "*=", "/=", "%=",
   "&=", "^=", "|=", "+", "-", "*", "/", "%", "<", ">", "!", "~", "&", "^", "|", "(", ")", "?",
   ":", "="]

-- The sign that is done with the old value and the new one, if a sign assigns.
def assigning? : String → Option (Option String)
  | "=" => some none
  | "<<=" => some (some "<<")
  | ">>=" => some (some ">>")
  | "+=" => some (some "+")
  | "-=" => some (some "-")
  | "*=" => some (some "*")
  | "/=" => some (some "/")
  | "%=" => some (some "%")
  | "&=" => some (some "&")
  | "^=" => some (some "^")
  | "|=" => some (some "|")
  | _ => none

def isNameChar (c : Char) : Bool :=
  c.isAlphanum || c = '_'

def signAt? (cs : List Char) : Option String :=
  signs.find? fun s => s.toList.isPrefixOf cs

-- Tokens of a text, at most `fuel` of them.
def tokens : Nat → List Char → List Token
  | 0, _ | _, [] => []
  | fuel + 1, c :: rest =>
    if c = ' ' || c = '\t' || c = '\n' then tokens fuel rest
    else match (if c.isDigit then Numeral.anyBase? (c :: rest) else none) with
      | some (n, rest) => .number (min n (Nat.pow 2 63 - 1)) :: tokens fuel rest
      | none =>
        if isNameChar c then
          let w := (c :: rest).takeWhile isNameChar
          .name (String.ofList w) :: tokens fuel ((c :: rest).drop w.length)
        else match signAt? (c :: rest) with
          | some s => .sign s :: tokens fuel ((c :: rest).drop s.length)
          | none => [.unknown]

inductive Expr
  | number (n : Int)
  | name (s : String)
  -- Sets a variable, to the value or to what a sign makes of the old value and this one.
  | assign (s : String) (op : Option String) (e : Expr)
  | one (op : String) (e : Expr)
  | two (op : String) (a b : Expr)
  | choice (test yes no : Expr)
  deriving Repr

-- How strongly a sign binds; zero for a sign that does not stand between two values.
def strength : String → Nat
  | "||" => 1
  | "&&" => 2
  | "|" => 3
  | "^" => 4
  | "&" => 5
  | "==" | "!=" => 6
  | "<" | ">" | "<=" | ">=" => 7
  | "<<" | ">>" => 8
  | "+" | "-" => 9
  | "*" | "/" | "%" => 10
  | _ => 0

abbrev Read := Except Mistake (Expr × List Token)

mutual

def operand (fuel : Nat) (ts : List Token) : Read :=
  match fuel, ts with
  | _, .number n :: rest => .ok (.number n, rest)
  | _, .name s :: rest => .ok (.name s, rest)
  | fuel + 1, .sign "(" :: rest => do
    let (e, rest) ← assignment fuel rest
    match rest with
    | .sign ")" :: rest => return (e, rest)
    | _ => throw .unclosed
  | fuel + 1, .sign s :: rest =>
    if s ∈ ["-", "+", "!", "~"] then do
      let (e, rest) ← operand fuel rest
      return (.one s e, rest)
    else throw .noOperand
  | _, _ => throw .noOperand

-- An expression whose signs bind at least as strongly as `least`.
def expression (fuel least : Nat) (ts : List Token) : Read :=
  match fuel with
  | 0 => throw .noOperand
  | fuel + 1 => do
    let (e, rest) ← operand fuel ts
    further fuel least e rest

def further (fuel least : Nat) (e : Expr) (ts : List Token) : Read :=
  match fuel, ts with
  | fuel + 1, .sign s :: rest =>
    if least ≤ strength s && 0 < strength s then do
      let (e', rest) ← expression fuel (strength s + 1) rest
      further fuel least (.two s e e') rest
    else .ok (e, ts)
  | _, ts => .ok (e, ts)

-- An expression that may be a choice between two others.
def choice (fuel : Nat) (ts : List Token) : Read :=
  match fuel with
  | 0 => throw .noOperand
  | fuel + 1 => do
    let (test, rest) ← expression fuel 1 ts
    match rest with
    | .sign "?" :: rest =>
      let (yes, rest) ← assignment fuel rest
      match rest with
      | .sign ":" :: rest =>
        let (no, rest) ← choice fuel rest
        return (.choice test yes no, rest)
      | _ => throw .noAlternative
    | rest => return (test, rest)

def assignment (fuel : Nat) (ts : List Token) : Read :=
  match fuel, ts with
  | fuel + 1, .name s :: .sign op :: rest =>
    match assigning? op with
    | some op => do
      let (e, rest) ← assignment fuel rest
      return (.assign s op e, rest)
    | none => choice fuel ts
  | fuel, ts => choice fuel ts

end

-- The expression that a text is.
def parse (text : String) : Except Mistake Expr := do
  let ts := tokens (text.length + 1) text.toList
  match ← assignment (4 * ts.length + 8) ts with
  | (e, []) => return e
  | _ => throw .leftOver

def truth (b : Bool) : Int :=
  if b then 1 else 0

-- The number of 64 bits that stands for a whole number.
def wrap (n : Int) : Int :=
  n.bmod (Nat.pow 2 64)

def bits (f : Nat → Nat → Nat) (a b : Int) : Int :=
  wrap (f (a.emod (Nat.pow 2 64)).toNat (b.emod (Nat.pow 2 64)).toNat)

-- How far a shift goes.
def shiftOf (b : Int) : Nat :=
  (b.emod 64).toNat

def applyOne (op : String) (a : Int) : Int :=
  match op with
  | "-" => wrap (-a)
  | "!" => truth (a = 0)
  | "~" => -a - 1
  | _ => a

def applyTwo (op : String) (a b : Int) : Except Mistake Int :=
  match op with
  | "|" => .ok (bits Nat.lor a b)
  | "^" => .ok (bits Nat.xor a b)
  | "&" => .ok (bits Nat.land a b)
  | "==" => .ok (truth (a = b))
  | "!=" => .ok (truth (a ≠ b))
  | "<" => .ok (truth (a < b))
  | ">" => .ok (truth (b < a))
  | "<=" => .ok (truth (a ≤ b))
  | ">=" => .ok (truth (b ≤ a))
  | "<<" => .ok (wrap (a * Nat.pow 2 (shiftOf b)))
  | ">>" => .ok (a / Nat.pow 2 (shiftOf b))
  | "+" => .ok (wrap (a + b))
  | "-" => .ok (wrap (a - b))
  | "*" => .ok (wrap (a * b))
  | "/" => if b = 0 then .error .division else .ok (wrap (a.tdiv b))
  | "%" => if b = 0 then .error .division else .ok (a.tmod b)
  | _ => .error .noOperand

-- How variables are looked up and set.
structure Variables (σ : Type) where
  get : String → σ → Except String Int
  set : String → Int → σ → Except String σ

variable {σ : Type}

-- The value of an expression, and the variables afterwards.
def Expr.value (vs : Variables σ) : Expr → StateT σ (Except Mistake) Int
  | number n => return n
  | name s => do
    match vs.get s (← get) with
    | .ok n => return n
    | .error reason => throw (.value reason)
  | assign s op e => do
    let n ← e.value vs
    let n ← match op with
      | none => pure n
      | some op => do
        match vs.get s (← get) with
        | .ok old => applyTwo op old n
        | .error reason => throw (.value reason)
    match vs.set s n (← get) with
    | .ok new =>
      set new
      return n
    | .error reason => throw (.value reason)
  | one op e => return applyOne op (← e.value vs)
  | two "&&" a b => do
    if (← a.value vs) = 0 then return 0
    return truth ((← b.value vs) ≠ 0)
  | two "||" a b => do
    if (← a.value vs) ≠ 0 then return 1
    return truth ((← b.value vs) ≠ 0)
  | two op a b => do
    let m ← a.value vs
    applyTwo op m (← b.value vs)
  | choice test yes no => do
    if (← test.value vs) ≠ 0 then yes.value vs else no.value vs

-- The value of a text, and the variables afterwards.
def run (vs : Variables σ) (text : String) (s : σ) : Except String (Int × σ) :=
  (do (← parse text).value vs s : Except Mistake (Int × σ)).mapError (·.message text)

end Arithmetic

end Shell

end EngineBench
