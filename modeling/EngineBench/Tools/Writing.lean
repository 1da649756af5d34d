import EngineBench.Tools.Call

namespace EngineBench

namespace Tools

namespace Escape

def isOctal (c : Char) : Bool :=
  '0' ≤ c && c ≤ '7'

def octalValue (cs : List Char) : Nat :=
  cs.foldl (fun n c => 8 * n + (c.toNat - '0'.toNat)) 0

def byte (n : Nat) : Char :=
  Char.ofNat (n % 256)

def letter? : Char → Option Char
  | 'a' => some '\x07'
  | 'b' => some '\x08'
  | 'e' => some '\x1b'
  | 'f' => some '\x0c'
  | 'n' => some '\n'
  | 'r' => some '\r'
  | 't' => some '\t'
  | 'v' => some '\x0b'
  | '\\' => some '\\'
  | _ => none

-- The character that an escape after a backslash stands for, and the rest.
def plain (cs : List Char) : Char × List Char :=
  let digits := (cs.take 3).takeWhile isOctal
  match cs.head?.bind letter? with
  | some c => (c, cs.tail)
  | none =>
    if digits.isEmpty then ('\\', cs) else (byte (octalValue digits), cs.drop digits.length)

-- The same where an octal escape may have a further zero in front.
def one (cs : List Char) : Char × List Char :=
  match cs with
  | '0' :: d :: rest => if isOctal d then plain (d :: rest) else plain cs
  | _ => plain cs

theorem length_plain (cs : List Char) : (plain cs).2.length ≤ cs.length := by
  unfold plain
  split
  · simp
  · dsimp only
    split <;> simp

theorem length_one (cs : List Char) : (one cs).2.length ≤ cs.length := by
  unfold one
  split
  · split
    · exact Nat.le_succ_of_le (length_plain _)
    · exact length_plain _
  · exact length_plain _

-- The text with escapes read, up to one that says to stop.
def expand (cs : List Char) : List Char × Bool :=
  match cs with
  | [] => ([], false)
  | '\\' :: 'c' :: _ => ([], true)
  | '\\' :: rest =>
    let (more, stopped) := expand (one rest).2
    ((one rest).1 :: more, stopped)
  | c :: rest =>
    let (more, stopped) := expand rest
    (c :: more, stopped)
termination_by cs.length
decreasing_by
  · exact Nat.lt_succ_of_le (length_one rest)
  · exact Nat.lt_succ_self _

end Escape

-- The arguments with blanks between them and an end of line, unless `-n` comes first.
def echo (args : List String) : String :=
  let (newline, args) := match args with
    | "-n" :: rest => (false, rest)
    | _ => (true, args)
  let rec go : List String → List Char
    | [] => if newline then ['\n'] else []
    | [s] =>
      let (cs, stopped) := Escape.expand s.toList
      cs ++ (if newline && !stopped then ['\n'] else [])
    | s :: rest =>
      let (cs, stopped) := Escape.expand s.toList
      if stopped then cs else cs ++ ' ' :: go rest
  String.ofList (go args)

end Tools

end EngineBench
