import EngineBench.Options
import EngineBench.Text.Legible
import EngineBench.Text.Lines

namespace EngineBench

namespace CommandLine

inductive NumberFault
  | empty | badDigit | tooLarge
  deriving DecidableEq, Repr

namespace NumberFault

def message : NumberFault → String
  | empty => "cannot parse integer from empty string"
  | badDigit => "invalid digit found in string"
  | tooLarge => "number too large to fit in target type"

end NumberFault

-- Why no run comes of a command line.
inductive Refusal
  | unknownWord (word : String)
  | noValue (s : Setting)
  | badPolicy (value : String)
  | badNumber (s : Setting) (value : String) (reason : NumberFault)
  | repeated (shown : String)
  | needlessValue (value name : String)
  | helpAsked
  deriving DecidableEq, Repr

namespace Refusal

-- What is told, with each word of the command line as `quote` shows it.
def text (quote : String → String) : Refusal → String
  | unknownWord word => s!"unexpected argument '{quote word}' found"
  | noValue s => s!"a value is required for '{s.shown}' but none was supplied"
  | badPolicy value => s!"invalid value '{quote value}' for '{Setting.failurePolicy.shown}'"
  | badNumber s value reason =>
    s!"invalid value '{quote value}' for '{s.shown}': {reason.message}"
  | repeated shown => s!"the argument '{shown}' cannot be used multiple times"
  | needlessValue value name =>
    s!"unexpected value '{quote value}' for '--{name}' found; no more were expected"
  | helpAsked => ""

def message (r : Refusal) : String :=
  Text.firstLine ("error: " ++ r.text Text.Legible.ofText)

-- The message as it appears on the error stream.
def errorLine (r : Refusal) : String :=
  Text.firstLine ("error: " ++ r.text Text.Legible.ofStream)

end Refusal

def digit? (c : Char) : Option Nat :=
  if c.isDigit then some (c.toNat - '0'.toNat) else none

-- Reads digits up to the first that is none, or that makes the number too large.
def digits (n : Nat) : List Char → Except NumberFault Nat
  | [] => .ok n
  | c :: rest =>
    match digit? c with
    | none => .error .badDigit
    | some d => if 10 * n + d ≤ maxCount then digits (10 * n + d) rest else .error .tooLarge

-- A number may have a plus sign but no minus sign.
def number : List Char → Except NumberFault Nat
  | [] => .error .empty
  | ['+'] => .error .badDigit
  | '+' :: rest => digits 0 rest
  | all => digits 0 all

def numberFor (s : Setting) (value : String) : Except Refusal Nat :=
  (number value.toList).mapError (.badNumber s value)

def pathFor (s : Setting) (value : String) : Except Refusal Path :=
  if value.isEmpty then .error (.noValue s) else .ok ⟨value⟩

def policyFor (value : String) : Except Refusal FailurePolicy :=
  if value.isEmpty then .error (.noValue .failurePolicy)
  else match FailurePolicy.ofName? value with
    | some p => .ok p
    | none => .error (.badPolicy value)

def assign (o : Options) (value : String) : Setting → Except Refusal Options
  | .engineDir => return { o with engineDir := ← pathFor .engineDir value }
  | .serverBin => return { o with serverBin := some (← pathFor .serverBin value) }
  | .clientBin => return { o with clientBin := some (← pathFor .clientBin value) }
  | .stateFile => return { o with stateFile := ← pathFor .stateFile value }
  | .socketPath => return { o with socketPath := ← pathFor .socketPath value }
  | .sinkFile => return { o with sinkFile := ← pathFor .sinkFile value }
  | .shutdownToken => return { o with shutdownToken := value }
  | .readyTimeout => return { o with readyTimeout := ← numberFor .readyTimeout value }
  | .stopTimeout => return { o with stopTimeout := ← numberFor .stopTimeout value }
  | .clientTimeout => return { o with clientTimeout := some (← numberFor .clientTimeout value) }
  | .failurePolicy => return { o with failurePolicy := ← policyFor value }
  | .catalog => return { o with catalog := some (← pathFor .catalog value) }

-- A value is checked only when the next option or the end is reached, so of a bad value and an
-- unknown word behind it the unknown word is the one that is told.
structure State where
  options : Options
  settings : List Setting
  switches : List Switch
  -- the last option, as long as its value has not been looked at
  pending : Option (Setting × Option String)

namespace State

def start : State := ⟨{}, [], [], none⟩

def give (s : Setting) (value : String) (st : State) : Except Refusal State :=
  if s ∈ st.settings then .error (.repeated s.shown)
  else do
    return { st with options := ← assign st.options value s, settings := s :: st.settings }

def settle (st : State) : Except Refusal State :=
  match st.pending with
  | none => .ok st
  | some (s, none) => .error (.noValue s)
  | some (s, some value) => { st with pending := none }.give s value

def turnOn (s : Switch) (st : State) : Except Refusal State :=
  if s ∈ st.switches then .error (.repeated s.shown)
  else .ok { st with options := st.options.turnOn s, switches := s :: st.switches }

end State

-- What a long name stands for.
inductive Meaning
  | setting (s : Setting)
  | switch (s : Switch)
  | help

def meaning? (name : String) : Option Meaning :=
  match Setting.all.find? (·.name = name), Switch.all.find? (·.name = name) with
  | some s, _ => some (.setting s)
  | none, some s => some (.switch s)
  | none, none => if name = "help" then some .help else none

-- A word by its form.
inductive Word
  | separator
  | long (name : String) (value : Option String)
  | short (letter : Char)
  | plain

-- A name ends at the first equals sign.
def splitValue (cs : List Char) : String × Option String :=
  let name := cs.takeWhile (· ≠ '=')
  (String.ofList name, match cs.drop name.length with
    | [] => none
    | _ :: value => some (String.ofList value))

-- One hyphen alone is a plain word.
def form (word : String) : Word :=
  match word.toList with
  | ['-', '-'] => .separator
  | '-' :: '-' :: rest => let (name, value) := splitValue rest; .long name value
  | '-' :: letter :: _ => .short letter
  | _ => .plain

def help (st : State) : Except Refusal State := do
  let _ ← st.settle
  throw .helpAsked

def readLong (name : String) (value : Option String) (st : State) : Except Refusal State :=
  match meaning? name, value with
  | none, _ => .error (.unknownWord s!"--{name}")
  | some (.setting s), none => do
    return { ← st.settle with pending := some (s, none) }
  | some (.setting s), some value => do
    (← st.settle).give s value
  | some (.switch s), none => do
    (← st.settle).turnOn s
  | some .help, none => help st
  | some _, some value => .error (.needlessValue value name)

def readPlain (word : String) (st : State) : Except Refusal State :=
  match st.pending with
  | some (s, none) => .ok { st with pending := some (s, some word) }
  | _ => .error (.unknownWord word)

def readWords : List String → State → Except Refusal State
  | [], st => st.settle
  | word :: rest, st =>
    match form word with
    | .separator =>
      match rest with
      | [] => st.settle
      | next :: _ => .error (.unknownWord next)
    | .long name value => do
      readWords rest (← readLong name value st)
    | .short letter =>
      if letter = 'h' then help st else .error (.unknownWord s!"-{letter}")
    | .plain => do
      readWords rest (← readPlain word st)

-- The first word is the name of the program.
def read (words : List String) : Except Refusal Options := do
  return (← readWords words.tail .start).options

end CommandLine

end EngineBench
