namespace EngineBench

namespace Log

inductive Level
  | error | warn | info | debug | trace
  deriving DecidableEq, Repr

namespace Level

def name : Level → String
  | error => "ERROR"
  | warn => "WARN"
  | info => "INFO"
  | debug => "DEBUG"
  | trace => "TRACE"

-- The graver a level, the lower its rank.
def rank : Level → Nat
  | error => 0
  | warn => 1
  | info => 2
  | debug => 3
  | trace => 4

end Level

-- Only errors reach the terminal, so only they carry the name of the part that speaks.
structure Record where
  level : Level
  text : String
  speaker : String := ""
  deriving DecidableEq, Repr

namespace Record

def error (speaker text : String) : Record := ⟨.error, text, speaker⟩

def warn (text : String) : Record := ⟨.warn, text, ""⟩

def info (text : String) : Record := ⟨.info, text, ""⟩

def debug (text : String) : Record := ⟨.debug, text, ""⟩

def trace (text : String) : Record := ⟨.trace, text, ""⟩

def line (r : Record) : String :=
  r.level.name ++ " " ++ r.text

def passes (threshold : Level) (r : Record) : Bool :=
  r.level.rank ≤ threshold.rank

-- The lines a record takes on the terminal, those after the first indented by four.
def terminalLines (r : Record) : List String :=
  match r.text.splitOn "\n" with
  | [] => []
  | first :: rest =>
    ("[" ++ r.level.name ++ " " ++ r.speaker ++ "] " ++ first) :: rest.map ("    " ++ ·)

end Record

end Log

abbrev Log := List Log.Record

end EngineBench
