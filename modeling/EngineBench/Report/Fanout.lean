import EngineBench.Report.Collector

namespace EngineBench

-- What may be asked for while a reporter is put together, in any order and any number of times.
inductive Choice
  | collector (c : Collector)
  | lines
  | table

namespace Choice

def apply (r : Reporting) : Choice → Reporting
  | collector c => r.withCollector c
  | lines => r.enableLines
  | table => r.enableTable

def custom? : Choice → Option Collector
  | collector c => some c
  | lines | table => none

def isLines : Choice → Bool
  | lines => true
  | collector _ | table => false

def isTable : Choice → Bool
  | table => true
  | collector _ | lines => false

end Choice

def Reporting.chosen (choices : List Choice) : Reporting :=
  choices.foldl Choice.apply .empty

namespace Report

def lines (reports : List Report) : List String :=
  reports.filterMap line?

end Report

namespace Collector

namespace Medium

-- Why a line does not get through unharmed.
def trouble? : Medium → Option String
  | sound => none
  | stopsAt _ reason => some reason
  | unflushed reason => some reason

def complaint? (medium : Medium) (line : String) : Option Log.Record :=
  medium.trouble?.map fun reason =>
    .error "scale_tunnel_instruments::report::line_reporter"
      s!"Failed to write report line '{line}': {reason}"

-- What is on the medium when a line was written to it.
def kept (medium : Medium) (line : String) : String :=
  match medium with
  | stopsAt taken _ => .ofList ((line ++ "\n").toList.take taken)
  | sound | unflushed _ => line ++ "\n"

end Medium

-- A line writer whose medium may behave differently at each line.
def writer (media : Nat → Medium) : Collector where
  past := []
  react past report := match report.line? with
    | some line => writeLine (media (Report.lines past).length) line
    | none => {}

-- What a collector does at each of the reports if it is given one after the other.
def run : List Report → Collector → List Reaction
  | [], _ => []
  | report :: rest, c => (c.take report).2 :: run rest (c.take report).1

end Collector

namespace Reporter

def written (reactions : List Reaction) : String :=
  String.join (reactions.map (·.written))

-- The reporter after a row of reports, and what its collectors did at each of them.
def sendAll : List Report → Reporter → Reporter × List (List Reaction)
  | [], r => (r, [])
  | report :: rest, r =>
    ((sendAll rest (r.send report).1).1, (r.send report).2 :: (sendAll rest (r.send report).1).2)

-- What the collector at one place did.
def part (i : Nat) (reports : List Report) (r : Reporter) : List Reaction :=
  (r.sendAll reports).2.filterMap (·[i]?)

end Reporter

end EngineBench
