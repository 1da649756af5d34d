import EngineBench.Measure.Accumulator
import EngineBench.Numeric.Fixed
import EngineBench.Text.Grid

namespace EngineBench

inductive Report
  | summary (benchmark : String) (summary : Summary)
  | failure (benchmark : String) (scale : Scale) (failed : Nat) (reason : String)
  | finalize

namespace Report

def summaryLine (benchmark : String) (s : Summary) : String :=
  s!"{benchmark} [{s.scale.label}] average time: {Fixed.ofFloat 6 s.mean}s"

def failureLine (benchmark : String) (scale : Scale) (reason : String) : String :=
  s!"{benchmark} [{scale.label}] failed: {reason}"

-- The line for a scale that ended; the end of the run has none.
def line? : Report → Option String
  | summary benchmark s => some (summaryLine benchmark s)
  | failure benchmark scale _ reason => some (failureLine benchmark scale reason)
  | finalize => none

def millis (seconds : Float) : String :=
  Fixed.ofFloat 2 (seconds * 1000.0)

-- The table row for a scale that ended.
def row? : Report → Option (List String)
  | summary benchmark s =>
    some [benchmark, s.scale.label, toString s.scale.iterations, millis s.mean, millis s.least,
      millis s.greatest, toString s.failed, "ok"]
  | failure benchmark scale failed reason =>
    some [benchmark, scale.label, toString scale.iterations, "-", "-", "-", toString failed,
      reason]
  | finalize => none

def tableHead : List String :=
  ["benchmark", "scale", "iterations", "avg_time_ms", "min_time_ms", "max_time_ms", "failed",
   "outcome"]

-- The table of the scales that ended, and nothing if there were none.
def table (reports : List Report) : String :=
  match reports.filterMap row? with
  | [] => ""
  | rows => "\nSummary of scales\n" ++ Text.Grid.render (tableHead :: rows) ++ "\n"

end Report

-- What a collector does at one report.
structure Reaction where
  printed : String := ""
  written : String := ""
  noted : List Report := []
  log : Log := []

-- What a collector does at a report depends on the reports it got before, and on nothing else.
structure Collector where
  past : List Report
  react : List Report → Report → Reaction

namespace Collector

-- How the medium behind a line writer behaves at a line.
inductive Medium
  | sound
  -- A write fails when that many characters of the line have been taken.
  | stopsAt (taken : Nat) (reason : String)
  -- All of the line is taken, and the flush fails.
  | unflushed (reason : String)
  deriving DecidableEq, Repr

namespace Medium

def refusesWrites : Medium := stopsAt 0 "disk full"

def refusesFlushes : Medium := unflushed "flush failed"

end Medium

-- A line is written before it is flushed, so it is there also if the flush fails.
def writeLine (medium : Medium) (line : String) : Reaction :=
  let failed (reason : String) : Log.Record :=
    .error "scale_tunnel_instruments::report::line_reporter"
      s!"Failed to write report line '{line}': {reason}"
  match medium with
  | .sound => { written := line ++ "\n" }
  | .stopsAt taken reason =>
    { written := .ofList ((line ++ "\n").toList.take taken), log := [failed reason] }
  | .unflushed reason => { written := line ++ "\n", log := [failed reason] }

-- Writes a line per ended scale to a buffer of its own.
def buffer (medium : Medium) : Collector where
  past := []
  react _ report := match report.line? with
    | some line => writeLine medium line
    | none => {}

-- Prints a line per ended scale.
def lines : Collector where
  past := []
  react _ report := match report.line? with
    | some line => { printed := line ++ "\n" }
    | none => {}

-- Prints a table of all ended scales at the end.
def table : Collector where
  past := []
  react past report := match report with
    | .finalize => { printed := Report.table past }
    | _ => {}

-- Notes each report as it comes.
def probe : Collector where
  past := []
  react _ report := { noted := [report] }

def take (report : Report) (c : Collector) : Collector × Reaction :=
  ({ c with past := c.past ++ [report] }, c.react c.past report)

end Collector

-- The collectors that every report goes to, in the order in which they act.
abbrev Reporter := List Collector

-- Which collectors a reporter has.
structure Reporting where
  custom : List Collector
  lines : Bool
  table : Bool

namespace Reporting

def empty : Reporting := ⟨[], false, false⟩

def enableLines (r : Reporting) : Reporting := { r with lines := true }

def enableTable (r : Reporting) : Reporting := { r with table := true }

def withCollector (r : Reporting) (c : Collector) : Reporting :=
  { r with custom := r.custom ++ [c] }

-- Custom collectors come first, then the printed lines, then the table.
def reporter (r : Reporting) : Reporter :=
  r.custom ++ (if r.lines then [Collector.lines] else [])
    ++ (if r.table then [Collector.table] else [])

end Reporting

namespace Reporter

def send (report : Report) (r : Reporter) : Reporter × List Reaction :=
  (r.map (Collector.take report)).unzip

def printed (reactions : List Reaction) : String :=
  String.join (reactions.map (·.printed))

def logged (reactions : List Reaction) : Log :=
  (reactions.map (·.log)).flatten

end Reporter

end EngineBench
