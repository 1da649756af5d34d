import EngineBench.Bench.Engine
import EngineBench.Shutdown.Board

namespace EngineBench

structure Take where
  invocation : Invocation
  fault : Option Fault
  signals : Bool
  deriving DecidableEq, Repr

namespace Take

def success : Take := ⟨⟨some 0, 0, false⟩, none, false⟩

end Take

inductive Call
  | reset (succeeded : Bool)
  | start (succeeded : Bool)
  | stop (succeeded : Bool)
  | run (scale : Scale)
  deriving DecidableEq, Repr

namespace Call

-- What was called for, however the call went.
def asked : Call → Call
  | reset _ => reset true
  | start _ => start true
  | stop _ => stop true
  | run scale => run scale

def marked (name : String) (succeeded : Bool) : String :=
  if succeeded then name else name ++ " failed"

def text : Call → String
  | reset succeeded => marked "reset" succeeded
  | start succeeded => marked "start" succeeded
  | stop succeeded => marked "stop" succeeded
  | run scale => s!"run {scale.label} {scale.workload}"

end Call

-- Every call is noted and answered by the next line; a call past the last line succeeds.
structure Script where
  running : Bool
  resets : List (Option Fault)
  starts : List (Option Fault)
  stops : List (Option Fault)
  takes : List Take
  durations : List Duration
  fallback : Duration
  board : Shutdown.Board
  listener : Option Nat
  calls : List Call
  records : Log
  printed : String

namespace Script

def note (c : Call) (s : Script) : Script :=
  { s with calls := s.calls ++ [c] }

def answer (call : Bool → Call) (line : Option Fault) (running : Bool) : Action Script Unit :=
  match line with
  | none => modify fun s => { s.note (call true) with running }
  | some f => do
    modify (note (call false))
    Action.fail f

def resetState : Action Script Unit := do
  let s ← get
  set { s with resets := s.resets.tail }
  answer .reset (s.resets.head?.join) s.running

def start : Action Script Unit := do
  let s ← get
  set { s with starts := s.starts.tail }
  answer .start (s.starts.head?.join) true

def stop : Action Script Unit := do
  let s ← get
  set { s with stops := s.stops.tail }
  answer .stop (s.stops.head?.join) false

def signal (s : Script) : Script :=
  let (board, records) := s.board.signal
  { s with board, records := s.records ++ records }

def runClient (scale : Scale) : Action Script Invocation := do
  let s ← get
  let take := s.takes.head?.getD .success
  let s := { s.note (.run scale) with takes := s.takes.tail }
  set (if take.signals then s.signal else s)
  match take.fault with
  | some f => Action.fail f
  | none => return take.invocation

def elapsed (s : Script) : Duration × Script :=
  (s.durations.head?.getD s.fallback, { s with durations := s.durations.tail })

def shutdownSeen (s : Script) : Bool × Script :=
  match s.listener with
  | none => (false, s)
  | some l =>
    let (board, seen) := s.board.check l
    (seen, { s with board })

-- What was called for so far.
def asked (s : Script) : List Call :=
  s.calls.map Call.asked

-- Lines under which some of the calls succeed that would fail, and none fails instead.
def MendedLines (lines lines' : List (Option Fault)) : Prop :=
  ∀ n : Nat, lines'[n]?.join = lines[n]?.join ∨ lines'[n]?.join = none

def MendedTakes (takes takes' : List Take) : Prop :=
  ∀ n : Nat, takes'[n]?.getD .success = takes[n]?.getD .success ∨
    (takes[n]?.getD .success).fault.isSome ∧ (takes'[n]?.getD .success).fault = none

-- A script that is the same but that some of the calls succeed that would fail.
inductive Mended (s : Script) : Script → Prop
  | intro {resets starts stops takes} :
    MendedLines s.resets resets → MendedLines s.starts starts → MendedLines s.stops stops →
    MendedTakes s.takes takes → Mended s { s with resets, starts, stops, takes }

def engine : Engine Script where
  isRunning := running
  resetState := resetState
  start := start
  stop := stop
  runClient := runClient
  elapsed := elapsed
  shutdownSeen := shutdownSeen
  log records s := { s with records := s.records ++ records }
  print text s := { s with printed := s.printed ++ text }

end Script

end EngineBench
