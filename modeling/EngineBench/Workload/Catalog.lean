import EngineBench.Fault
import EngineBench.Workload.Scale

namespace EngineBench

structure Catalog where
  scales : List Scale
  deriving DecidableEq, Repr

namespace Catalog

def empty : Catalog := ⟨[]⟩

def isEmpty (c : Catalog) : Bool :=
  c.scales.isEmpty

def append (c d : Catalog) : Catalog :=
  ⟨c.scales ++ d.scales⟩

instance : Append Catalog := ⟨append⟩

-- A scale as it is written down, not yet known to run at all.
structure Entry where
  label : String
  workload : Path
  iterations : Nat
  deriving DecidableEq, Repr

def Entry.scale (e : Entry) : Except Fault Scale :=
  match Scale.of? e.label e.workload e.iterations with
  | some s => .ok s
  | none => .error (.emptyScale e.label)

-- The first entry that never runs decides.
def scalesOf : List Entry → Except Fault (List Scale)
  | [] => .ok []
  | e :: rest => do return (← e.scale) :: (← scalesOf rest)

def ofEntries (entries : List Entry) : Except Fault Catalog := do
  return ⟨← scalesOf entries⟩

-- The client runs that a catalog needs, if a machine word can count them.
def totalIterations (c : Catalog) : Except Breach Nat :=
  let total := (c.scales.map (·.iterations)).foldr (· + ·) 0
  if total ≤ maxCount then .ok total else .error .countOverflow

end Catalog

end EngineBench
