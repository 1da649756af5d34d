import EngineBench.Toml.Document
import EngineBench.Workload.Catalog

namespace EngineBench

namespace CatalogFile

-- Benchmark names with what the file gives them, ordered by name.
abbrev Raw := List (String × List Catalog.Entry)

abbrev Overrides := List (String × Catalog)

def count? : Toml.Value → Option Nat
  | .integer n => if 0 ≤ n then some n.toNat else none
  | _ => none

def text? : Toml.Value → Option String
  | .string s => some s
  | _ => none

def isEntryKey (key : String) : Bool :=
  key = "label" || key = "workload" || key = "iterations"

def entryOf? (label workload iterations : Toml.Value) : Option Catalog.Entry := do
  return ⟨← text? label, ⟨← text? workload⟩, ← count? iterations⟩

-- A table with exactly the three keys, or a list that begins with the three values.
def entry? (v : Toml.Value) : Option Catalog.Entry :=
  match v.entries? with
  | some t =>
    if t.all fun (key, _) => isEntryKey key then do
      entryOf? (← t.lookup "label") (← t.lookup "workload") (← t.lookup "iterations")
    else none
  | none =>
    match v.elements? with
    | some (label :: workload :: iterations :: _) => entryOf? label workload iterations
    | _ => none

def ofTable? (t : Toml.Entries) : Option Raw :=
  t.mapM fun (name, v) => do return (name, ← (← v.elements?).mapM entry?)

def sorted (raw : Raw) : Raw :=
  raw.mergeSort fun a b => !(b.1 < a.1)

def invalid (name : String) : Fault → Fault
  | .emptyScale label => .invalidCatalog name label
  | f => f

def catalogOf (name : String) (entries : List Catalog.Entry) : Except Fault Catalog :=
  (Catalog.ofEntries entries).mapError (invalid name)

-- The first benchmark with an entry that never runs decides.
def check : Raw → Except Fault Overrides
  | [] => .ok []
  | (name, entries) :: rest => do
    return (name, ← catalogOf name entries) :: (← check rest)

def ofTable (t : Toml.Entries) : Except Fault Overrides :=
  match ofTable? t with
  | none => .error .malformedCatalog
  | some raw => check (sorted raw)

-- Whatever the documents are read with.
def parseWith (read : String → Option Toml.Entries) (text : String) : Except Fault Overrides :=
  match read text with
  | none => .error .malformedCatalog
  | some t => ofTable t

def parse (text : String) : Except Fault Overrides :=
  parseWith Toml.parse? text

-- Reads a file and parses it.
def load (readText : Path → Except OsError String) (path : Path) : Except Fault Overrides := do
  parse (← (readText path).mapError (.unreadableCatalog path))

end CatalogFile

end EngineBench
