import EngineBench.Workload.CatalogFile
import Mathlib.Data.List.Forall2

namespace EngineBench

open Catalog (Entry)

def Scale.entry (s : Scale) : Entry :=
  ⟨s.label, s.workload, s.iterations⟩

namespace CatalogFile

def fields (e : Entry) : Toml.Entries :=
  [("label", .string e.label), ("workload", .string e.workload.text),
    ("iterations", .integer e.iterations)]

-- An entry is a table of its three fields in any order, or a list that begins with their values.
-- What else is in such a list does not count.
inductive Writes (e : Entry) : Toml.Value → Prop
  | table : t.Perm (fields e) → Writes e (.table origin t)
  | list : Writes e (.array
      (.string e.label :: .string e.workload.text :: .integer e.iterations :: rest))

-- A benchmark is a name and a list of entries.
structure Lists (p : String × Toml.Value) (b : String × List Entry) : Prop where
  name    : b.1 = p.1
  entries : ∃ vs, p.2.elements? = some vs ∧ List.Forall₂ (fun v e => Writes e v) vs b.2

def Decodes (t : Toml.Entries) (raw : Raw) : Prop :=
  List.Forall₂ Lists t raw

-- The entries that a catalog is made of, under the name of its benchmark.
def listed (p : String × Catalog) : String × List Entry :=
  (p.1, p.2.scales.map Scale.entry)

def Runs (entries : List Entry) : Prop :=
  ∀ e ∈ entries, 0 < e.iterations

-- Two documents that have `x` and `x'` in the same place of some list and are otherwise the same.
inductive Replaces (x x' : Toml.Value) : Toml.Entries → Toml.Entries → Prop
  | intro : v.elements? = some (before ++ x :: after) →
    v'.elements? = some (before ++ x' :: after) →
    Replaces x x' (above ++ (name, v) :: below) (above ++ (name, v') :: below)

-- A table with one more key.
inductive AddsKey : Toml.Value → Toml.Value → Prop
  | intro : AddsKey (.table origin (before ++ after)) (.table origin (before ++ e :: after))

-- A list with one more element at its end.
inductive AddsElement : Toml.Value → Toml.Value → Prop
  | intro : AddsElement (.array items) (.array (items ++ [v]))

end CatalogFile

end EngineBench
