import EngineBench.Suite.Definition

namespace EngineBench

namespace Suite

inductive ReadyMade
  | bitvectorScan | btreeNodeSize
  deriving DecidableEq, Repr

namespace ReadyMade

def all : List ReadyMade := [bitvectorScan, btreeNodeSize]

def name : ReadyMade → String
  | bitvectorScan => "bitvector_scan"
  | btreeNodeSize => "btree_node_size"

def named? (name : String) : Option ReadyMade :=
  all.find? (·.name = name)

def tableSizes : List Nat := [10, 100, 1000, 10000]

def scanScale (size : Nat) : Scale where
  label := toString size
  workload := ⟨s!"analysis/bitvector_test{size}.dsl"⟩
  iterations := 3
  runs := Nat.zero_lt_succ 2

def rangeScan : Benchmark where
  name := "range scan"
  mode := .query
  catalog := ⟨tableSizes.map scanScale⟩

def load : Benchmark where
  name := "load"
  mode := .load
  catalog := ⟨[⟨"load", ⟨"analysis/btree_node_size_test_load.dsl"⟩, 4, by decide⟩]⟩

def execute : Benchmark where
  name := "execute"
  mode := .query
  catalog := ⟨[⟨"execute", ⟨"analysis/btree_node_size_test_execute.dsl"⟩, 100, by decide⟩]⟩

-- The queries run against the server that the last load left running.
def benchmarks : ReadyMade → List Benchmark
  | bitvectorScan => [rangeScan]
  | btreeNodeSize => [load, execute]

def suite (r : ReadyMade) (o : Options) : Suite :=
  ⟨r.name, o, r.benchmarks⟩

end ReadyMade

end Suite

end EngineBench
