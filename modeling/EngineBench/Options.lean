import EngineBench.Bench.Benchmark

namespace EngineBench

-- An option that takes a value.
inductive Setting
  | engineDir | serverBin | clientBin | stateFile | socketPath | sinkFile | shutdownToken
  | readyTimeout | stopTimeout | clientTimeout | failurePolicy | catalog
  deriving DecidableEq, Repr

namespace Setting

def all : List Setting :=
  [engineDir, serverBin, clientBin, stateFile, socketPath, sinkFile, shutdownToken, readyTimeout,
   stopTimeout, clientTimeout, failurePolicy, catalog]

def name : Setting → String
  | engineDir => "engine-dir"
  | serverBin => "server-bin"
  | clientBin => "client-bin"
  | stateFile => "state-file"
  | socketPath => "socket-path"
  | sinkFile => "sink-file"
  | shutdownToken => "shutdown-token"
  | readyTimeout => "ready-timeout-s"
  | stopTimeout => "stop-timeout-s"
  | clientTimeout => "client-timeout-s"
  | failurePolicy => "failure-policy"
  | catalog => "catalog"

def placeholder (s : Setting) : String :=
  s.name.map fun c => if c = '-' then '_' else c.toUpper

-- An option as it is shown: its name and a word for the value.
def shown (s : Setting) : String :=
  s!"--{s.name} <{s.placeholder}>"

end Setting

-- An option that is there or not.
inductive Switch
  | noProgress | summaryTable
  deriving DecidableEq, Repr

namespace Switch

def all : List Switch := [noProgress, summaryTable]

def name : Switch → String
  | noProgress => "no-progress"
  | summaryTable => "summary-table"

def shown (s : Switch) : String :=
  s!"--{s.name}"

end Switch

namespace FailurePolicy

def ofName? : String → Option FailurePolicy
  | "record" => some .record
  | "exclude" => some .exclude
  | "abort-scale" => some .abortScale
  | _ => none

end FailurePolicy

-- Times are in whole seconds.
structure Options where
  engineDir : Path := ⟨"."⟩
  serverBin : Option Path := none
  clientBin : Option Path := none
  stateFile : Path := ⟨"db1.bin"⟩
  socketPath : Path := ⟨"cs165_unix_socket"⟩
  sinkFile : Path := ⟨"output.txt"⟩
  shutdownToken : String := "real_shutdown"
  readyTimeout : Nat := 10
  stopTimeout : Nat := 10
  clientTimeout : Option Nat := none
  failurePolicy : FailurePolicy := .record
  catalog : Option Path := none
  noProgress : Bool := false
  summaryTable : Bool := false
  deriving DecidableEq, Repr

namespace Options

def turnOn (o : Options) : Switch → Options
  | .noProgress => { o with noProgress := true }
  | .summaryTable => { o with summaryTable := true }

end Options

end EngineBench
