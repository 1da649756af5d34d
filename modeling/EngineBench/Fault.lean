import EngineBench.Duration
import EngineBench.OsError
import EngineBench.Path

namespace EngineBench

inductive Role
  | server | client
  deriving DecidableEq, Repr

namespace Role

def name : Role → String
  | server => "server"
  | client => "client"

-- The environment variable that overrides where the binary of a role is.
def envName : Role → String
  | server => "ST_SERVER_PATH"
  | client => "ST_CLIENT_PATH"

end Role

-- How a look-up on the search path can fail.
inductive SearchFault
  | noSearchPath
  | notOnSearchPath
  deriving DecidableEq, Repr

namespace SearchFault

def message : SearchFault → String
  | noSearchPath => "no path to search and provided name is not an absolute path"
  | notOnSearchPath => "cannot find binary path"

end SearchFault

-- Why the binary of a role cannot be found.
inductive LookupFault
  | explicitMissing (role : Role) (path : Path) (cause : SearchFault)
  | emptyVariable (role : Role)
  | variableMissing (role : Role) (path : Path)
  | searchFailed (role : Role) (dir : Path) (cause : SearchFault)
  | unresolved (path : Path) (cause : OsError)
  | explicitUnresolved (role : Role) (path : Path) (cause : OsError)
  deriving DecidableEq, Repr

namespace LookupFault

-- The whole chain on one line, from the outermost context inwards.
def message : LookupFault → String
  | explicitMissing role path cause =>
    s!"The {role.name} binary '{path}' could not be found: {cause.message}"
  | emptyVariable role =>
    s!"'{role.envName}' set to empty string"
  | variableMissing role path =>
    s!"Path to the {role.name} binary overwritten with '{role.envName}={path}' "
      ++ "but that path doesn't exist"
  | searchFailed role dir cause =>
    s!"The {role.name} binary was not found in '{dir}' or the PATH. Please build the engine or "
      ++ s!"set '{role.envName}' to the correct path.: {cause.message}"
  | unresolved path cause =>
    s!"Failed to resolve '{path}': {cause.message}"
  | explicitUnresolved role path cause =>
    s!"The {role.name} binary '{path}' could not be found: "
      ++ s!"Failed to resolve '{path}': {cause.message}"

end LookupFault

-- Why a process of the engine could not be brought up.
inductive LaunchFault
  | refused (cause : OsError)
  | exitedEarly (status : ExitStatus)
  | noSocket (socket : Path) (limit : Duration)
  | notFound (cause : LookupFault)
  | reported (text : String)
  deriving DecidableEq, Repr

namespace LaunchFault

def message : LaunchFault → String
  | refused cause => cause.message
  | exitedEarly status => s!"exited with {status} before it was ready"
  | noSocket socket limit => s!"no socket at '{socket}' after {limit}"
  | notFound cause => cause.message
  | reported text => text

end LaunchFault

-- Why an iteration does not count as a success.
inductive ClientFailure
  | timedOut (iteration : Nat)
  | exited (iteration : Nat) (code : Int)
  | signalled (iteration : Nat)
  | reported (text : String)
  deriving DecidableEq, Repr

namespace ClientFailure

def message : ClientFailure → String
  | timedOut iteration => s!"iteration {iteration} timed out"
  | exited iteration code => s!"iteration {iteration} exited with code {code}"
  | signalled iteration => s!"iteration {iteration} was terminated by a signal"
  | reported text => text

end ClientFailure

-- An answer that callers handle. Each cause has a constructor, and the wording stands in one place.
inductive Fault
  | launch (process : String) (reason : LaunchFault)
  | staleState (path : Path) (reason : String)
  | clientFailed (workload : Path) (reason : ClientFailure)
  | shutdown
  | emptyScale (label : String)
  | malformedCatalog
  | invalidCatalog (benchmark label : String)
  | unreadableCatalog (path : Path) (cause : OsError)
  | unknownBenchmark (catalog : Path) (benchmark suite : String)
  | noBenchmarks (suite : String)
  | noScales (benchmark : String)
  | missingEngineDir (path : Path) (cause : OsError)
  | cannotRemove (path : Path) (cause : OsError)
  | cannotOpenWorkload (path : Path) (cause : OsError)
  | cannotCreateSink (path : Path) (cause : OsError)
  | cannotFeed (cause : OsError)
  | cannotReadSink (path : Path) (cause : OsError)
  | cannotPoll (cause : OsError)
  | cannotWait (role : Role) (cause : OsError)
  | cannotKill (cause : OsError)
  | plain (text : String)
  | wrapped (context text : String)
  deriving DecidableEq, Repr

namespace Fault

-- The kinds of fault that callers tell apart.
inductive Kind
  | launch | staleState | clientFailed | shutdown | other
  deriving DecidableEq, Repr

def kind : Fault → Kind
  | launch .. => .launch
  | staleState .. => .staleState
  | clientFailed .. => .clientFailed
  | shutdown => .shutdown
  | _ => .other

def emptyScaleText (label : String) : String :=
  s!"Workload scale '{label}' must run at least one iteration"

-- The outermost message.
def message : Fault → String
  | launch process reason => s!"Failed to launch the {process}: {reason.message}"
  | staleState path reason => s!"Failed to delete persisted state '{path}': {reason}"
  | clientFailed workload reason =>
    s!"Client failed while running workload '{workload}': {reason.message}"
  | shutdown => "Benchmark run cancelled by shutdown signal"
  | emptyScale label => emptyScaleText label
  | malformedCatalog => "Failed to parse workload catalog"
  | invalidCatalog benchmark _ => s!"Invalid catalog for benchmark '{benchmark}'"
  | unreadableCatalog path _ => s!"Failed to read workload catalog '{path}'"
  | unknownBenchmark catalog benchmark suite =>
    s!"Catalog '{catalog}' names benchmark '{benchmark}' which is not part of '{suite}'"
  | noBenchmarks suite => s!"No benchmarks defined for '{suite}'"
  | noScales benchmark => s!"Benchmark '{benchmark}' has no workload scales"
  | missingEngineDir path _ => s!"Engine directory '{path}' does not exist"
  | cannotRemove path _ => s!"Failed to remove '{path}'"
  | cannotOpenWorkload path _ => s!"Failed to open workload '{path}'"
  | cannotCreateSink path _ => s!"Failed to create the sink file '{path}'"
  | cannotFeed _ => "Failed to write the workload to the client"
  | cannotReadSink path _ => s!"Failed to read the sink file '{path}'"
  | cannotPoll _ => "Failed to check the status of the server process"
  | cannotWait .server _ => "Failed to wait for the server process to exit"
  | cannotWait .client _ => "Failed to wait for the client to exit"
  | cannotKill _ => "Failed to kill the server process"
  | plain text => text
  | wrapped context _ => context

-- The text of what lies behind the outermost message, if anything does.
def cause? : Fault → Option String
  | invalidCatalog _ label => some (emptyScaleText label)
  | unreadableCatalog _ cause | missingEngineDir _ cause | cannotRemove _ cause
  | cannotOpenWorkload _ cause | cannotCreateSink _ cause | cannotFeed cause
  | cannotReadSink _ cause | cannotPoll cause | cannotWait _ cause | cannotKill cause =>
    some cause.message
  | wrapped _ text => some text
  | _ => none

-- Message and cause on one line.
def chain (f : Fault) : String :=
  match f.cause? with
  | some cause => f.message ++ ": " ++ cause
  | none => f.message

-- Message and cause as a paragraph each.
def report (f : Fault) : String :=
  match f.cause? with
  | some cause =>
    f.message ++ "\n\nCaused by:\n    " ++ String.intercalate "\n    " (cause.splitOn "\n")
  | none => f.message

end Fault

-- A broken assumption.
inductive Breach
  | labelMismatch (quotedSample quotedScale : String)
  | countOverflow
  | deadlineOverflow
  | duplicateBenchmark (name : String)
  deriving DecidableEq, Repr

namespace Breach

def message : Breach → String
  | labelMismatch sample scale =>
    "assertion `left == right` failed\n  left: " ++ sample ++ "\n right: " ++ scale
  | countOverflow => "attempt to add with overflow"
  | deadlineOverflow => "overflow when adding duration to instant"
  | duplicateBenchmark name => s!"Benchmark [{name}] is already defined"

end Breach

-- How an activity ends early.
inductive Abort
  | fault (f : Fault)
  | breach (b : Breach)
  deriving DecidableEq, Repr

end EngineBench
