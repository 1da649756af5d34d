import EngineBench.Options.CommandLine
import EngineBench.Suite.ReadyMade
import EngineBench.Suite.Run

namespace EngineBench

namespace Suite

inductive Ending
  | helped
  | refused (r : CommandLine.Refusal)
  | ran
  | failed (f : Fault)
  | broken (b : Breach)
  deriving DecidableEq, Repr

namespace Ending

def exitCode : Ending → Nat
  | helped | ran | failed _ => 0
  | refused _ => 2
  | broken _ => 101

end Ending

namespace ReadyMade

variable {σ : Type}

-- The files that a run with these options may want to read.
def files (r : ReadyMade) (o : Options) : List Path :=
  let inDir (p : Path) : Path := o.engineDir.join p
  let workloads := r.benchmarks.flatMap fun m => m.catalog.scales.map (·.workload)
  [o.serverBin.getD (inDir ⟨Role.server.name⟩), o.clientBin.getD (inDir ⟨Role.client.name⟩),
    inDir o.stateFile] ++ o.catalog.toList ++ workloads.map inDir

def abortRecord (r : ReadyMade) (f : Fault) : Log.Record :=
  .error r.name s!"Benchmark run aborted: {f.report}"

def options (r : ReadyMade) (args : List String) : Except CommandLine.Refusal Options :=
  CommandLine.read (r.name :: args)

-- The arguments do not begin with the name of the program.
def perform (h : Host σ) (here : Surroundings) (r : ReadyMade) (args : List String) (world : σ) :
    Ending × σ :=
  match r.options args with
  | .error .helpAsked => (.helped, world)
  | .error refusal => (.refused refusal, world)
  | .ok o =>
    match (r.suite o).run h here world with
    | (.ok _, world) => (.ran, world)
    | (.error (.fault f), world) => (.failed f, h.log [r.abortRecord f] world)
    | (.error (.breach b), world) => (.broken b, world)

end ReadyMade

end Suite

end EngineBench
