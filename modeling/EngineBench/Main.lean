import EngineBench.Machine.Hosting
import EngineBench.Suite.Program

namespace EngineBench

namespace Main

-- A machine in a directory like the one the program was started in.
def scratch : List String := ["run"]

def copy (home : NodeId) (files : Files) (p : Path) : IO Files := do
  try
    let bytes ← IO.FS.readBinFile p.text
    return (files.plant home p (.file bytes 0o755)).toOption.getD files
  catch _ => return files

def environment : IO (List (String × String)) := do
  let names := ["PATH", Role.server.envName, Role.client.envName]
  let values ← names.mapM fun name => do
    return (name, (← IO.getEnv name).map Text.Raw.ofText)
  return values.filterMap fun (name, value) => value.map (name, ·)

def machine (suite : Suite.ReadyMade) (o : Options) : IO Machine := do
  let (files, home) := Machine.baseFiles scratch
  return .boot (← (suite.files o).foldlM (copy home) files) home (← environment)

def run (suite : Suite.ReadyMade) (args : List String) : IO Nat := do
  let m ← machine suite ((suite.options args).toOption.getD {})
  let (ending, m) := suite.perform Machine.host m.surroundings args m
  IO.print m.printed
  m.errorLines.forM IO.eprintln
  if let .refused refusal := ending then IO.eprintln refusal.errorLine
  return ending.exitCode

end Main

end EngineBench

def main (args : List String) : IO UInt32 := do
  match args with
  | [] => return 2
  | name :: args =>
    match EngineBench.Suite.ReadyMade.named? name with
    | none => return 2
    | some suite => return (← EngineBench.Main.run suite args).toUInt32
