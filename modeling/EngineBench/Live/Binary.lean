import EngineBench.Fault
import EngineBench.Log

namespace EngineBench

-- What a look-up may ask of the place it is made in.
structure Surroundings where
  isThere : Path → Bool
  isFile : Path → Bool
  resolve : Path → Except OsError Path
  readText : Path → Except OsError String
  -- the search for a program by what it is called
  which : Path → Except SearchFault Path
  override : Role → Option String

namespace Binary

inductive Source
  | explicit (path : Path)
  | override (value : String)
  | engineDir
  | searchPath
  deriving DecidableEq, Repr

-- An explicit path comes before the variable, the variable before the engine's directory, and the
-- search path is last.
def source (s : Surroundings) (role : Role) (explicit : Option Path) (dir : Path) : Source :=
  match explicit, s.override role with
  | some path, _ => .explicit path
  | none, some value => .override value
  | none, none => if s.isFile (dir.join ⟨role.name⟩) then .engineDir else .searchPath

def fromExplicit (s : Surroundings) (role : Role) (path : Path) : Except LookupFault Path :=
  if s.isFile path then (s.resolve path).mapError (.explicitUnresolved role path)
  else (s.which path).mapError (.explicitMissing role path)

def fromVariable (s : Surroundings) (role : Role) (value : String) : Except LookupFault Path :=
  if value.isEmpty then .error (.emptyVariable role)
  else if s.isThere ⟨value⟩ then (s.resolve ⟨value⟩).mapError (.unresolved ⟨value⟩)
  else .error (.variableMissing role ⟨value⟩)

def fromEngineDir (s : Surroundings) (role : Role) (dir : Path) : Except LookupFault Path :=
  let path := dir.join ⟨role.name⟩
  (s.resolve path).mapError (.unresolved path)

def fromSearchPath (s : Surroundings) (role : Role) (dir : Path) : Except LookupFault Path :=
  (s.which ⟨role.name⟩).mapError (.searchFailed role dir)

def fromSource (s : Surroundings) (role : Role) (dir : Path) : Source → Except LookupFault Path
  | .explicit path => fromExplicit s role path
  | .override value => fromVariable s role value
  | .engineDir => fromEngineDir s role dir
  | .searchPath => fromSearchPath s role dir

def warnings (role : Role) (dir : Path) : Source → Log
  | .searchPath =>
    [.warn (s!"No '{role.name}' in '{dir}' and '{role.envName}' is not set "
      ++ "so looking in user's 'PATH'")]
  | _ => []

def lookupFault (role : Role) (reason : LookupFault) : Fault :=
  .launch role.name (.notFound reason)

-- The path of a binary, and what is logged on the way.
def locate (s : Surroundings) (role : Role) (explicit : Option Path) (dir : Path) :
    Log × Except Fault Path :=
  let chosen := source s role explicit dir
  (warnings role dir chosen, (fromSource s role dir chosen).mapError (lookupFault role))

end Binary

end EngineBench
