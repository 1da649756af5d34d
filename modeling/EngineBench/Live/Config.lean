import EngineBench.Bench.Engine
import EngineBench.Live.Binary
import EngineBench.Options

namespace EngineBench

-- What is asked for; what is left open has a default.
structure Setup where
  engineDir : Option Path := none
  serverBin : Option Path := none
  clientBin : Option Path := none
  serverArgs : List String := []
  clientArgs : List String := []
  stateFile : Option Path := none
  socketPath : Option Path := none
  sinkFile : Option Path := none
  shutdownToken : Option String := none
  readyTimeout : Option Duration := none
  stopTimeout : Option Duration := none
  clientTimeout : Option Duration := none
  deriving DecidableEq, Repr

structure Config where
  engineDir : Path
  serverBin : Path
  clientBin : Path
  serverArgs : List String
  clientArgs : List String
  statePath : Path
  socketPath : Path
  sinkPath : Path
  shutdownToken : String
  readyTimeout : Duration
  stopTimeout : Duration
  clientTimeout : Option Duration
  deriving DecidableEq, Repr

namespace Config

-- Workloads that are not absolute lie in the engine's directory.
def workloadPath (c : Config) (workload : Path) : Path :=
  c.engineDir.join workload

end Config

namespace Setup

def ofOptions (o : Options) : Setup where
  engineDir := some o.engineDir
  serverBin := o.serverBin
  clientBin := o.clientBin
  stateFile := some o.stateFile
  socketPath := some o.socketPath
  sinkFile := some o.sinkFile
  shutdownToken := some o.shutdownToken
  readyTimeout := some (.ofSecs o.readyTimeout)
  stopTimeout := some (.ofSecs o.stopTimeout)
  clientTimeout := o.clientTimeout.map .ofSecs

def dirAsked (s : Setup) : Path :=
  s.engineDir.getD ⟨"."⟩

def locate (here : Surroundings) (role : Role) (explicit : Option Path) (dir : Path) :
    Action Log Path := do
  let (log, found) := Binary.locate here role explicit dir
  modify (· ++ log)
  Action.ofExcept found

-- The paths are joined as they are written; only the directory and the binaries are looked up.
def config (s : Setup) (dir serverBin clientBin : Path) : Config where
  engineDir := dir
  serverBin := serverBin
  clientBin := clientBin
  serverArgs := s.serverArgs
  clientArgs := s.clientArgs
  statePath := dir.join (s.stateFile.getD ({} : Options).stateFile)
  socketPath := dir.join (s.socketPath.getD ({} : Options).socketPath)
  sinkPath := dir.join (s.sinkFile.getD ({} : Options).sinkFile)
  shutdownToken := s.shutdownToken.getD ({} : Options).shutdownToken
  readyTimeout := s.readyTimeout.getD (.ofSecs ({} : Options).readyTimeout)
  stopTimeout := s.stopTimeout.getD (.ofSecs ({} : Options).stopTimeout)
  clientTimeout := s.clientTimeout

-- The directory is looked up first, then the server, then the client.
def build (here : Surroundings) (s : Setup) : Action Log Config := do
  let dir ← Action.ofExcept ((here.resolve s.dirAsked).mapError (.missingEngineDir s.dirAsked))
  let serverBin ← locate here .server s.serverBin dir
  let clientBin ← locate here .client s.clientBin dir
  return s.config dir serverBin clientBin

end Setup

end EngineBench
