import EngineBench.Files.Tree

namespace EngineBench

namespace Files

def entries (fs : Files) (dir : NodeId) : List (String × NodeId) :=
  match fs.node? dir with
  | some (.dir _ entries) => entries
  | _ => []

def setEntries (dir : NodeId) (entries : List (String × NodeId)) (fs : Files) : Files :=
  match fs.node? dir with
  | some (.dir parent _) => fs.set dir (.dir parent entries)
  | _ => fs

def unhook (dir : NodeId) (name : String) (fs : Files) : Files :=
  fs.setEntries dir ((fs.entries dir).filter (·.1 ≠ name))

def hook (dir : NodeId) (name : String) (id : NodeId) (fs : Files) : Files :=
  let fs := fs.unhook dir name
  fs.setEntries dir (fs.entries dir ++ [(name, id)])

def isDot (step : String) : Bool :=
  step = "." || step = ".."

-- The path without slashes at its end.
def trimmed (p : Path) : Path :=
  ⟨String.ofList ((p.chars.reverse.dropWhile (· = '/')).reverse)⟩

def setBytes (id : NodeId) (bytes : ByteArray) (fs : Files) : Files :=
  match fs.node? id with
  | some (.file _ mode) => fs.set id (.file bytes mode)
  | _ => fs

def setMode (id : NodeId) (mode : Nat) (fs : Files) : Files :=
  match fs.node? id with
  | some (.file bytes _) => fs.set id (.file bytes mode)
  | _ => fs

-- Opens a file to write to it. A path that ends in a slash never names a file to be made.
def openToWrite (cwd : NodeId) (truncate : Bool) (p : Path) (fs : Files) :
    Except OsError (Files × NodeId) := do
  let s ← fs.spot cwd true (if p.pieces.isEmpty then p else trimmed p)
  match s.node with
  | none =>
    if p.endsWithSlash then throw .isDirectory
    else
      let (fs, id) := fs.add (.file .empty 0o644)
      return (fs.hook s.dir s.step id, id)
  | some id =>
    if p.endsWithSlash then throw .isDirectory
    match fs.node? id with
    | some (.dir ..) => throw .isDirectory
    | _ => return (if truncate then fs.setBytes id .empty else fs, id)

def write (cwd : NodeId) (bytes : ByteArray) (p : Path) (fs : Files) : Except OsError Files := do
  let (fs, id) ← fs.openToWrite cwd true p
  return fs.setBytes id bytes

-- Removes a name that is no directory's. A link is removed itself.
def remove (cwd : NodeId) (p : Path) (fs : Files) : Except OsError Files := do
  if p.pieces.isEmpty && p.isAbsolute then throw .isDirectory
  let s ← fs.spot cwd false (trimmed p)
  if isDot s.step then throw .isDirectory
  match s.node with
  | none => throw .notFound
  | some id =>
    match fs.node? id with
    | some (.dir ..) => throw .isDirectory
    | _ => if p.endsWithSlash then throw .notDirectory else return fs.unhook s.dir s.step

def makeDir (cwd : NodeId) (p : Path) (fs : Files) : Except OsError Files := do
  if p.pieces.isEmpty && p.isAbsolute then throw .exists
  let s ← fs.spot cwd false (trimmed p)
  match s.node with
  | some _ => throw .exists
  | none =>
    let (fs, id) := fs.add (.dir s.dir [])
    return fs.hook s.dir s.step id

def removeDir (cwd : NodeId) (p : Path) (fs : Files) : Except OsError Files := do
  let s ← fs.spot cwd false (trimmed p)
  if s.step = "." then throw .invalidArgument
  if s.step = ".." then throw .notEmpty
  match s.node.bind fs.node? with
  | none => throw .notFound
  | some (.dir _ []) => return fs.unhook s.dir s.step
  | some (.dir ..) => throw .notEmpty
  | some _ => throw .notDirectory

-- Removes what is at a path, and what is in it down to a depth.
def removeDown (cwd : NodeId) : Nat → Path → Files → Files
  | 0, _, fs => fs
  | depth + 1, p, fs =>
    match fs.remove cwd p with
    | .ok fs => fs
    | .error _ =>
      match fs.find cwd false p with
      | .error _ => fs
      | .ok dir =>
        let fs := (fs.entries dir).foldl
          (fun fs (name, _) => removeDown cwd depth (p.join ⟨name⟩) fs) fs
        (fs.removeDir cwd p).toOption.getD fs

-- Removes what is at a path with all that is in it; no directory lies deeper than there are
-- nodes.
def removeAll (cwd : NodeId) (p : Path) (fs : Files) : Except OsError Files :=
  match fs.remove cwd p with
  | .error .isDirectory => .ok (fs.removeDown cwd (fs.nodes.size + 1) p)
  | result => result

def makeLink (cwd : NodeId) (target : String) (p : Path) (fs : Files) : Except OsError Files := do
  let s ← fs.spot cwd false p
  match s.node with
  | some _ => throw .exists
  | none =>
    let (fs, id) := fs.add (.link target)
    return fs.hook s.dir s.step id

def setParent (id parent : NodeId) (fs : Files) : Files :=
  match fs.node? id with
  | some (.dir _ entries) => fs.set id (.dir parent entries)
  | _ => fs

-- Gives a node another name; what had that name before is gone.
def rename (cwd : NodeId) (source target : Path) (fs : Files) : Except OsError Files := do
  let s ← fs.spot cwd false (trimmed source)
  let t ← fs.spot cwd false (trimmed target)
  match s.node with
  | none => throw .notFound
  | some id =>
    let replaced := t.node.bind fs.node?
    match (fs.node? id).map Node.isDir, replaced with
    | some true, some (.dir _ (_ :: _)) => throw .notEmpty
    | some true, some (.dir _ []) | some true, none =>
      return ((fs.unhook s.dir s.step).hook t.dir t.step id).setParent id t.dir
    | some true, some _ => throw .notDirectory
    | _, some (.dir ..) => throw .isDirectory
    | _, _ =>
      if t.node = some id then return fs
      else return (fs.unhook s.dir s.step).hook t.dir t.step id

-- Makes a new directory in another one.
def addDir (dir : NodeId) (step : String) (fs : Files) : Files × NodeId :=
  let (fs, id) := fs.add (.dir dir [])
  (fs.hook dir step id, id)

-- Goes down a list of steps, links included, and makes the directories that are missing.
def makeDirs (dir : NodeId) : List String → Files → Except OsError (Files × NodeId)
  | [], fs => .ok (fs, dir)
  | step :: rest, fs =>
    match fs.find dir true ⟨step⟩ with
    | .ok id =>
      match fs.node? id with
      | some (.dir ..) => makeDirs id rest fs
      | _ => .error (if rest.isEmpty then .exists else .notDirectory)
    | .error .notFound =>
      -- a link that leads nowhere is in the way
      if (fs.find dir false ⟨step⟩).isOk then .error .exists
      else
        let (fs, id) := fs.addDir dir step
        makeDirs id rest fs
    | .error e => .error e

-- Something to be put at a path.
inductive Seed
  | file (bytes : ByteArray) (mode : Nat)
  | dir
  | link (target : String)

-- Puts something at a path, with all directories that lead there.
def plant (cwd : NodeId) (p : Path) (seed : Seed) (fs : Files) : Except OsError Files := do
  let start := startOf p cwd
  match seed with
  | .dir => return (← fs.makeDirs start p.pieces).1
  | .link target =>
    let (fs, _) ← fs.makeDirs start p.pieces.dropLast
    fs.makeLink cwd target p
  | .file bytes mode =>
    let (fs, _) ← fs.makeDirs start p.pieces.dropLast
    let (fs, id) ← fs.openToWrite cwd true p
    return (fs.setBytes id bytes).setMode id mode

end Files

end EngineBench
