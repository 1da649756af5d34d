import EngineBench.OsError
import EngineBench.Path

namespace EngineBench

abbrev NodeId := Nat

inductive Node
  | file (bytes : ByteArray) (mode : Nat)
  | dir (parent : NodeId) (entries : List (String × NodeId))
  | link (target : String)
  -- swallows what is written and has nothing to read
  | sinkhole

namespace Node

def isDir : Node → Bool
  | dir .. => true
  | _ => false

def isFile : Node → Bool
  | file .. => true
  | _ => false

def executable : Node → Bool
  | file _ mode => mode &&& 0o111 ≠ 0
  | _ => false

end Node

-- Nodes keep their number when they are renamed or removed, so an open file goes on to exist
-- without a name.
structure Files where
  nodes : Array Node

namespace Files

def root : NodeId := 0

-- A tree with an empty root.
def empty : Files := ⟨#[.dir root []]⟩

def node? (fs : Files) (id : NodeId) : Option Node :=
  fs.nodes[id]?

def set (id : NodeId) (n : Node) (fs : Files) : Files :=
  ⟨fs.nodes.setIfInBounds id n⟩

def add (n : Node) (fs : Files) : Files × NodeId :=
  (⟨fs.nodes.push n⟩, fs.nodes.size)

-- Where a path ends: the directory of the last step, the step, and the node if there is one.
structure Spot where
  dir : NodeId
  step : String
  node : Option NodeId
  deriving Repr

def longestName : Nat := 255

def longestPath : Nat := 4095

def mostLinks : Nat := 40

-- The node that a step leads to.
def child (fs : Files) (dir : NodeId) (step : String) : Except OsError (Option NodeId) :=
  match fs.node? dir with
  | some (.dir parent entries) =>
    if step = "." then .ok (some dir)
    else if step = ".." then .ok (some parent)
    else if longestName < step.utf8ByteSize then .error .nameTooLong
    else .ok (entries.lookup step)
  | _ => .error .notDirectory

def startOf (p : Path) (dir : NodeId) : NodeId :=
  if p.isAbsolute then root else dir

-- `follow` tells whether a link at the very end is followed, and `slash` whether the path must end
-- in a directory.
def walk (fs : Files) (follow : Bool) (links : Nat) (dir : NodeId) (slash : Bool) :
    List String → Except OsError Spot
  | [] => .ok ⟨dir, ".", some dir⟩
  | step :: rest =>
    match fs.child dir step with
    | .error e => .error e
    | .ok none => if rest.isEmpty then .ok ⟨dir, step, none⟩ else .error .notFound
    | .ok (some id) =>
      match fs.node? id with
      | some (.link target) =>
        if rest.isEmpty && !follow && !slash then .ok ⟨dir, step, some id⟩
        else
          match links with
          | 0 => .error .tooManyLinks
          | links + 1 =>
            let p : Path := ⟨target⟩
            fs.walk follow links (startOf p dir) (slash || rest.isEmpty && p.endsWithSlash)
              (p.pieces ++ rest)
      | some (.dir ..) =>
        if rest.isEmpty then .ok ⟨dir, step, some id⟩ else fs.walk follow links id slash rest
      | _ =>
        if rest.isEmpty && !slash then .ok ⟨dir, step, some id⟩ else .error .notDirectory
termination_by steps => (links, steps.length)

-- Where a path ends, however long it is written.
def spotOfAnyLength (fs : Files) (cwd : NodeId) (follow : Bool) (p : Path) : Except OsError Spot :=
  if p.chars.contains '\x00' then .error .nulInPath
  else if p.text.isEmpty then .error .notFound
  else fs.walk follow mostLinks (startOf p cwd) p.endsWithSlash p.pieces

def spot (fs : Files) (cwd : NodeId) (follow : Bool) (p : Path) : Except OsError Spot := do
  if p.chars.contains '\x00' then throw .nulInPath
  if longestPath < p.text.utf8ByteSize then throw .nameTooLong
  fs.spotOfAnyLength cwd follow p

-- The node that a path names.
def find (fs : Files) (cwd : NodeId) (follow : Bool) (p : Path) : Except OsError NodeId := do
  match (← fs.spot cwd follow p).node with
  | some id => return id
  | none => throw .notFound

def stat (fs : Files) (cwd : NodeId) (p : Path) : Except OsError Node := do
  match fs.node? (← fs.find cwd true p) with
  | some n => return n
  | none => throw .notFound

def exists? (fs : Files) (cwd : NodeId) (p : Path) : Bool :=
  (fs.stat cwd p).isOk

def isFile (fs : Files) (cwd : NodeId) (p : Path) : Bool :=
  match fs.stat cwd p with
  | .ok n => n.isFile
  | .error _ => false

def isExecutable (fs : Files) (cwd : NodeId) (p : Path) : Bool :=
  match fs.stat cwd p with
  | .ok n => n.executable
  | .error _ => false

-- The name under which a directory stands in its parent.
def nameIn (fs : Files) (parent id : NodeId) : String :=
  match fs.node? parent with
  | some (.dir _ entries) => ((entries.find? (·.2 = id)).map (·.1)).getD ""
  | _ => ""

-- The names from the root to a directory, going up at most `height` steps.
def above (fs : Files) : Nat → NodeId → List String
  | 0, _ => []
  | height + 1, id =>
    match fs.node? id with
    | some (.dir parent _) =>
      if id = root then [] else fs.above height parent ++ [fs.nameIn parent id]
    | _ => []

-- The path of a directory from the root, without links.
def pathOf (fs : Files) (dir : NodeId) : Path :=
  ⟨"/" ++ String.intercalate "/" (fs.above fs.nodes.size dir)⟩

-- The path of what a walk ended at.
def pathAt (fs : Files) (dir : NodeId) (step : String) (id : NodeId) : Path :=
  match fs.node? id with
  | some (.dir ..) => fs.pathOf id
  | _ => (fs.pathOf dir).join ⟨step⟩

-- The path from the root without links and without dots. It is found step by step, so it does not
-- matter how long the path was before.
def canonical (fs : Files) (cwd : NodeId) (p : Path) : Except OsError Path := do
  let s ← fs.spotOfAnyLength cwd true p
  match s.node with
  | none => throw .notFound
  | some id =>
    let found := fs.pathAt s.dir s.step id
    if longestPath < found.text.utf8ByteSize then throw .nameTooLong
    return found

def bytes (fs : Files) (id : NodeId) : Except OsError ByteArray :=
  match fs.node? id with
  | some (.file bytes _) => .ok bytes
  | some .sinkhole => .ok .empty
  | some (.dir ..) => .error .isDirectory
  | _ => .error .notFound

def read (fs : Files) (cwd : NodeId) (p : Path) : Except OsError ByteArray := do
  fs.bytes (← fs.find cwd true p)

-- Reads a file that must hold text.
def readText (fs : Files) (cwd : NodeId) (p : Path) : Except OsError String := do
  match String.fromUTF8? (← fs.read cwd p) with
  | some s => return s
  | none => throw .invalidText

end Files

end EngineBench
