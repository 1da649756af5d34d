namespace EngineBench

-- A path as it was written. Joining and splitting neither look at a file system nor tidy it.
structure Path where
  text : String
  deriving DecidableEq, Repr

namespace Path

instance : ToString Path := ⟨text⟩

def chars (p : Path) : List Char := p.text.toList

def isAbsolute (p : Path) : Bool :=
  p.chars.head? = some '/'

def endsWithSlash (p : Path) : Bool :=
  p.chars.getLast? = some '/'

-- An absolute second path replaces the first; otherwise one slash stands between the two.
def join (base p : Path) : Path :=
  if p.isAbsolute then p
  else if base.text.isEmpty || base.endsWithSlash then ⟨base.text ++ p.text⟩
  else ⟨base.text ++ "/" ++ p.text⟩

-- The pieces between slashes, without the empty ones.
def piecesOf (cs : List Char) : List String :=
  ((cs.splitOn '/').map String.ofList).filter fun s => !s.isEmpty

def pieces (p : Path) : List String :=
  piecesOf p.chars

-- The steps of a path: the root, the names and `..`, and a `.` only where it leads.
def steps (p : Path) : List String :=
  let rec drop : List String → List String
    | [] => []
    | s :: rest => if s = "." then drop rest else s :: drop rest
  let names := match p.pieces with
    | "." :: rest => if p.isAbsolute then drop rest else "." :: drop rest
    | all => drop all
  if p.isAbsolute then "/" :: names else names

-- A path with more steps below it.
def below (steps : List String) (p : Path) : Path :=
  steps.foldl (fun p step => p.join ⟨step⟩) p

-- The path from the root on, if this one is meant from a directory on. Only such a path loses the
-- steps that lead nowhere.
def placedIn (p dir : Path) : Path :=
  if p.isAbsolute then p else dir.below (p.steps.filter (· ≠ "."))

-- Whether a path says more than one step, so that it names a place and not just a file.
def hasDirectory (p : Path) : Bool :=
  1 < p.steps.length

-- The last name of a path, if it ends in one.
def name? (p : Path) : Option String :=
  p.pieces.getLast?

end Path

end EngineBench
