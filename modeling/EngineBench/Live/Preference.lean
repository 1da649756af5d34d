import EngineBench.Live.Binary

namespace EngineBench

namespace Role

def other : Role → Role
  | server => client
  | client => server

end Role

namespace Surroundings

inductive Question
  | isThere (path : Path)
  | isFile (path : Path)
  | resolve (path : Path)
  | which (path : Path)
  | override (role : Role)
  deriving DecidableEq, Repr

namespace Question

abbrev Answer : Question → Type
  | isThere _ | isFile _ => Bool
  | resolve _ => Except OsError Path
  | which _ => Except SearchFault Path
  | override _ => Option String

-- The path that a question is about.
def path? : Question → Option Path
  | isThere path | isFile path | resolve path | which path => some path
  | override _ => none

end Question

def answer (s : Surroundings) : (q : Question) → q.Answer
  | .isThere path => s.isThere path
  | .isFile path => s.isFile path
  | .resolve path => s.resolve path
  | .which path => s.which path
  | .override role => s.override role

-- Other surroundings in which some questions have the same answers.
def Agrees (s s' : Surroundings) (asked : List Question) : Prop :=
  ∀ q ∈ asked, s'.answer q = s.answer q

end Surroundings

namespace Binary

namespace Source

variable (s : Surroundings) (role : Role) (explicit : Option Path) (dir : Path)

def rank : Source → Nat
  | .explicit _ => 0
  | .override _ => 1
  | .engineDir => 2
  | .searchPath => 3

def Applies : Source → Prop
  | .explicit path => explicit = some path
  | .override value => s.override role = some value
  | .engineDir => s.isFile (dir.join ⟨role.name⟩)
  | .searchPath => True

def Gives : Source → Path → Prop
  | .explicit path, found =>
    if s.isFile path then s.resolve path = .ok found else s.which path = .ok found
  | .override value, found =>
    value ≠ "" ∧ s.isThere ⟨value⟩ ∧ s.resolve ⟨value⟩ = .ok found
  | .engineDir, found => s.resolve (dir.join ⟨role.name⟩) = .ok found
  | .searchPath, found => s.which ⟨role.name⟩ = .ok found

-- What is asked until it is clear that the source applies, and then to use it.
def asks : Source → List Surroundings.Question
  | .explicit path =>
    [.isFile path, if s.isFile path then .resolve path else .which path]
  | .override value =>
    .override role :: if value.isEmpty then [] else [.isThere ⟨value⟩, .resolve ⟨value⟩]
  | .engineDir =>
    [.override role, .isFile (dir.join ⟨role.name⟩), .resolve (dir.join ⟨role.name⟩)]
  | .searchPath =>
    [.override role, .isFile (dir.join ⟨role.name⟩), .which ⟨role.name⟩]

end Source

-- How a look-up of a binary goes about with its source: nothing but this source decides.
structure Uses (s : Surroundings) (role : Role) (explicit : Option Path) (dir : Path)
    (source : Source) : Prop where
  applies : source.Applies s role explicit dir
  first   : ∀ other : Source, other.Applies s role explicit dir → source.rank ≤ other.rank
  found   : ∀ path, (locate s role explicit dir).2 = .ok path ↔ source.Gives s role dir path
  failed  : ∀ f, (locate s role explicit dir).2 = .error f →
    ∃ reason, f = .launch role.name (.notFound reason)
  -- even where another source would give a path
  refused : (∀ path, ¬source.Gives s role dir path) →
    ∃ reason, (locate s role explicit dir).2 = .error (.launch role.name (.notFound reason))
  empty   : source = .override "" → (locate s role explicit dir).2 =
    .error (.launch role.name (.notFound (.emptyVariable role)))
  missing : ∀ value, source = .override value → value ≠ "" → ¬s.isThere ⟨value⟩ →
    (locate s role explicit dir).2 =
      .error (.launch role.name (.notFound (.variableMissing role ⟨value⟩)))
  warned  : (locate s role explicit dir).1 = if source = .searchPath then
    [.warn (s!"No '{role.name}' in '{dir}' and '{role.envName}' is not set "
      ++ "so looking in user's 'PATH'")] else []
  alone   : ∀ s' : Surroundings, s.Agrees s' (source.asks s role dir) →
    locate s' role explicit dir = locate s role explicit dir
  -- the other binary has no part in it
  own     : .override role.other ∉ source.asks s role dir
  named   : source = .engineDir ∨ source = .searchPath →
    ∀ q ∈ source.asks s role dir, ∀ path, q.path? = some path → path.name? = some role.name

end Binary

end EngineBench
