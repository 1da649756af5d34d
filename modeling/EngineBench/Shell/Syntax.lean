namespace EngineBench

namespace Shell

-- Where a redirection leads.
inductive Direction
  | input | output | append | duplicate
  -- the text itself is what is read
  | here
  deriving DecidableEq, Repr

-- How `${name}` may choose another value.
inductive Choice
  | default | assign | alternative | demand
  deriving DecidableEq, Repr

mutual

inductive Part
  | text (s : String) (quoted : Bool)
  -- What an expansion gave.
  | value (s : String) (quoted : Bool)
  | param (name : String) (edit : Edit) (quoted : Bool)
  | capture (c : Command) (quoted : Bool)
  | arith (parts : List Part) (quoted : Bool)

inductive Edit
  | plain
  | length
  -- With a colon an empty value counts as none.
  | choice (kind : Choice) (colon : Bool) (word : List Part)
  | trim (atEnd longest : Bool) (pattern : List Part)

inductive Redirect
  | mk (fd : Nat) (direction : Direction) (target : List Part)

inductive Command
  | skip
  | simple (assignments : List (String × List Part)) (words : List (List Part))
      (redirects : List Redirect)
  | pipeline (stages : List Command)
  | negate (c : Command)
  | seq (first second : Command)
  | both (first second : Command)
  | either (first second : Command)
  | background (c : Command)
  | cond (test yes no : Command)
  | loop (untilTrue : Bool) (test body : Command)
  | each (name : String) (words : Option (List (List Part))) (body : Command)
  | branch (word : List Part) (branches : List (List (List Part) × Command))
  | group (body : Command) (redirects : List Redirect)
  | subshell (body : Command) (redirects : List Redirect)
  | define (name : String) (body : Command)
  -- A command with the line it begins in.
  | onLine (line : Nat) (c : Command)

end

abbrev Word := List Part

end Shell

end EngineBench
