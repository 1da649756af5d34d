import EngineBench.Text.Columns

namespace EngineBench

namespace Text

structure Rule where
  left : String
  cross : String
  right : String

namespace Grid

def top : Rule := ⟨"┌", "┬", "┐"⟩

def between : Rule := ⟨"├", "┼", "┤"⟩

def bottom : Rule := ⟨"└", "┴", "┘"⟩

def cellLines (cell : String) : List String :=
  cell.splitOn "\n"

def cellWidth (cell : String) : Nat :=
  ((cellLines cell).map columns).foldl max 0

def rowHeight (row : List String) : Nat :=
  (row.map fun cell => (cellLines cell).length).foldl max 0

-- The greater of each two widths; a row may be shorter than another.
def widest : List Nat → List Nat → List Nat
  | [], ws => ws
  | vs, [] => vs
  | v :: vs, w :: ws => max v w :: widest vs ws

def columnWidths (rows : List (List String)) : List Nat :=
  (rows.map fun row => row.map cellWidth).foldl widest []

def blanks (n : Nat) : String :=
  String.ofList (List.replicate n ' ')

def dashes (n : Nat) : String :=
  String.ofList (List.replicate n '─')

def padded (width : Nat) (line : String) : String :=
  " " ++ line ++ blanks (width - columns line) ++ " "

def rule (r : Rule) (widths : List Nat) : String :=
  r.left ++ String.intercalate r.cross (widths.map fun w => dashes (w + 2)) ++ r.right

-- One terminal line of a row; cells that have no such line are blank there.
def rowLine (widths : List Nat) (row : List String) (n : Nat) : String :=
  let cells := (widths.zip row).map fun (w, cell) => padded w ((cellLines cell)[n]?.getD "")
  "│" ++ String.intercalate "│" cells ++ "│"

def rowLines (widths : List Nat) (row : List String) : List String :=
  (List.range (rowHeight row)).map (rowLine widths row)

def render (rows : List (List String)) : String :=
  let widths := columnWidths rows
  let body := (rows.map (rowLines widths)).intersperse [rule between widths]
  String.intercalate "\n" ([rule top widths] ++ body.flatten ++ [rule bottom widths])

end Grid

end Text

end EngineBench
