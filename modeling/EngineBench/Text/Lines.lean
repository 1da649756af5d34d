namespace EngineBench

namespace Text

-- A line that was ended by a line feed, without a carriage return at its end.
def withoutReturn (line : String) : String :=
  if line.endsWith "\r" then (line.dropEnd 1).toString else line

-- The last line need not be ended; it is none if nothing stands behind the last line feed.
def lines (s : String) : List String :=
  match (s.splitOn "\n").reverse with
  | [] => []
  | last :: ended =>
    (ended.map withoutReturn).reverse ++ (if last.isEmpty then [] else [last])

def firstLine (s : String) : String :=
  (lines s).headD ""

end Text

end EngineBench
