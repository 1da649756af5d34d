namespace EngineBench

namespace Text

-- Looks between the places `lo` and `hi` of the table.
def inRangesBetween (table : Array (Nat × Nat)) (code lo hi : Nat) : Bool :=
  if _h : lo < hi then
    let mid := (lo + hi) / 2
    match table[mid]? with
    | none => false
    | some (first, last) =>
      if code < first then inRangesBetween table code lo mid
      else if last < code then inRangesBetween table code (mid + 1) hi
      else true
  else false
termination_by hi - lo

def inRanges (table : Array (Nat × Nat)) (c : Char) : Bool :=
  inRangesBetween table c.toNat 0 table.size

end Text

end EngineBench
