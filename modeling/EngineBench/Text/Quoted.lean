import EngineBench.Text.Extending
import EngineBench.Text.Hidden
import EngineBench.Text.Ranges

namespace EngineBench

namespace Text

def hexDigits (n : Nat) : String :=
  String.ofList (Nat.toDigits 16 n)

def escapeChar (c : Char) : String :=
  if c = '\x00' then "\\0"
  else if c = '\t' then "\\t"
  else if c = '\r' then "\\r"
  else if c = '\n' then "\\n"
  else if c = '"' then "\\\""
  else if c = '\\' then "\\\\"
  else if inRanges extendingRanges c || inRanges hiddenRanges c then
    "\\u\x7b" ++ hexDigits c.toNat ++ "\x7d"
  else c.toString

-- Quotes, backslashes and whatever has no form of its own are escaped.
def quoted (s : String) : String :=
  "\"" ++ String.join (s.toList.map escapeChar) ++ "\""

end Text

end EngineBench
