import EngineBench.Text.Lossy

namespace EngineBench

namespace Text

namespace Raw

-- In raw text each character stands for one byte.
def ofBytes (bytes : ByteArray) : String :=
  String.ofList (bytes.toList.map fun b => Char.ofNat b.toNat)

def toBytes (raw : String) : ByteArray :=
  ⟨(raw.toList.map fun c => UInt8.ofNat c.toNat).toArray⟩

def ofText (s : String) : String :=
  ofBytes s.toUTF8

def toText (raw : String) : String :=
  Lossy.decode (toBytes raw)

end Raw

end Text

end EngineBench
