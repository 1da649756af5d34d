import EngineBench.Machine.State
import EngineBench.Text.Raw

namespace EngineBench

namespace Machine

def holdsFrame (o : OpeningId) : Frame → Bool
  | .gather _ p _ _ => o = p
  | .restore fds => fds.any (·.2 = o)
  | _ => false

def Process.holds (p : Process) (o : OpeningId) : Bool :=
  p.fds.any (·.2 = o) || match p.activity with
    | .shell s => s.frames.any (holdsFrame o)
    | _ => false

-- Whether some process has a stream open.
def isHeld (m : Machine) (s : Stream) : Bool :=
  m.live.any fun p => m.openings.zipIdx.any fun (o, i) => o.stream = s && p.holds i

-- Whether some process may write to a file.
def isWritten (id : NodeId) (m : Machine) : Bool :=
  m.live.any fun p => m.openings.zipIdx.any fun (o, i) =>
    o.stream = .node id && o.use ≠ .reading && p.holds i

inductive Reading
  | bytes (b : ByteArray)
  | finished
  | blocked
  | failed (e : OsError)

-- Reads what there is, but no more than `most` bytes.
def read (o : OpeningId) (most : Nat) (m : Machine) : Reading × Machine :=
  match m.opening? o with
  | none => (.failed .badDescriptor, m)
  | some v =>
    match v.stream with
    | .nowhere => (.finished, m)
    | .aside | .collected _ | .pipeWrite _ => (.failed .badDescriptor, m)
    | .node id =>
      match if v.use = .reading then m.files.bytes id else .error .badDescriptor with
      | .error e => (.failed e, m)
      | .ok bytes =>
        let b := bytes.extract v.offset (v.offset + most)
        if b.isEmpty then (.finished, m)
        else (.bytes b, m.setOpening o { v with offset := v.offset + b.size })
    | .pipeRead id =>
      match m.pipes[id]? with
      | none => (.finished, m)
      | some pipe =>
        let b := pipe.next most
        if b.isEmpty then
          (if pipe.heldOutside || m.isHeld (.pipeWrite id) then .blocked else .finished, m)
        else (.bytes b, { m with pipes := m.pipes.setIfInBounds id (pipe.take b.size) })

-- Writes at a place; a gap before it is filled with zeros.
def writeAt (old new : ByteArray) (offset : Nat) : ByteArray :=
  let gap : ByteArray := ⟨(List.replicate (offset - old.size) (0 : UInt8)).toArray⟩
  let kept := (old ++ gap).extract 0 offset
  kept ++ new ++ old.extract (offset + new.size) old.size

namespace Output

-- So long after a line it is known outside.
def delay : Nat := 200000

-- The bytes up to the last line end, and those after it.
def splitLines (bytes : ByteArray) : ByteArray × ByteArray :=
  let rest := (bytes.toList.reverse.takeWhile (· ≠ 10)).length
  (bytes.extract 0 (bytes.size - rest), bytes.extract (bytes.size - rest) bytes.size)

-- Takes what is written at a moment.
def take (now : Nat) (bytes : ByteArray) (out : Output) : Output :=
  let (lines, line) := splitLines (out.line ++ bytes)
  if lines.validateUTF8 then { out with line }
  else { line, until? := some (out.until?.getD (now + delay)) }

def isRead (now : Nat) (out : Output) : Bool :=
  out.until?.all (now < ·)

end Output

def write (o : OpeningId) (bytes : ByteArray) (m : Machine) : Except OsError Machine :=
  match m.opening? o with
  | none => .error .badDescriptor
  | some v =>
    match v.stream with
    | .nowhere => .ok m
    | .aside => .ok (if bytes.isEmpty then m else m.say (.aside bytes))
    | .collected id =>
      match m.outputs[id]? with
      | none => .error .brokenPipe
      | some out =>
        if out.isRead m.now then
          .ok { m with outputs := m.outputs.setIfInBounds id (out.take m.now bytes) }
        else .error .brokenPipe
    | .pipeRead _ => .error .badDescriptor
    | .pipeWrite id =>
      match m.pipes[id]? with
      | none => .error .brokenPipe
      | some pipe =>
        if m.isHeld (.pipeRead id) then
          .ok { m with pipes := m.pipes.setIfInBounds id (pipe.add bytes) }
        else .error .brokenPipe
    | .node id =>
      match if v.use = .reading then none else m.files.node? id with
      | some (.file old _) =>
        let offset := if v.use = .appending then old.size else v.offset
        let m := m.setOpening o { v with offset := offset + bytes.size }
        .ok { m with files := m.files.setBytes id (writeAt old bytes offset) }
      | some .sinkhole => .ok m
      | _ => .error .badDescriptor

-- Whether there is something to read, or the end, or an error.
def isReadable (m : Machine) (o : OpeningId) : Bool :=
  match (m.read o 1).1 with
  | .blocked => false
  | _ => true

-- Opens a file for a redirection.
def openFile (cwd : NodeId) (direction : Shell.Direction) (p : Path) (m : Machine) :
    Except OsError (Machine × OpeningId) := do
  match direction with
  | .input => return m.open_ (.node (← m.files.find cwd true p)) .reading
  | .append =>
    let (files, id) ← m.files.openToWrite cwd false p
    return { m with files }.open_ (.node id) .appending
  | _ =>
    let (files, id) ← m.files.openToWrite cwd true p
    return { m with files }.open_ (.node id) .writing

end Machine

end EngineBench
