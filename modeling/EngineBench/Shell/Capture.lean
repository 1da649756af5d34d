import EngineBench.Shell.Syntax

namespace EngineBench

namespace Shell

mutual

def Part.capture? : Part → Option (Command × (String → Part))
  | .capture c quoted => some (c, fun s => .value s quoted)
  | .arith ps quoted => (wordCapture? ps).map fun (c, fill) => (c, fun s => .arith (fill s) quoted)
  | .param name edit quoted =>
    edit.capture?.map fun (c, fill) => (c, fun s => .param name (fill s) quoted)
  | .text .. | .value .. => none

def Edit.capture? : Edit → Option (Command × (String → Edit))
  | .choice kind colon w =>
    (wordCapture? w).map fun (c, fill) => (c, fun s => .choice kind colon (fill s))
  | .trim atEnd longest w =>
    (wordCapture? w).map fun (c, fill) => (c, fun s => .trim atEnd longest (fill s))
  | .plain | .length => none

def wordCapture? : List Part → Option (Command × (String → List Part))
  | [] => none
  | p :: ps =>
    match p.capture? with
    | some (c, fill) => some (c, fun s => fill s :: ps)
    | none => (wordCapture? ps).map fun (c, fill) => (c, fun s => p :: fill s)

end

-- The first element in which something is found, with the way to change it there.
def first? {α β : Type} (f : α → Option (β × (String → α))) :
    List α → Option (β × (String → List α))
  | [] => none
  | a :: as =>
    match f a with
    | some (b, fill) => some (b, fun s => fill s :: as)
    | none => (first? f as).map fun (b, fill) => (b, fun s => a :: fill s)

namespace Redirect

def capture? : Redirect → Option (Command × (String → Redirect))
  | mk fd direction target =>
    (wordCapture? target).map fun (c, fill) => (c, fun s => mk fd direction (fill s))

end Redirect

def branchCapture? (b : List Word × Command) :
    Option (Command × (String → List Word × Command)) :=
  (first? wordCapture? b.1).map fun (c, fill) => (c, fun s => (fill s, b.2))

namespace Command

-- Looks only at what a command itself needs, not at the commands inside it.
def capture? : Command → Option (Command × (String → Command))
  | simple as ws rs =>
    match first? wordCapture? ws with
    | some (c, fill) => some (c, fun s => simple as (fill s) rs)
    | none =>
      match first? Redirect.capture? rs with
      | some (c, fill) => some (c, fun s => simple as ws (fill s))
      | none => (first? valueCapture? as).map fun (c, fill) => (c, fun s => simple (fill s) ws rs)
  | each name (some ws) body =>
    (first? wordCapture? ws).map fun (c, fill) => (c, fun s => each name (some (fill s)) body)
  | branch w bs =>
    match wordCapture? w with
    | some (c, fill) => some (c, fun s => branch (fill s) bs)
    | none => (first? branchCapture? bs).map fun (c, fill) => (c, fun s => branch w (fill s))
  | group body rs =>
    (first? Redirect.capture? rs).map fun (c, fill) => (c, fun s => group body (fill s))
  | subshell body rs =>
    (first? Redirect.capture? rs).map fun (c, fill) => (c, fun s => subshell body (fill s))
  | onLine line c => c.capture?.map fun (inner, fill) => (inner, fun s => onLine line (fill s))
  | _ => none
where
  valueCapture? (a : String × Word) : Option (Command × (String → String × Word)) :=
    (wordCapture? a.2).map fun (c, fill) => (c, fun s => (a.1, fill s))

end Command

end Shell

end EngineBench
