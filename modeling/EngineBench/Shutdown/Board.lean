import EngineBench.Log

namespace EngineBench

namespace Shutdown

structure Listener where
  position : Nat
  triggered : Bool
  deriving DecidableEq, Repr

-- Handles and listeners by the number they were given; those that were let go stay in the list.
structure Board where
  sent : Nat
  handles : List Bool
  listeners : List (Option Listener)
  deriving DecidableEq, Repr

-- What a listener finds when it looks.
inductive Received
  | signal
  | lagged (missed : Nat)
  | closed
  | nothing
  deriving DecidableEq, Repr

namespace Board

-- A board with one handle and no listener.
def new : Board := ⟨0, [true], []⟩

def hasHandle (b : Board) : Bool :=
  b.handles.any id

def hasListener (b : Board) : Bool :=
  b.listeners.any Option.isSome

def cloneHandle (b : Board) : Board × Nat :=
  ({ b with handles := b.handles ++ [true] }, b.handles.length)

def dropHandle (h : Nat) (b : Board) : Board :=
  { b with handles := b.handles.set h false }

-- A new listener sees only signals sent later.
def newListener (b : Board) : Board × Nat :=
  ({ b with listeners := b.listeners ++ [some ⟨b.sent, false⟩] }, b.listeners.length)

def dropListener (l : Nat) (b : Board) : Board :=
  { b with listeners := b.listeners.set l none }

def unheard : Log.Record :=
  .warn "Failed to send shutdown signal: SendError(())"

-- A signal that nobody could hear is not kept.
def signal (b : Board) : Board × Log :=
  if b.hasListener then ({ b with sent := b.sent + 1 }, []) else (b, [unheard])

def received (b : Board) (l : Listener) : Received :=
  match b.sent - l.position with
  | 0 => if b.hasHandle then .nothing else .closed
  | 1 => .signal
  | missed + 1 => .lagged missed

-- The listener after it looked. A latched listener does not look again.
def look (b : Board) (l : Listener) : Listener :=
  if l.triggered then l
  else match b.received l with
    | .signal => ⟨l.position + 1, true⟩
    | .lagged _ => ⟨b.sent - 1, true⟩
    | .closed => { l with triggered := true }
    | .nothing => l

def listener? (b : Board) (l : Nat) : Option Listener :=
  (b.listeners[l]?).join

def check (l : Nat) (b : Board) : Board × Bool :=
  match b.listener? l with
  | none => (b, false)
  | some listener =>
    let listener := b.look listener
    ({ b with listeners := b.listeners.set l (some listener) }, listener.triggered)

-- What a wait has to say about a signal that did not come as such.
def waitLog (b : Board) (l : Listener) : Log :=
  if l.triggered then []
  else match b.received l with
    | .lagged missed => [.debug s!"Shutdown listener stopped waiting: channel lagged by {missed}"]
    | .closed => [.debug "Shutdown listener stopped waiting: channel closed"]
    | _ => []

-- A wait that is given up at once if there is nothing to see.
def wait (l : Nat) (b : Board) : Board × Bool × Log :=
  match b.listener? l with
  | none => (b, false, [])
  | some listener =>
    let (after, seen) := b.check l
    (after, seen, b.waitLog listener)

end Board

end Shutdown

end EngineBench
