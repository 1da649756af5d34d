import EngineBench.Shutdown.Board

namespace EngineBench

namespace Shutdown

-- Any handle will do for a signal or a new listener, so these moves name none.
inductive Move
  | newListener
  | cloneHandle (h : Nat)
  | dropHandle (h : Nat)
  | dropListener (l : Nat)
  | signal
  | check (l : Nat)
  | wait (l : Nat)
  deriving DecidableEq, Repr

namespace Move

def isClone : Move → Bool
  | cloneHandle _ => true
  | _ => false

end Move

namespace Board

def move (b : Board) : Move → Board
  | .newListener => b.newListener.1
  | .cloneHandle _ => b.cloneHandle.1
  | .dropHandle h => b.dropHandle h
  | .dropListener l => b.dropListener l
  | .signal => b.signal.1
  | .check l => (b.check l).1
  | .wait l => (b.wait l).1

-- The handle or listener that a move is about is there.
def Allows (b : Board) : Move → Prop
  | .newListener | .signal => True
  | .cloneHandle h | .dropHandle h => b.handles[h]? = some true
  | .dropListener l | .check l | .wait l => (b.listener? l).isSome

-- A course of moves, each of which was allowed when it was made.
inductive Reaches (b : Board) : List Move → Board → Prop
  | refl : Reaches b [] b
  | move : Reaches b ms b₁ → b₁.Allows m → Reaches b (ms ++ [m]) (b₁.move m)

end Board

-- The listener with that number was made and is still there.
def Listening (l : Nat) (ms : List Move) : Prop :=
  l < ms.count .newListener ∧ .dropListener l ∉ ms

-- A signal was sent after the listener with that number was made.
def Signalled (l : Nat) (ms : List Move) : Prop :=
  ∃ before after, ms = before ++ .newListener :: after ∧ before.count .newListener = l ∧
    .signal ∈ after

-- Every handle is gone: the first one and all that were cloned.
def Abandoned (ms : List Move) : Prop :=
  ∀ h < ms.countP Move.isClone + 1, .dropHandle h ∈ ms

end Shutdown

end EngineBench
