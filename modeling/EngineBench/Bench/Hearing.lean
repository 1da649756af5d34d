import EngineBench.Bench.Engine
import EngineBench.Shutdown.Move

namespace EngineBench

namespace Shutdown

structure Ear where
  board : Board
  listener : Nat
  deriving DecidableEq, Repr

namespace Ear

-- A look would find a signal.
def told (ear : Ear) : Bool :=
  (ear.board.check ear.listener).2

def look (ear : Ear) : Ear :=
  { ear with board := (ear.board.check ear.listener).1 }

-- Some moves were made, none of which ended the listener.
def Leads (ear ear' : Ear) : Prop :=
  ear'.listener = ear.listener ∧
    ∃ ms, ear.board.Reaches ms ear'.board ∧ .dropListener ear.listener ∉ ms

end Ear

end Shutdown

namespace Engine

open Shutdown (Ear)

variable {σ : Type}

-- The engine was told to end. Without a listener it never is.
def heard (ear : σ → Option Ear) (s : σ) : Bool :=
  (ear s).any Ear.told

structure Listens (e : Engine σ) (ear : σ → Option Ear) : Prop where
  seen : ∀ s, (e.shutdownSeen s).1 = heard ear s
  looked : ∀ s, ear (e.shutdownSeen s).2 = (ear s).map Ear.look
  resetState : ∀ s, Option.Rel Ear.Leads (ear s) (ear (e.resetState.after s))
  start : ∀ s, Option.Rel Ear.Leads (ear s) (ear (e.start.after s))
  stop : ∀ s, Option.Rel Ear.Leads (ear s) (ear (e.stop.after s))
  runClient : ∀ scale s, Option.Rel Ear.Leads (ear s) (ear ((e.runClient scale).after s))
  elapsed : ∀ s, ear (e.elapsed s).2 = ear s
  log : ∀ records s, ear (e.log records s) = ear s
  print : ∀ text s, ear (e.print text s) = ear s

end Engine

end EngineBench
