import ThermalPrint.Session.Connection

/-
Whoever wants to be told of something, in the order in which they asked for it.
-/

namespace ThermalPrint

/-- Listeners, each under a number of its own. -/
structure Listeners (α : Type) where
  entries : List (Nat × α) := []
  next : Nat := 0

namespace Listeners

variable {α : Type}

def subscribe (l : Listeners α) (listener : α) : Listeners α :=
  ⟨l.entries ++ [(l.next, listener)], l.next + 1⟩

/-- Takes out the listener under a number; nothing happens if it has gone already. -/
def unsubscribe (l : Listeners α) (number : Nat) : Listeners α :=
  { l with entries := l.entries.filter fun e => e.1 != number }

def toList (l : Listeners α) : List α := l.entries.map (·.2)

/-- Tells everyone who listens now.  Who comes or goes while this is done does not
change whom it reaches, and a listener that fails does not keep the others from it. -/
def tell {m : Type → Type} [Monad m] (l : Listeners α) (call : α → m (Option Fault)) : m Unit :=
  l.toList.forM fun listener => do
    let _ ← call listener

end Listeners

/-- A connection whose states listeners are told of, behind whoever is told of them already. -/
def Line.heardBy {m : Type → Type} [Monad m] {τ α : Type} (line : Line m τ)
    (listeners : m (Listeners α)) (call : α → ConnectionState → m (Option Fault)) : Line m τ :=
  { line with
    tell := fun state => do
      let now ← listeners
      line.tell state
      now.tell (call · state) }

end ThermalPrint
