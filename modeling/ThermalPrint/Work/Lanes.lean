import ThermalPrint.Session.Basic

/-
Queues of work.  Each session has a lane of its own or shares one with others, and never
changes it, so that what is asked of a session is done in order.  Work that must not wait
behind other work goes to a queue apart.
-/

namespace ThermalPrint

inductive QueueName
  | lane (number : Nat)
  | control
deriving DecidableEq, Repr

/-- Queues of work of a type `α`, each with its front first. -/
structure Lanes (α : Type) where
  lanes : List (List α) := [[], []]
  control : List α := []
  /-- The lanes of the sessions that have one. -/
  assigned : List (SessionId × Nat) := []

namespace Lanes

variable {α : Type}

def ofCount (n : Nat) : Lanes α := { lanes := List.replicate n [] }

/-- The lane of a session.  Sessions that have none yet get the lanes in turn. -/
def laneOf (q : Lanes α) (session : SessionId) : Nat × Lanes α :=
  match q.assigned.lookup session with
  | some lane => (lane, q)
  | none =>
    let lane := q.assigned.length % q.lanes.length
    (lane, { q with assigned := q.assigned ++ [(session, lane)] })

/-- The lane of a number, counted from the last one backwards if it is below zero. -/
def laneAt (q : Lanes α) (n : Int) : Except Fault QueueName :=
  let place := if n < 0 then n + q.lanes.length else n
  if 0 ≤ place ∧ place < q.lanes.length then .ok (.lane place.toNat)
  else .error (.value .index "list index out of range")

def waiting (q : Lanes α) : QueueName → List α
  | .lane n => q.lanes[n]?.getD []
  | .control => q.control

def setQueue (q : Lanes α) (name : QueueName) (work : List α) : Lanes α :=
  match name with
  | .lane n => { q with lanes := q.lanes.set n work }
  | .control => { q with control := work }

def push (q : Lanes α) (name : QueueName) (work : α) : Lanes α :=
  q.setQueue name (q.waiting name ++ [work])

/-- Takes the work at the front of a queue. -/
def pop? (q : Lanes α) (name : QueueName) : Option (α × Lanes α) :=
  match q.waiting name with
  | [] => none
  | work :: rest => some (work, q.setQueue name rest)

def sizes (q : Lanes α) : List Nat := q.lanes.map List.length

end Lanes
end ThermalPrint
