import ThermalPrint.Json.Order
import ThermalPrint.Work.Record

/-
The records of the jobs of late.  When there are too many, the oldest are forgotten.
-/

namespace ThermalPrint

namespace Registry

def momentOf (n : Nat) : Text :=
  let digits := toString n
  "2025-01-01T00:00:00." ++ "".pushn '0' (6 - digits.length) ++ digits ++ "+00:00"

end Registry

/-- Records under the ids of their jobs, in the order in which they were made. -/
structure Registry where
  limit : Int := 200
  records : List (JobId × JobRecord) := []
  /-- How many ids have been given out. -/
  issued : Nat := 0
  /-- What the clock shows when the job of a number is made. -/
  clock : Nat → Text := Registry.momentOf

inductive PruneFault
  /-- None is few enough. -/
  | nothingLeft
  /-- The oldest record shows an id under which there is none, so that looking for it
  has no end. -/
  | endless
  /-- The oldest record shows an id that cannot be one. -/
  | noId (typeName : String)
  /-- Which record is the oldest cannot be told. -/
  | unordered (fault : Fault)
deriving DecidableEq, Repr

def PruneFault.toFault : PruneFault → Fault
  | nothingLeft => .value .value "min() arg is an empty sequence"
  | endless => .value .runtime "the oldest record is not found under its id"
  | noId typeName => .value .wrongType s!"unhashable type: '{typeName}'"
  | unordered fault => fault

namespace Registry

/-- The records without the oldest one. -/
def withoutOldest (first : JobId × JobRecord) (rest : List (JobId × JobRecord)) :
    Except PruneFault (List (JobId × JobRecord)) := do
  let oldest ← (Json.leastBy (fun r => JobRecord.created r.2) first rest).mapError .unordered
  match JobRecord.shownId oldest.2 with
  | .str id => .ok ((first :: rest).filter fun r => r.1 != id)
  | .arr _ => .error (.noId "list")
  | .obj _ => .error (.noId "dict")
  | _ => .error .endless

/-- Forgets the oldest records until there are no more than `limit`. -/
def prune (limit : Int) (records : List (JobId × JobRecord)) :
    List (JobId × JobRecord) × Option PruneFault :=
  if (records.length : Int) ≤ limit then (records, none)
  else match records with
    | [] => ([], some .nothingLeft)
    | first :: rest =>
      match withoutOldest first rest with
      | .error fault => (first :: rest, some fault)
      | .ok kept =>
        if _ : kept.length < rest.length + 1 then prune limit kept
        else (first :: rest, some .endless)
termination_by records.length
decreasing_by rename_i h; exact h

def idOf (n : Nat) : JobId := s!"job{n}"

/-- Registers a job under a new id.  The record counts even where older ones cannot be
forgotten. -/
def create (g : Registry) (type : Json) (known : List (Text × Json)) :
    Except Fault JobId × Registry :=
  let n := g.issued + 1
  let (records, fault) :=
    prune g.limit (g.records ++ [(idOf n, JobRecord.new (idOf n) type (g.clock n) known)])
  (match fault with
    | none => .ok (idOf n)
    | some f => .error f.toFault,
    { g with records, issued := n })

/-- Changes the record of a job, if there is one. -/
def update (g : Registry) (id : Option JobId) (changes : List (Text × Json)) : Registry :=
  { g with records := g.records.map fun r =>
      if some r.1 = id then (r.1, JobRecord.revise r.2 (g.clock g.issued) changes) else r }

def get? (g : Registry) (id : JobId) : Option JobRecord := g.records.lookup id

/-- The records, the newest first. -/
def toList (g : Registry) : Except Fault (List JobRecord) :=
  Json.sortDownBy JobRecord.created (g.records.map (·.2))

end Registry
end ThermalPrint
