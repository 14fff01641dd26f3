import ThermalPrint.Text.CodePoint

/-
JSON values.  Whole numbers and doubles are different values, and the members of an
object keep their order.
-/

namespace ThermalPrint

inductive Json
  | null
  | bool (value : Bool)
  | int (value : Int)
  | float (value : Float)
  | str (value : Text)
  | arr (items : List Json)
  | obj (members : List (Text × Json))
deriving Inhabited

namespace Json

def get? (name : Text) : Json → Option Json
  | obj members => members.lookup name
  | _ => none

/-- Puts a member into a list of members: in the place of one of its name, or at
the end. -/
def put (name : Text) (value : Json) : List (Text × Json) → List (Text × Json)
  | [] => [(name, value)]
  | (n, v) :: rest => if n == name then (n, value) :: rest else (n, v) :: put name value rest

/-- The members of an object whose names may repeat: each name once, where it first
stood, with its last value. -/
def ofMembers (members : List (Text × Json)) : List (Text × Json) :=
  members.foldl (fun done m => put m.1 m.2 done) []

/-- The value counts as nothing: null, false, zero, or empty. -/
def isEmpty : Json → Bool
  | null => true
  | bool b => !b
  | int n => n == 0
  | float x => x == 0.0
  | str s => s.isEmpty
  | arr items => items.isEmpty
  | obj members => members.isEmpty

def ofText? : Option Text → Json
  | some s => str s
  | none => null

end Json
end ThermalPrint
