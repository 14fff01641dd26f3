import ThermalPrint.Json.Number

/-
The order of loosely typed values.  Numbers, texts and lists have one among their own
kind; between other values there is none, and asking for it is a fault.
-/

namespace ThermalPrint
namespace Json

private def unordered (a b : Json) : Fault :=
  .value .wrongType (s!"'<' not supported between instances of '{a.typeName}' and "
    ++ s!"'{b.typeName}'")

/-- A number or a truth value as a whole number. -/
private def whole? : Json → Option Int
  | int n => some n
  | bool b => some (if b then 1 else 0)
  | _ => none

/-- A number or a truth value as a double; one that is too large counts as infinite. -/
private def double? : Json → Option Float
  | float x => some x
  | v => (whole? v).map fun n => Decimal.nearest (n < 0) n.natAbs 1

mutual

/-- The values are the same; numbers of different kinds may be. -/
def same : Json → Json → Bool
  | null, null => true
  | str a, str b => a == b
  | arr a, arr b => sameItems a b
  | obj a, obj b => a.length == b.length && sameMembers a b
  | a, b =>
    match whole? a, whole? b with
    | some m, some n => m == n
    | _, _ =>
      match double? a, double? b with
      | some x, some y => x == y
      | _, _ => false

def sameItems : List Json → List Json → Bool
  | [], [] => true
  | a :: s, b :: t => same a b && sameItems s t
  | _, _ => false

def sameMembers : List (Text × Json) → List (Text × Json) → Bool
  | [], _ => true
  | (name, v) :: rest, others =>
    (match others.lookup name with
      | some w => same v w
      | none => false) && sameMembers rest others

end

mutual

/-- The first value stands before the second. -/
def less : Json → Json → Except Fault Bool
  | str a, str b => .ok (!Text.codesLe b a)
  | arr a, arr b => lessItems a b
  | a, b =>
    match whole? a, whole? b with
    | some m, some n => .ok (m < n)
    | _, _ =>
      match double? a, double? b with
      | some x, some y => .ok (x < y)
      | _, _ => .error (unordered a b)

def lessItems : List Json → List Json → Except Fault Bool
  | [], t => .ok (!t.isEmpty)
  | _ :: _, [] => .ok false
  | a :: s, b :: t => if same a b then lessItems s t else less a b

end

/-- The first of the least values. -/
def leastBy {α : Type} (key : α → Json) (first : α) (rest : List α) : Except Fault α :=
  rest.foldlM (fun least x => do return if ← less (key x) (key least) then x else least) first

/-- The items at the front that never fall, or that all fall; they are given in rising
order, with the rest. -/
private def frontRun {α : Type} (key : α → Json) : List α → Except Fault (List α × List α)
  | [] => .ok ([], [])
  | [x] => .ok ([x], [])
  | x :: y :: rest => do
    let falling ← less (key y) (key x)
    let (run, rest) ← go falling [y, x] y rest
    .ok (if falling then run else run.reverse, rest)
where
  /-- Goes on with a run; its items are reversed, and `last` is the last of them. -/
  go (falling : Bool) (run : List α) (last : α) : List α → Except Fault (List α × List α)
    | [] => .ok (run, [])
    | z :: rest => do
      if (← less (key z) (key last)) == falling then go falling (z :: run) z rest
      else .ok (run, z :: rest)

/-- The place of a key among the items from `low` up to before `high`, found by halving;
it is behind those that are the same. -/
private def placeIn {α : Type} (key : α → Json) (k : Json) (items : Array α) :
    Nat → Nat → Nat → Except Fault Nat
  | 0, low, _ => .ok low
  | fuel + 1, low, high =>
    if low ≥ high then .ok low
    else
      let middle := low + (high - low) / 2
      match items[middle]? with
      | none => .ok low
      | some x => do
        if ← less k (key x) then placeIn key k items fuel low middle
        else placeIn key k items fuel (middle + 1) high

/-- The items in rising order of their keys; those of the same key keep their order. -/
def sortBy {α : Type} (key : α → Json) (items : List α) : Except Fault (List α) := do
  let (run, rest) ← frontRun key items
  let sorted ← rest.foldlM (fun (done : Array α) x => do
    let place ← placeIn key (key x) done (done.size + 1) 0 done.size
    return done.toList.insertIdx place x |>.toArray) run.toArray
  return sorted.toList

def sortDownBy {α : Type} (key : α → Json) (items : List α) : Except Fault (List α) := do
  return (← sortBy key items.reverse).reverse

end Json
end ThermalPrint
