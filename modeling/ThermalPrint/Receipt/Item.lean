import ThermalPrint.Decimal.Fixed
import ThermalPrint.Json.Number
import ThermalPrint.Json.Writer

/-
The items of a receipt out of loosely typed values.  A price is an amount of money, a whole
number, which is exact, or a double.  What cannot be a pair of a label and a price is refused
where the prices are added up.
-/

namespace ThermalPrint

inductive Amount
  | whole (n : Int)
  | real (x : Float)

namespace Amount

def toFloat : Amount → Except Fault Float
  | whole n => Json.floatOfInt n
  | real x => .ok x

/-- Two whole numbers stay whole; otherwise both become doubles. -/
private def combine (onInt : Int → Int → Int) (onFloat : Float → Float → Float) :
    Amount → Amount → Except Fault Amount
  | whole a, whole b => .ok (whole (onInt a b))
  | a, b => do
    let x ← a.toFloat
    let y ← b.toFloat
    .ok (real (onFloat x y))

def add : Amount → Amount → Except Fault Amount := combine (· + ·) (· + ·)

def mul : Amount → Amount → Except Fault Amount := combine (· * ·) (· * ·)

/-- The sum of amounts, taken from left to right. -/
def total (amounts : List Amount) : Except Fault Amount := amounts.foldlM add (whole 0)

def rounded : Amount → Amount
  | whole n => whole n
  | real x => real (Decimal.roundPlaces 2 x)

def places (n : Nat) (a : Amount) : Except Fault Text := a.toFloat.map (Decimal.fixed n)

/-- An amount with two places behind a currency mark. -/
def money (a : Amount) (currency : Text := "$") : Except Fault Text :=
  (a.places 2).map (currency ++ ·)

/-- The number that a loosely typed value is; truth values count as zero and one. -/
def ofJson? : Json → Option Amount
  | .int n => some (whole n)
  | .bool b => some (whole (if b then 1 else 0))
  | .float x => some (real x)
  | _ => none

def ofJson (v : Json) : Except Fault Amount :=
  match ofJson? v, v with
  | some a, _ => .ok a
  | none, .str _ => .error (.value .value "Unknown format code 'f' for object of type 'str'")
  | none, v =>
    .error (.value .wrongType s!"unsupported format string passed to {v.typeName}.__format__")

def typeName : Amount → String
  | whole _ => "int"
  | real _ => "float"

end Amount

namespace Receipt

structure Item where
  label : Text
  price : Amount

namespace Item

private def refusal (message : Text) : Fault := .value .wrongType message

def parts? : Json → Option (List Json)
  | .arr parts => some parts
  | .str s => some (s.map fun c => .str [c])
  | .obj members => some (members.map fun (name, _) => .str name)
  | _ => none

def pairOf (v : Json) : Except Fault (Json × Json) :=
  match parts? v with
  | none => .error (refusal s!"cannot unpack non-iterable {v.typeName} object")
  | some [label, price] => .ok (label, price)
  | some (_ :: _ :: _ :: _) =>
    .error (.value .value "too many values to unpack (expected 2)")
  | some parts =>
    .error (.value .value s!"not enough values to unpack (expected 2, got {parts.length})")

def ofJson (sum : Amount) (v : Json) : Except Fault Item := do
  let (label, price) ← pairOf v
  match Amount.ofJson? price with
  | some amount => .ok ⟨label.plainText, amount⟩
  | none =>
    .error (refusal (s!"unsupported operand type(s) for +: '{sum.typeName}' and "
      ++ s!"'{price.typeName}'"))

def listFrom (sum : Amount) : List Json → Except Fault (List Item)
  | [] => .ok []
  | v :: rest => do
    let item ← ofJson sum v
    let items ← listFrom (← sum.add item.price) rest
    .ok (item :: items)

def listOf (v : Json) : Except Fault (List Item) :=
  match parts? v with
  | none => .error (refusal s!"'{v.typeName}' object is not iterable")
  | some parts => listFrom (.whole 0) parts

end Item
end Receipt

end ThermalPrint
