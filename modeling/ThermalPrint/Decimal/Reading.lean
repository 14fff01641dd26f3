import ThermalPrint.Decimal.Binary
import ThermalPrint.Text.Digit

/-
Reading doubles.
-/

namespace ThermalPrint
namespace Decimal

/-- The double nearest to `m * 10 ^ e`.  Exponents that settle the result by
themselves are not computed with. -/
def ofScientific (negative : Bool) (m : Nat) (e : Int) : Float :=
  if m == 0 then assemble negative 0
  else
    -- the value lies between `10 ^ (e + d - 1)` and `10 ^ (e + d)`
    let d : Int := (m.log2 * 30103 / 100000 + 1 : Nat)
    if e + d > 400 then assemble negative infinityBits
    else if e + d < -400 then assemble negative 0
    else match e with
      | .ofNat n => nearest negative (m * 10 ^ n) 1
      | .negSucc n => nearest negative m (10 ^ (n + 1))

/-- The texts, in lower case, of the values that are not written in digits. -/
private def namedValue? (t : Text) : Option Float :=
  let w := t.map CodePoint.toLower
  if w == "inf" || w == "infinity" then some (assemble false infinityBits)
  else if w == "nan" then some (assemble false (infinityBits + 2 ^ 51))
  else none

private def exponentPart (t : Text) : Option (Int × Text) :=
  match t with
  | c :: rest =>
    if c = 'e' || c = 'E' then
      let (negative, body) := Text.signed rest
      (Text.digitRun body).map fun (n, _, rest) => (if negative then -(n : Int) else n, rest)
    else some (0, t)
  | [] => some (0, [])

private def decimalNumber (negative : Bool) (t : Text) : Option Float := do
  let (whole, wholeCount, rest) := (Text.digitRun t).getD (0, 0, t)
  let (fraction, places, rest) ←
    match rest with
    | '.' :: after =>
      match after with
      | c :: _ =>
        if (Text.digitValue? c).isSome then Text.digitRun after else some (0, 0, after)
      | [] => some (0, 0, [])
    | _ => some (0, 0, rest)
  if wholeCount + places == 0 then none
  let (e, rest) ← exponentPart rest
  if rest.isEmpty then
    some (ofScientific negative (whole * 10 ^ places + fraction) (e - places))
  else none

def readFloat? (t : Text) : Option Float :=
  let t := (t.dropWhile Text.isNumberSpace).reverse.dropWhile Text.isNumberSpace |>.reverse
  let (negative, body) := Text.signed t
  match namedValue? body with
  | some v => some (if negative then -v else v)
  | none => decimalNumber negative body

end Decimal
end ThermalPrint
