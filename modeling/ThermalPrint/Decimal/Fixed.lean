import ThermalPrint.Decimal.Binary
import ThermalPrint.Text.Blank

/-
Doubles with a fixed number of decimal places, or of significant digits.
-/

namespace ThermalPrint
namespace Decimal

def digits (n : Nat) : Text := toString n

def ofInt (n : Int) : Text := if n < 0 then '-' :: digits n.natAbs else digits n.natAbs

def withPoint (places n : Nat) : Text :=
  if places == 0 then digits n
  else
    let ds := digits n
    let ds := List.replicate (places + 1 - ds.length) (.char '0') ++ ds
    ds.take (ds.length - places) ++ .char '.' :: ds.drop (ds.length - places)

/-- A double to a number of places, rounded from its exact value with halves to
even.  The sign of a negative value stays, also in front of a zero. -/
def fixed (places : Nat) (x : Float) : Text :=
  match parts x with
  | .nan => "nan".toText
  | .infinite negative => if negative then "-inf".toText else "inf".toText
  | .finite negative m e =>
    let body := withPoint places (roundScaled (m * 10 ^ places) 1 e)
    if negative then '-' :: body else body

/-- The double nearest to the value that `fixed` writes. -/
def roundPlaces (places : Nat) (x : Float) : Float :=
  match parts x with
  | .finite negative m e => nearest negative (roundScaled (m * 10 ^ places) 1 e) (10 ^ places)
  | _ => x

def leadingExponent (num den : Nat) : Int :=
  let guess : Int := ((digits num).length : Int) - (digits den).length
  -- the fraction lies between the powers next to the guess
  let reaches := match guess with
    | .ofNat n => decide (den * 10 ^ n ≤ num)
    | .negSucc n => decide (den ≤ num * 10 ^ (n + 1))
  if reaches then guess else guess - 1

/-- `m * 2 ^ e` rounded to `count` significant digits, and the decimal exponent of the
first of them.  Halves go to even. -/
def significantDigits (count m : Nat) (e : Int) : Text × Int :=
  let (num, den) := match e with
    | .ofNat k => (m * 2 ^ k, 1)
    | .negSucc k => (m, 2 ^ (k + 1))
  if num == 0 then (List.replicate count '0', 0)
  else
    let first := leadingExponent num den
    let q := match (count : Int) - 1 - first with
      | .ofNat k => roundDiv (num * 10 ^ k) den
      | .negSucc k => roundDiv num (den * 10 ^ (k + 1))
    let ds := digits q
    -- a value rounded up to the next power of ten has a digit too many
    if ds.length > count then (ds.take count, first + 1) else (ds, first)

def exponentText (x : Int) : Text :=
  let ds := digits x.natAbs
  .char 'e' :: .char (if x < 0 then '-' else '+') ::
    List.replicate (2 - ds.length) (.char '0') ++ ds

private def pointed (keepPoint : Bool) (whole fraction : Text) : Text :=
  if fraction.isEmpty && !keepPoint then whole else whole ++ .char '.' :: fraction

private def trimmed (keepZeros : Bool) (fraction : Text) : Text :=
  if keepZeros then fraction else (fraction.reverse.dropWhile (· == .char '0')).reverse

def scientificPlaces (keepPoint : Bool) (places m : Nat) (e : Int) : Text :=
  let (ds, x) := significantDigits (places + 1) m e
  pointed keepPoint (ds.take 1) (ds.drop 1) ++ exponentText x

/-- `m * 2 ^ e` in so many significant digits, with an exponent where the value is small
or has more digits in front of the point than that.  Zeros at the end are left out unless
they are to be kept. -/
def generalDigits (keepZeros : Bool) (count m : Nat) (e : Int) : Text :=
  let (ds, x) := significantDigits count m e
  if x < -4 ∨ (count : Int) ≤ x then
    pointed keepZeros (ds.take 1) (trimmed keepZeros (ds.drop 1)) ++ exponentText x
  else if x < 0 then
    pointed keepZeros ['0'] (trimmed keepZeros (List.replicate (-x - 1).toNat (.char '0') ++ ds))
  else
    let n := x.toNat + 1
    pointed keepZeros (ds.take n) (trimmed keepZeros (ds.drop n))

end Decimal
end ThermalPrint
