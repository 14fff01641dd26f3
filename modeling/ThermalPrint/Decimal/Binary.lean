import ThermalPrint.Bytes

/-
The exact value of a double, and the double nearest to a fraction.
-/

namespace ThermalPrint
namespace Decimal

/-- A double taken apart: `finite negative m e` is `m * 2 ^ e` with that sign. -/
inductive Parts
  | nan
  | infinite (negative : Bool)
  | finite (negative : Bool) (mantissa : Nat) (exponent : Int)
deriving DecidableEq, Repr

def parts (x : Float) : Parts :=
  let bits := x.toBits.toNat
  let negative := bits / 2 ^ 63 == 1
  let field : Nat := bits / 2 ^ 52 % 2 ^ 11
  let fraction : Nat := bits % 2 ^ 52
  if field == 2047 then if fraction == 0 then .infinite negative else .nan
  else if field == 0 then .finite negative fraction (-1074)
  else .finite negative (2 ^ 52 + fraction) ((field : Int) - 1075)

/-- `num / den` rounded to a whole number, a half going to the even neighbour. -/
def roundDiv (num den : Nat) : Nat :=
  let q := num / den
  let twice := 2 * (num % den)
  if twice < den then q
  else if den < twice then q + 1
  else q + q % 2

/-- `num * 2 ^ shift / den`, rounded to a whole number with halves to even. -/
def roundScaled (num den : Nat) (shift : Int) : Nat :=
  match shift with
  | .ofNat n => roundDiv (num * 2 ^ n) den
  | .negSucc n => roundDiv num (den * 2 ^ (n + 1))

def assemble (negative : Bool) (magnitude : Nat) : Float :=
  Float.ofBits (UInt64.ofNat (if negative then 2 ^ 63 + magnitude else magnitude))

def infinityBits : Nat := 2047 * 2 ^ 52

/-- The bits, without the sign, of the double nearest to `num / den`; ties go to
the even one.  A value too large gives infinity. -/
def nearestBits (num den : Nat) : Nat :=
  if num == 0 then 0
  else
    let guess : Int := (num.log2 : Int) - den.log2 - 53
    -- the quotient has 53 bits at one of two neighbouring exponents
    let exponent : Int :=
      let wide := match guess with
        | .ofNat n => decide (num ≥ den * 2 ^ (n + 53))
        | .negSucc n => decide (num * 2 ^ (n + 1) ≥ den * 2 ^ 53)
      if wide then guess + 1 else guess
    let exponent := max exponent (-1074)
    let m := roundScaled num den (-exponent)
    -- a mantissa rounded up to 2 ^ 53 carries into the exponent field by itself
    min ((exponent + 1074).toNat * 2 ^ 52 + m) infinityBits

/-- The double nearest to a fraction. -/
def nearest (negative : Bool) (num den : Nat) : Float :=
  assemble negative (nearestBits num den)

/-- The double nearest to a whole number, unless it is too large for one. -/
def ofInt? (n : Int) : Option Float :=
  let bits := nearestBits n.natAbs 1
  if bits < infinityBits then some (assemble (n < 0) bits) else none

def truncate? (x : Float) : Option Int :=
  match parts x with
  | .finite negative m e =>
    let n : Nat := match e with
      | .ofNat k => m * 2 ^ k
      | .negSucc k => m / 2 ^ (k + 1)
    some (if negative then -(n : Int) else n)
  | _ => none

/-- The whole number nearest to a finite double, a half going to the even one. -/
def round? (x : Float) : Option Int :=
  match parts x with
  | .finite negative m e =>
    let n := roundScaled m 1 e
    some (if negative then -(n : Int) else n)
  | _ => none

end Decimal
end ThermalPrint
