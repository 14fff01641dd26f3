import ThermalPrint.Decimal.Fixed

/-
The decimal of fewest digits that reads back as a given double.
-/

namespace ThermalPrint
namespace Decimal

private def dyadic (num : Nat) : Int → Nat × Nat
  | .ofNat n => (num * 2 ^ n, 1)
  | .negSucc n => (num, 2 ^ (n + 1))

private def compareAt (c : Nat) (q : Int) (v : Nat × Nat) : Ordering :=
  match q with
  | .ofNat n => compare (c * 10 ^ n * v.2) v.1
  | .negSucc n => compare (c * v.2) (v.1 * 10 ^ (n + 1))

/-- The exponent `k` with `10 ^ (k - 1) ≤ v < 10 ^ k`. -/
private def decimalExponent (m : Nat) (e : Int) : Int :=
  let v := dyadic m e
  let guess : Int := ((m.log2 : Int) + e) * 30103 / 100000 + 1
  if compareAt 1 guess v != .gt then guess + 1
  else if compareAt 1 (guess - 1) v == .gt then guess - 1
  else guess

/-- The shortest decimal `c * 10 ^ q` that rounds to the positive double `m * 2 ^ e`,
and of those the nearest to it. -/
def shortest (m : Nat) (e : Int) : Nat × Int :=
  let v := dyadic (4 * m) (e - 2)
  let below := dyadic (if m == 2 ^ 52 && e > -1074 then 4 * m - 1 else 4 * m - 2) (e - 2)
  let above := dyadic (4 * m + 2) (e - 2)
  let even := m % 2 == 0
  let inside (c : Nat) (q : Int) : Bool :=
    let low := compareAt c q below
    let high := compareAt c q above
    (low == .gt || even && low == .eq) && (high == .lt || even && high == .eq)
  let k := decimalExponent m e
  go v inside k 18 1
where
  /-- Tries `count` digits, then more, as long as there is fuel. -/
  go (v : Nat × Nat) (inside : Nat → Int → Bool) (k : Int) : Nat → Nat → Nat × Int
    | 0, _ => (0, 0)
    | fuel + 1, count =>
      let q := k - count
      let (num, den) := match q with
        | .ofNat n => (v.1, v.2 * 10 ^ n)
        | .negSucc n => (v.1 * 10 ^ (n + 1), v.2)
      let c := num / den
      match inside c q, inside (c + 1) q with
      | true, true => (roundDiv num den, q)
      | true, false => (c, q)
      | false, true => (c + 1, q)
      | false, false => go v inside k fuel (count + 1)

private def significant (c : Nat) : Text :=
  ((digits c).reverse.dropWhile (· == .char '0')).reverse

/-- How a double is written.  `exponentFrom` and `exponentTo` bound the decimal
exponents that are written positionally, where one place at least follows the
point; the others have an exponent with a sign and at least two digits. -/
structure Style where
  exponentFrom : Int
  exponentTo : Int
  nan : Text
  infinity : Text

private def positional (ds : Text) (k : Int) : Text :=
  if k ≤ 0 then .char '0' :: .char '.' :: List.replicate (-k).toNat (.char '0') ++ ds
  else
    let n := k.toNat
    if ds.length ≤ n then ds ++ List.replicate (n - ds.length) (.char '0') ++ [.char '.', .char '0']
    else ds.take n ++ .char '.' :: ds.drop n

private def scientific (ds : Text) (k : Int) : Text :=
  let head : Text := match ds with
    | [] => ['0']
    | [d] => [d]
    | d :: rest => d :: '.' :: rest
  let x := k - 1
  let body := digits x.natAbs
  head ++ .char 'e' :: .char (if x < 0 then '-' else '+')
    :: List.replicate (2 - body.length) (.char '0') ++ body

/-- A double in the fewest digits that read back. -/
def Style.text (style : Style) (x : Float) : Text :=
  match parts x with
  | .nan => style.nan
  | .infinite negative =>
    if negative then '-' :: style.infinity else style.infinity
  | .finite negative m e =>
    let body : Text :=
      if m == 0 then ['0', '.', '0']
      else
        let (c, q) := shortest m e
        let k := q + (digits c).length
        let ds := significant c
        if style.exponentFrom ≤ k - 1 && k - 1 ≤ style.exponentTo then positional ds k
        else scientific ds k
    if negative then '-' :: body else body

end Decimal
end ThermalPrint
