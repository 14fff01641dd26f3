import ThermalPrint.Text.CodePoint

/-
UTF-7: ASCII characters stand as they are, and the others as the digits of base 64 between a
plus sign and a minus sign.
-/

namespace ThermalPrint
namespace Utf7

/-- Characters that stand as they are: ASCII without the backslash, the tilde, the plus sign
and most control characters. -/
def isDirect (c : CodePoint) : Bool :=
  let n := c.toNat
  n = 9 || n = 10 || n = 13 || (32 ≤ n && n < 126 && n ≠ 43 && n ≠ 92)

def digit (n : Nat) : CodePoint :=
  if n < 26 then .ofNat (65 + n)
  else if n < 52 then .ofNat (71 + n)
  else if n < 62 then .ofNat (n - 4)
  else if n = 62 then '+' else '/'

def isDigit (c : CodePoint) : Bool := c.is Char.isAlphanum || c = '+' || c = '/'

def units (c : CodePoint) : List Nat :=
  let n := c.toNat
  if n < 0x10000 then [n] else [0xD7C0 + n / 0x400, 0xDC00 + n % 0x400]

private def digits (count n : Nat) : Text :=
  (List.range count).reverse.map fun i => digit (n / 64 ^ i % 64)

/-- Units as digits: 48 bits are eight of them, and zeros fill up the last one. -/
def digitsOf : List Nat → Text
  | a :: b :: c :: rest => digits 8 (a * 2 ^ 32 + b * 2 ^ 16 + c) ++ digitsOf rest
  | [a, b] => digits 6 ((a * 2 ^ 16 + b) * 16)
  | [a] => digits 3 (a * 4)
  | [] => []

/-- A text behind what is `done`, which is reversed.  `run` holds the units of characters
behind the last plus sign, reversed, if there is an open one. -/
private def encodeFrom (done : Text) (run : Option (List Nat)) : Text → Text
  | [] =>
    match run with
    | none => done.reverse
    | some us => (.char '-' :: (digitsOf us.reverse).reverse ++ done).reverse
  | c :: rest =>
    match run with
    | some us =>
      if isDirect c then
        let closed := (digitsOf us.reverse).reverse ++ done
        let closed := if isDigit c || c = '-' then .char '-' :: closed else closed
        encodeFrom (c :: closed) none rest
      else encodeFrom done (some ((units c).reverse ++ us)) rest
    | none =>
      if c = '+' then encodeFrom ('-' :: '+' :: done) none rest
      else if isDirect c then encodeFrom (c :: done) none rest
      else encodeFrom ('+' :: done) (some (units c).reverse) rest

def encode (t : Text) : List UInt8 := (encodeFrom [] none t).map fun c => UInt8.ofNat c.toNat

end Utf7
end ThermalPrint
