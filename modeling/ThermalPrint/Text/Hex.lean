import ThermalPrint.Text.Blank

/-
Hexadecimal digits: bytes as pairs of them, and code points padded with zeros.
-/

namespace ThermalPrint
namespace Text

def hexDigit (n : Nat) : CodePoint :=
  if n < 10 then .ofNat (48 + n) else .ofNat (87 + n)

def hexValue? (c : CodePoint) : Option Nat :=
  let n := c.toNat
  if 48 ≤ n && n ≤ 57 then some (n - 48)
  else if 97 ≤ n && n ≤ 102 then some (n - 87)
  else if 65 ≤ n && n ≤ 70 then some (n - 55)
  else none

def hexPlaces : Nat → Nat → Text
  | 0, _ => []
  | places + 1, n => hexPlaces places (n / 16) ++ [hexDigit (n % 16)]

def hexOfByte (b : UInt8) : Text := [hexDigit (b.toNat / 16), hexDigit (b.toNat % 16)]

def hexOfBytes (bytes : List UInt8) : Text := bytes.flatMap hexOfByte

/-- Bytes out of pairs of digits.  Otherwise the place that is at fault: the first
character outside ASCII if there is one, else the first that is no digit, else the
end of a text with an odd number of digits. -/
def bytesOfHex (t : Text) : Except Nat (List UInt8) :=
  match t.findIdx? (fun c => c.toNat ≥ 128) with
  | some place => .error place
  | none => go 0 [] t
where
  /-- `done` holds the bytes so far, reversed. -/
  go (place : Nat) (done : List UInt8) : Text → Except Nat (List UInt8)
    | [] => .ok done.reverse
    | [c] => .error (if (hexValue? c).isSome then place + 1 else place)
    | c :: d :: rest =>
      match hexValue? c, hexValue? d with
      | none, _ => .error place
      | some _, none => .error (place + 1)
      | some high, some low => go (place + 2) (UInt8.ofNat (16 * high + low) :: done) rest

end Text
end ThermalPrint
