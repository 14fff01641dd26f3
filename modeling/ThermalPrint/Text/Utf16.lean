import ThermalPrint.Bytes
import ThermalPrint.Text.Blank

/-
Reading UTF-16 and UTF-32, where halves of surrogate pairs make characters together.
-/

namespace ThermalPrint

namespace Text

/-- Numbers of two bytes each, behind those of `done`, which are reversed; none where a byte
is left over. -/
private def unitsFrom (bigEndian : Bool) (done : List Nat) : List UInt8 → Option (List Nat)
  | [] => some done.reverse
  | [_] => none
  | a :: b :: rest =>
    let n := if bigEndian then a.toNat * 256 + b.toNat else b.toNat * 256 + a.toNat
    unitsFrom bigEndian (n :: done) rest

private def isHigh (n : Nat) : Bool := 0xD800 ≤ n && n < 0xDC00
private def isLow (n : Nat) : Bool := 0xDC00 ≤ n && n < 0xE000

/-- The characters that units stand for, behind those of `done`, which are reversed. -/
private def ofUnitsFrom (done : Text) : List Nat → Text
  | [] => done.reverse
  | [a] => (.ofNat a :: done).reverse
  | a :: b :: rest =>
    if isHigh a && isLow b then
      ofUnitsFrom (.ofNat (0x10000 + (a - 0xD800) * 0x400 + (b - 0xDC00)) :: done) rest
    else ofUnitsFrom (.ofNat a :: done) (b :: rest)

def ofUtf16? (bigEndian : Bool) (bytes : List UInt8) : Option Text :=
  (unitsFrom bigEndian [] bytes).map (ofUnitsFrom [])

private def ofWordsFrom (bigEndian : Bool) (done : Text) : List UInt8 → Option Text
  | [] => some done.reverse
  | a :: b :: c :: d :: rest =>
    let n := (if bigEndian then [a, b, c, d] else [d, c, b, a]).foldl
      (fun v b => v * 256 + b.toNat) 0
    if n < 0x110000 then ofWordsFrom bigEndian (.ofNat n :: done) rest else none
  | _ => none

def ofUtf32? (bigEndian : Bool) (bytes : List UInt8) : Option Text :=
  ofWordsFrom bigEndian [] bytes

end Text

end ThermalPrint
