import ThermalPrint.Text.Grid.Basic

/-
Character sets in which a character is one or more bytes, and each character has its bytes
whatever stands around it.
-/

namespace ThermalPrint
namespace Text

structure CharPair where
  first : Char
  second : Char
  row : Nat
  cell : Nat

/-- A set with the bytes of each character that it has.  Some sets have codes of their own
for certain characters with a mark behind them. -/
structure Multibyte where
  code? : Char → Option (List UInt8)
  pair? : Char → Char → Option (List UInt8) := fun _ _ => none

namespace Multibyte

def byte (n : Nat) : UInt8 := UInt8.ofNat n

/-- A character of ASCII is its own byte. -/
def ascii? (c : Char) : Option (List UInt8) := if c.toNat < 128 then some [byte c.toNat] else none

/-- A row and a cell among 94 as two bytes in the lower half. -/
def lowerBytes (place : Nat × Nat) : List UInt8 := [byte (0x20 + place.1), byte (0x21 + place.2)]

def upperBytes (place : Nat × Nat) : List UInt8 := [byte (0xA0 + place.1), byte (0xA1 + place.2)]

def placeOf? (pairs : List CharPair) (c d : Char) : Option (Nat × Nat) :=
  (pairs.find? fun p => p.first = c && p.second = d).map fun p => (p.row, p.cell)

def unknown (set : Multibyte) : List UInt8 := (set.code? '?').getD [63]

/-- The bytes of a text behind those of `done`, which are reversed. -/
def encodeFrom (set : Multibyte) (done : List UInt8) : List Char → List UInt8
  | [] => done.reverse
  | [c] => (((set.code? c).getD set.unknown).reverse ++ done).reverse
  | c :: d :: rest =>
    match set.pair? c d with
    | some bytes => encodeFrom set (bytes.reverse ++ done) rest
    | none => encodeFrom set (((set.code? c).getD set.unknown).reverse ++ done) (d :: rest)

/-- A text in a set, with a question mark for each character that the set does not have. -/
def encode (set : Multibyte) (t : List Char) : List UInt8 := encodeFrom set [] t

end Multibyte
end Text
end ThermalPrint
