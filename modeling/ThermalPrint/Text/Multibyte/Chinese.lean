import ThermalPrint.Text.Grid.Big5
import ThermalPrint.Text.Grid.Windows
import ThermalPrint.Text.Grid.Gb2312
import ThermalPrint.Text.Grid.Gbk
import ThermalPrint.Text.Grid.HongKong
import ThermalPrint.Text.Multibyte.Basic

/-
Chinese character sets: the family of GB 2312 and the family of Big5.
-/

namespace ThermalPrint
namespace Text
namespace Multibyte

def gb2312 : Multibyte where
  code? c := ascii? c <|> (Text.gb2312.place? c).map upperBytes

/-- Rows of 190 cells; the second byte leaves out 7F. -/
private def bytes190 (place : Nat × Nat) : List UInt8 :=
  [byte place.1, byte (if place.2 < 63 then 0x40 + place.2 else 0x41 + place.2)]

/-- A character of two bytes in GBK.  The middle dot of the katakana is not one, for its
place holds the Latin one. -/
private def gbkWide? (c : Char) : Option (List UInt8) :=
  if c = '\u30fb' then none
  else (gbkAdditions.place? c).map bytes190 <|> (Text.gb2312.place? c).map upperBytes

def gbk : Multibyte where
  code? c := ascii? c <|> gbkWide? c

/-- Characters with numbers that follow each other, in cells that follow each other. -/
structure Stretch where
  first : Nat
  count : Nat
  row : Nat
  cell : Nat

def gb18030Stretches : List Stretch := [
    ⟨0x01f9, 1, 0xa8, 126⟩, ⟨0x20ac, 1, 0xa2, 162⟩, ⟨0x2e81, 1, 0xfe, 16⟩, ⟨0x2e84, 1, 0xfe, 20⟩,
    ⟨0x2e88, 1, 0xfe, 23⟩, ⟨0x2e8b, 1, 0xfe, 24⟩, ⟨0x2e8c, 1, 0xfe, 29⟩, ⟨0x2e97, 1, 0xfe, 30⟩,
    ⟨0x2ea7, 1, 0xfe, 43⟩, ⟨0x2eaa, 1, 0xfe, 46⟩, ⟨0x2eae, 1, 0xfe, 49⟩, ⟨0x2eb3, 1, 0xfe, 51⟩,
    ⟨0x2eb6, 2, 0xfe, 52⟩, ⟨0x2ebb, 1, 0xfe, 57⟩, ⟨0x2eca, 1, 0xfe, 67⟩, ⟨0x2ff0, 12, 0xa9, 73⟩,
    ⟨0x303e, 1, 0xa9, 72⟩, ⟨0x3447, 1, 0xfe, 22⟩, ⟨0x3473, 1, 0xfe, 21⟩, ⟨0x359e, 1, 0xfe, 26⟩,
    ⟨0x360e, 1, 0xfe, 28⟩, ⟨0x361a, 1, 0xfe, 27⟩, ⟨0x3918, 1, 0xfe, 32⟩, ⟨0x396e, 1, 0xfe, 31⟩,
    ⟨0x39cf, 1, 0xfe, 34⟩, ⟨0x39d0, 1, 0xfe, 37⟩, ⟨0x39df, 1, 0xfe, 35⟩, ⟨0x3a73, 1, 0xfe, 36⟩,
    ⟨0x3b4e, 1, 0xfe, 40⟩, ⟨0x3c6e, 1, 0xfe, 41⟩, ⟨0x3ce0, 1, 0xfe, 42⟩, ⟨0x4056, 1, 0xfe, 47⟩,
    ⟨0x415f, 1, 0xfe, 48⟩, ⟨0x4337, 1, 0xfe, 50⟩, ⟨0x43ac, 1, 0xfe, 56⟩, ⟨0x43b1, 1, 0xfe, 55⟩,
    ⟨0x43dd, 1, 0xfe, 58⟩, ⟨0x44d6, 1, 0xfe, 59⟩, ⟨0x464c, 1, 0xfe, 61⟩, ⟨0x4661, 1, 0xfe, 60⟩,
    ⟨0x4723, 1, 0xfe, 63⟩, ⟨0x4729, 1, 0xfe, 64⟩, ⟨0x477c, 1, 0xfe, 65⟩, ⟨0x478d, 1, 0xfe, 66⟩,
    ⟨0x4947, 1, 0xfe, 68⟩, ⟨0x497a, 1, 0xfe, 69⟩, ⟨0x497d, 1, 0xfe, 70⟩, ⟨0x4982, 2, 0xfe, 71⟩,
    ⟨0x4985, 2, 0xfe, 73⟩, ⟨0x499b, 1, 0xfe, 76⟩, ⟨0x499f, 1, 0xfe, 75⟩, ⟨0x49b6, 1, 0xfe, 78⟩,
    ⟨0x49b7, 1, 0xfe, 77⟩, ⟨0x4c77, 1, 0xfe, 85⟩, ⟨0x4c9f, 3, 0xfe, 82⟩, ⟨0x4ca2, 1, 0xfe, 86⟩,
    ⟨0x4ca3, 1, 0xfe, 81⟩, ⟨0x4d13, 7, 0xfe, 87⟩, ⟨0x4dae, 1, 0xfe, 94⟩, ⟨0xe000, 94, 0xaa, 96⟩,
    ⟨0xe05e, 94, 0xab, 96⟩, ⟨0xe0bc, 94, 0xac, 96⟩, ⟨0xe11a, 94, 0xad, 96⟩,
    ⟨0xe178, 94, 0xae, 96⟩, ⟨0xe1d6, 94, 0xaf, 96⟩, ⟨0xe234, 94, 0xf8, 96⟩,
    ⟨0xe292, 94, 0xf9, 96⟩, ⟨0xe2f0, 94, 0xfa, 96⟩, ⟨0xe34e, 94, 0xfb, 96⟩,
    ⟨0xe3ac, 94, 0xfc, 96⟩, ⟨0xe40a, 94, 0xfd, 96⟩, ⟨0xe468, 94, 0xfe, 96⟩, ⟨0xe4c6, 96, 0xa1, 0⟩,
    ⟨0xe526, 96, 0xa2, 0⟩, ⟨0xe586, 96, 0xa3, 0⟩, ⟨0xe5e6, 96, 0xa4, 0⟩, ⟨0xe646, 96, 0xa5, 0⟩,
    ⟨0xe6a6, 96, 0xa6, 0⟩, ⟨0xe706, 96, 0xa7, 0⟩, ⟨0xe766, 6, 0xa2, 106⟩, ⟨0xe76d, 1, 0xa2, 163⟩,
    ⟨0xe76e, 2, 0xa2, 174⟩, ⟨0xe770, 2, 0xa2, 188⟩, ⟨0xe772, 11, 0xa4, 179⟩,
    ⟨0xe77d, 8, 0xa5, 182⟩, ⟨0xe785, 8, 0xa6, 120⟩, ⟨0xe78d, 7, 0xa6, 152⟩,
    ⟨0xe794, 2, 0xa6, 171⟩, ⟨0xe796, 1, 0xa6, 178⟩, ⟨0xe797, 9, 0xa6, 181⟩,
    ⟨0xe7a0, 15, 0xa7, 129⟩, ⟨0xe7af, 13, 0xa7, 177⟩, ⟨0xe7bc, 11, 0xa8, 85⟩,
    ⟨0xe7c7, 1, 0xa8, 123⟩, ⟨0xe7c9, 4, 0xa8, 128⟩, ⟨0xe7cd, 21, 0xa8, 169⟩,
    ⟨0xe7e2, 1, 0xa9, 24⟩, ⟨0xe7e3, 1, 0xa9, 27⟩, ⟨0xe7e4, 3, 0xa9, 29⟩, ⟨0xe7f4, 13, 0xa9, 86⟩,
    ⟨0xe801, 15, 0xa9, 175⟩, ⟨0xe810, 5, 0xd7, 185⟩, ⟨0xe816, 3, 0xfe, 17⟩, ⟨0xe81e, 1, 0xfe, 25⟩,
    ⟨0xe826, 1, 0xfe, 33⟩, ⟨0xe82b, 2, 0xfe, 38⟩, ⟨0xe831, 2, 0xfe, 44⟩, ⟨0xe83b, 1, 0xfe, 54⟩,
    ⟨0xe843, 1, 0xfe, 62⟩, ⟨0xe854, 2, 0xfe, 79⟩, ⟨0xe864, 1, 0xfe, 95⟩]

private def stretched? (c : Char) : Option (List UInt8) :=
  (gb18030Stretches.find? fun s => s.first ≤ c.toNat && c.toNat < s.first + s.count).map fun s =>
    bytes190 (s.row, s.cell + (c.toNat - s.first))

private def wideBelow (n : Nat) : Nat :=
  let inGrid (g : Grid) : Nat :=
    (g.runs.map fun (_, _, cs) => (cs.filter fun c => c.toNat < n && c ≠ Grid.gap).size).sum
  inGrid gbkAdditions + inGrid (Text.gb2312) - doubled n
    + (gb18030Stretches.map fun s => min s.count (n - s.first)).sum
where
  /-- The characters of GB 2312 that GBK has elsewhere or not at all. -/
  doubled (n : Nat) : Nat := (if 0x2015 < n then 1 else 0) + (if 0x30FB < n then 1 else 0)

/-- Four bytes that count upwards, the second and the last through ten values and the
third through 126. -/
private def fourBytes (n : Nat) : List UInt8 :=
  [byte (0x81 + n / 12600), byte (0x30 + n / 1260 % 10), byte (0x81 + n / 10 % 126),
    byte (0x30 + n % 10)]

/-- The characters that have neither one byte nor two, counted in the order of their
numbers.  Those beyond the first plane are counted from a start of their own. -/
private def gb18030Long (c : Char) : List UInt8 :=
  let n := c.toNat
  if 0x10000 ≤ n then fourBytes (189000 + (n - 0x10000))
  else
    let surrogates := if 0xE000 ≤ n then 0x800 else 0
    fourBytes (n - 0x80 - surrogates - wideBelow n)

def gb18030 : Multibyte where
  code? c := ascii? c <|> gbkWide? c <|> stretched? c <|> some (gb18030Long c)

/-- Rows of 157 cells; the second byte leaves out the values between 7E and A1. -/
private def bytes157 (place : Nat × Nat) : List UInt8 :=
  [byte place.1, byte (if place.2 < 63 then 0x40 + place.2 else 0x62 + place.2)]

def big5 : Multibyte where
  code? c := ascii? c <|> (Text.big5.place? c).map bytes157

def big5Windows : Multibyte where
  code? c := ascii? c <|> ((big5WindowsAdditions.place? c) <|> (Text.big5.place? c)).map bytes157

def hongKongPairs : List CharPair :=
  [⟨'\u00ca', '\u0304', 0x88, 34⟩, ⟨'\u00ca', '\u030c', 0x88, 36⟩,
    ⟨'\u00ea', '\u0304', 0x88, 65⟩, ⟨'\u00ea', '\u030c', 0x88, 67⟩]

def big5HongKong : Multibyte where
  code? c := ascii? c <|> ((hongKongAdditions.place? c) <|> (Text.big5.place? c)).map bytes157
  pair? c d := (placeOf? hongKongPairs c d).map bytes157

end Multibyte
end Text
end ThermalPrint
