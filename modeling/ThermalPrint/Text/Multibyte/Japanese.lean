import ThermalPrint.Text.Grid.JisX0208
import ThermalPrint.Text.Grid.JisX0212
import ThermalPrint.Text.Grid.JisX0213
import ThermalPrint.Text.Grid.Windows
import ThermalPrint.Text.Multibyte.Basic

/-
Japanese character sets: the sets of JIS in the forms that are called EUC and Shift JIS.
-/

namespace ThermalPrint
namespace Text
namespace Multibyte

/-- The halfwidth katakana from U+FF61 on have one byte each. -/
def katakana? (c : Char) : Option UInt8 :=
  if 0xFF61 ≤ c.toNat && c.toNat ≤ 0xFF9F then some (byte (c.toNat - 0xFEC0)) else none

/-- The yen sign and the overline stand in the places of the backslash and the tilde. -/
def romanSign? (c : Char) : Option UInt8 :=
  if c = '\u00a5' then some 0x5C else if c = '\u203e' then some 0x7E else none

/-- Which edition of JIS X 0213 is meant: that of 2004 has ten characters more, and another
one in one place. -/
inductive Edition
  | of2000
  | of2004
deriving DecidableEq, Repr

def addedIn2004 : List Char := "俱剝吞噓姸屛幷瘦繫𠮟".toList

def Edition.isLater (edition : Edition) (c : Char) : Bool :=
  edition = .of2000 && (c = '\u9b1c' || addedIn2004.contains c)

/-- The place of a character on the first plane of JIS X 0213, if JIS X 0208 does not have
it. -/
def firstPlane? (edition : Edition) (c : Char) : Option (Nat × Nat) :=
  if edition.isLater c then none else jisX0213First.place? c

def secondPlane? (edition : Edition) (c : Char) : Option (Nat × Nat) :=
  match edition with
  | .of2000 => jisX0213Second.place? c
  | .of2004 =>
    if c = '\u9b1c' then some (93, 26)
    else if c = '\u9b1d' then none
    else jisX0213Second.place? c

/-- Kana and letters with a mark behind them that have a place on the first plane. -/
def jisX0213Pairs : List CharPair := [
    ⟨'\u304b', '\u309a', 4, 86⟩, ⟨'\u304d', '\u309a', 4, 87⟩, ⟨'\u304f', '\u309a', 4, 88⟩,
    ⟨'\u3051', '\u309a', 4, 89⟩, ⟨'\u3053', '\u309a', 4, 90⟩, ⟨'\u30ab', '\u309a', 5, 86⟩,
    ⟨'\u30ad', '\u309a', 5, 87⟩, ⟨'\u30af', '\u309a', 5, 88⟩, ⟨'\u30b1', '\u309a', 5, 89⟩,
    ⟨'\u30b3', '\u309a', 5, 90⟩, ⟨'\u30bb', '\u309a', 5, 91⟩, ⟨'\u30c4', '\u309a', 5, 92⟩,
    ⟨'\u30c8', '\u309a', 5, 93⟩, ⟨'\u31f7', '\u309a', 6, 87⟩, ⟨'\u00e6', '\u0300', 11, 35⟩,
    ⟨'\u0254', '\u0300', 11, 39⟩, ⟨'\u0254', '\u0301', 11, 40⟩, ⟨'\u028c', '\u0300', 11, 41⟩,
    ⟨'\u028c', '\u0301', 11, 42⟩, ⟨'\u0259', '\u0300', 11, 43⟩, ⟨'\u0259', '\u0301', 11, 44⟩,
    ⟨'\u025a', '\u0300', 11, 45⟩, ⟨'\u025a', '\u0301', 11, 46⟩, ⟨'\u02e9', '\u02e5', 11, 68⟩,
    ⟨'\u02e5', '\u02e9', 11, 69⟩]

/-- The place of a character with a mark behind it.  A zero behind a character that takes
marks is a mark that changes nothing. -/
def pairPlace? (edition : Edition) (c d : Char) : Option (Nat × Nat) :=
  if d.toNat = 0 then
    if jisX0213Pairs.any (·.first = c) then (firstPlane? edition c) <|> (jisX0208.place? c)
    else none
  else placeOf? jisX0213Pairs c d

private def eucKatakana? (c : Char) : Option (List UInt8) :=
  (katakana? c).map fun b => [0x8E, b]

def eucJp : Multibyte where
  code? c := ascii? c <|> (romanSign? c).map ([·]) <|> eucKatakana? c
    <|> (jisX0208.place? c).map upperBytes
    <|> (jisX0212.place? c).map fun p => 0x8F :: upperBytes p

/-- Characters that JIS X 0213 does not have are looked for in JIS X 0212, unless a later
edition has them. -/
def eucJis (edition : Edition) : Multibyte where
  code? c := if edition.isLater c then none else
    ascii? c <|> eucKatakana? c
    <|> (if c = '\uff5e' then some [0xA2, 0xB2] else none)
    <|> (firstPlane? edition c).map upperBytes <|> (jisX0208.place? c).map upperBytes
    <|> (secondPlane? edition c).map (fun p => 0x8F :: upperBytes p)
    <|> (jisX0212.place? c).map fun p => 0x8F :: upperBytes p
  pair? c d := (pairPlace? edition c d).map upperBytes

/-- The second byte of 188 values, without 7F. -/
private def shiftedCell (n : Nat) : UInt8 := byte (if n < 63 then 0x40 + n else 0x41 + n)

/-- Two rows of a plane share a first byte, of which the values between 9F and E0 are left
out. -/
private def shifted (place : Nat × Nat) : List UInt8 :=
  let row := place.1 - 1
  let first := row / 2
  [byte (if first < 31 then 0x81 + first else 0xC1 + first),
    shiftedCell (place.2 + 94 * (row % 2))]

private def secondPlaneByte (row : Nat) : UInt8 :=
  if row = 1 || row = 8 then 0xF0
  else if row = 3 || row = 4 then 0xF1
  else if row = 5 || row = 12 then 0xF2
  else if row = 13 || row = 14 then 0xF3
  else if row = 15 then 0xF4
  else byte (0xF4 + (row - 77) / 2)

private def shiftedSecond (place : Nat × Nat) : List UInt8 :=
  [secondPlaneByte place.1, shiftedCell (place.2 + 94 * ((place.1 - 1) % 2))]

def shiftJis : Multibyte where
  code? c := ascii? c <|> (romanSign? c).map ([·]) <|> (katakana? c).map ([·])
    <|> (jisX0208.place? c).map shifted

/-- The backslash and the tilde, whose own places are taken, have two bytes here. -/
def shiftJis0213 (edition : Edition) : Multibyte where
  code? c :=
    if c = '\\' then some [0x81, 0x5F]
    else if c = '~' then some [0x81, 0xB0]
    else if c = '\uff3c' then none
    else ascii? c <|> (romanSign? c).map ([·]) <|> (katakana? c).map ([·])
      <|> (firstPlane? edition c).map shifted <|> (jisX0208.place? c).map shifted
      <|> (secondPlane? edition c).map shiftedSecond
  pair? c d := (pairPlace? edition c d).map shifted

/-- Private characters, and the control character, that code page 932 has single bytes
for. -/
private def windowsSingle? (c : Char) : Option UInt8 :=
  [('\u0080', 0x80), ('\uf8f0', 0xA0), ('\uf8f1', 0xFD), ('\uf8f2', 0xFE),
    ('\uf8f3', 0xFF)].lookup c

/-- The private characters from U+E000 on fill rows of their own. -/
private def windowsPrivate? (c : Char) : Option (List UInt8) :=
  if 0xE000 ≤ c.toNat && c.toNat < 0xE000 + 1880 then
    let n := c.toNat - 0xE000
    some [byte (0xF0 + n / 188), shiftedCell (n % 188)]
  else none

def shiftJisWindows : Multibyte where
  code? c := ascii? c <|> (windowsSingle? c).map ([·]) <|> (katakana? c).map ([·])
    <|> (windows932Additions.place? c).map (fun p => [byte p.1, shiftedCell p.2])
    <|> (jisX0208.place? c).map shifted <|> windowsPrivate? c

end Multibyte
end Text
end ThermalPrint
