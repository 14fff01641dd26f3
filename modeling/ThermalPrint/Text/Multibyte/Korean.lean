import ThermalPrint.Text.Grid.KsX1001
import ThermalPrint.Text.Multibyte.Basic

/-
Korean character sets.  KS X 1001 has 2350 syllables; the others are spelled by their
letters, or counted, or put together out of the numbers of their letters.
-/

namespace ThermalPrint
namespace Text
namespace Multibyte

def firstSyllable : Nat := 0xAC00

def isSyllable (c : Char) : Bool := firstSyllable ≤ c.toNat && c.toNat < firstSyllable + 11172

/-- The letters of a syllable by their places in the lists of leading letters, vowels and
trailing letters, of which the first trailing one is none. -/
def lettersOf (c : Char) : Nat × Nat × Nat :=
  let n := c.toNat - firstSyllable
  (n / 588, n / 28 % 21, n % 28)

def leadingLetters : List Char := "ㄱㄲㄴㄷㄸㄹㅁㅂㅃㅅㅆㅇㅈㅉㅊㅋㅌㅍㅎ".toList
def trailingLetters : List Char := "ㄱㄲㄳㄴㄵㄶㄷㄹㄺㄻㄼㄽㄾㄿㅀㅁㅂㅄㅅㅆㅇㅈㅊㅋㅌㅍㅎ".toList
def firstVowel : Nat := 0x314F

private def eucOf (c : Char) : List UInt8 := ((ksX1001.place? c).map upperBytes).getD []

/-- The mark of a syllable in letters, which also stands for a letter that is missing. -/
private def filler : List UInt8 := [0xA4, 0xD4]

/-- A syllable as a mark and its three letters. -/
private def spelled (c : Char) : List UInt8 :=
  let (leading, vowel, trailing) := lettersOf c
  filler ++ eucOf (leadingLetters.getD leading 'ㄱ') ++ eucOf (Char.ofNat (firstVowel + vowel))
    ++ (if trailing = 0 then filler else eucOf (trailingLetters.getD (trailing - 1) 'ㄱ'))

def eucKr : Multibyte where
  code? c := ascii? c <|> (ksX1001.place? c).map upperBytes
    <|> (if isSyllable c then some (spelled c) else none)

private def syllablesBelow (n : Nat) : Nat :=
  (ksX1001.runs.map fun (_, _, cs) => (cs.filter fun c => isSyllable c && c.toNat < n).size).sum

/-- The second byte of the counted syllables: letters of either case, and the upper half. -/
private def countedByte (n : Nat) : UInt8 :=
  byte (if n < 26 then 0x41 + n else if n < 52 then 0x47 + n else 0x4D + n)

/-- The syllables that KS X 1001 does not have, counted in their order: 32 rows of 178, and
then rows of 84 beside those of KS X 1001. -/
private def counted (c : Char) : List UInt8 :=
  let n := c.toNat - firstSyllable - syllablesBelow c.toNat
  if n < 5696 then [byte (0x81 + n / 178), countedByte (n % 178)]
  else [byte (0xA1 + (n - 5696) / 84), countedByte ((n - 5696) % 84)]

def koreanWindows : Multibyte where
  code? c := ascii? c <|> (ksX1001.place? c).map upperBytes
    <|> (if isSyllable c then some (counted c) else none)

/-- The numbers of letters in a packed syllable, where two values in eight are left out for
vowels, and one for trailing letters. -/
private def leadingNumber (n : Nat) : Nat := n + 2
private def vowelNumber (n : Nat) : Nat := n + 3 + (n + 1) / 6 * 2
private def trailingNumber (n : Nat) : Nat := if n < 17 then n + 1 else n + 2

/-- The numbers of three letters of five bits each, behind a bit that is set. -/
private def packed (leading vowel trailing : Nat) : List UInt8 :=
  let n := 0x8000 + leading * 1024 + vowel * 32 + trailing
  [byte (n / 256), byte n]

private def packedSyllable (c : Char) : List UInt8 :=
  let (leading, vowel, trailing) := lettersOf c
  packed (leadingNumber leading) (vowelNumber vowel) (trailingNumber trailing)

/-- A letter on its own is a syllable that lacks the others. -/
private def packedLetter? (c : Char) : Option (List UInt8) :=
  if c.toNat < 0x3131 || 0x3163 < c.toNat then none
  else if firstVowel ≤ c.toNat then some (packed 1 (vowelNumber (c.toNat - firstVowel)) 1)
  else
    (leadingLetters.idxOf? c).map (fun n => packed (leadingNumber n) 2 1)
      <|> (trailingLetters.idxOf? c).map fun n => packed 1 2 (trailingNumber (n + 1))

private def paired (place : Nat × Nat) : List UInt8 :=
  let row := place.1 - 1
  let n := if row < 41 then row + 0x1B2 else row + 0x197
  let cell := place.2 + 94 * (n % 2)
  [byte (n / 2), byte (if cell < 78 then 0x31 + cell else 0x43 + cell)]

def johab : Multibyte where
  code? c := ascii? c <|> (if isSyllable c then some (packedSyllable c) else none)
    <|> packedLetter? c <|> (ksX1001.place? c).map paired

end Multibyte
end Text
end ThermalPrint
