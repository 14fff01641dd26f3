import ThermalPrint.Text.Hex
import ThermalPrint.Text.Printable

/-
Text between quotation marks, as messages show it.
-/

namespace ThermalPrint
namespace Text

/-- The mark around a quoted text: a single quote, unless the text has one and no
double quote. -/
def quoteMark (t : Text) : CodePoint :=
  if t.contains '\'' && !t.contains '"' then '"' else '\''

/-- The number of a code point, in as few of two, four or eight digits as hold it. -/
def codeEscape (c : CodePoint) : Text :=
  let n := c.toNat
  if n < 0x100 then '\\' :: 'x' :: hexPlaces 2 n
  else if n < 0x10000 then '\\' :: 'u' :: hexPlaces 4 n
  else '\\' :: 'U' :: hexPlaces 8 n

/-- One character where only ASCII may stand. -/
def escapeWide (c : CodePoint) : Text := if c.toNat < 128 then [c] else codeEscape c

/-- One character between quotation marks.  What does not print is written by its code. -/
def escapeIn (mark c : CodePoint) : Text :=
  if c = mark || c = '\\' then ['\\', c]
  else if c = '\n' then ['\\', 'n']
  else if c = '\r' then ['\\', 'r']
  else if c = '\t' then ['\\', 't']
  else if isPrintableChar c then [c]
  else codeEscape c

def quote (t : Text) : Text :=
  let mark := quoteMark t
  mark :: t.flatMap (escapeIn mark) ++ [mark]

private def escapeByteIn (mark : CodePoint) (b : UInt8) : Text :=
  let c := CodePoint.ofNat b.toNat
  if c = mark || c = '\\' then ['\\', c]
  else if c = '\n' then ['\\', 'n']
  else if c = '\r' then ['\\', 'r']
  else if c = '\t' then ['\\', 't']
  else if 32 ≤ b && b < 127 then [c]
  else '\\' :: 'x' :: hexPlaces 2 b.toNat

def quoteBytes (bytes : List UInt8) : Text :=
  let mark : CodePoint := if bytes.contains 0x27 && !bytes.contains 0x22 then '"' else '\''
  "b" ++ mark :: bytes.flatMap (escapeByteIn mark) ++ [mark]

end Text
end ThermalPrint
