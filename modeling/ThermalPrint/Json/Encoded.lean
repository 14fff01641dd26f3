import ThermalPrint.Json.Reader
import ThermalPrint.Text.Utf16
import ThermalPrint.Text.Utf8

/-
JSON in bytes.  A byte order mark tells how the text is encoded; without one the zeros among
the first bytes do, since JSON begins with a character of ASCII.
-/

namespace ThermalPrint
namespace Json

inductive Encoding
  | utf8
  | utf16 (bigEndian : Bool)
  | utf32 (bigEndian : Bool)
deriving DecidableEq, Repr

namespace Encoding

/-- The encoding that a byte order mark stands for, and the bytes behind it. -/
def ofMark? : List UInt8 → Option (Encoding × List UInt8)
  | 0x00 :: 0x00 :: 0xFE :: 0xFF :: rest => some (utf32 true, rest)
  | 0xFF :: 0xFE :: 0x00 :: 0x00 :: rest => some (utf32 false, rest)
  | 0xFE :: 0xFF :: rest => some (utf16 true, rest)
  | 0xFF :: 0xFE :: rest => some (utf16 false, rest)
  | 0xEF :: 0xBB :: 0xBF :: rest => some (utf8, rest)
  | _ => none

/-- The encoding of bytes without a mark. -/
def ofZeros : List UInt8 → Encoding
  | a :: b :: c :: d :: _ =>
    if a = 0 then if b = 0 then utf32 true else utf16 true
    else if b = 0 then if c = 0 && d = 0 then utf32 false else utf16 false
    else utf8
  | [a, b] => if a = 0 then utf16 true else if b = 0 then utf16 false else utf8
  | _ => utf8

def decode? : Encoding → List UInt8 → Option Text
  | utf8, bytes => (Utf8.decodeWithHalves bytes).toOption
  | utf16 bigEndian, bytes => Text.ofUtf16? bigEndian bytes
  | utf32 bigEndian, bytes => Text.ofUtf32? bigEndian bytes

end Encoding

def textOf? (bytes : List UInt8) : Option Text :=
  match Encoding.ofMark? bytes with
  | some (encoding, rest) => encoding.decode? rest
  | none => (Encoding.ofZeros bytes).decode? bytes

end Json
end ThermalPrint
