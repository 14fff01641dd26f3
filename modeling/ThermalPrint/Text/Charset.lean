import ThermalPrint.Text.CharsetName
import ThermalPrint.Text.CodePage
import ThermalPrint.Text.CodeTable
import ThermalPrint.Text.Punycode
import ThermalPrint.Text.Quoted
import ThermalPrint.Text.Switched
import ThermalPrint.Text.Utf7
import ThermalPrint.Text.Utf8

/-
Character sets: the bytes that a text is sent as.
-/

namespace ThermalPrint
namespace Text

inductive Charset
  | ascii
  | latin1
  | page (upper : List Char)
  | table (characters : List Char)
  | multibyte (set : Multibyte)
  | switched (sets : Switched)
  | utf7
  | utf8 (mark : Bool)
  | utf16 (bigEndian mark : Bool)
  | utf32 (bigEndian mark : Bool)
  /-- The first 256 characters, with escapes for those beyond; a strict one escapes all but
  the printable characters of ASCII, and the backslash. -/
  | escapes (strict : Bool)
  | punycode

inductive CharsetFault
  | unknown (name : Text)
  | noText (name : Text)
  /-- The set refuses all texts. -/
  | empty (name : Text)
  /-- The set takes no text in which something may be replaced. -/
  | strict (name : Text)
  | unpaired (fault : Utf8.Unpaired)
  | zero
deriving DecidableEq, Repr

namespace CharsetFault

private def cut (room : Nat) : Text → Text
  | [] => []
  | c :: rest =>
    let size := (Utf8.bytesOf c).length
    if size ≤ room then c :: cut (room - size) rest
    else if room = 0 then [] else ['\uFFFD']

def message : CharsetFault → Text
  | unknown name => "unknown encoding: " ++ name
  | noText name =>
    "'" ++ cut 400 name ++ "' is not a text encoding; "
      ++ "use codecs.encode() to handle arbitrary codecs"
  | empty name => "encoding with '" ++ name ++ "' codec failed (UnicodeError: undefined encoding)"
  | strict name =>
    "encoding with '" ++ name
      ++ "' codec failed (UnicodeError: unsupported error handling replace)"
  | unpaired fault => fault.message
  | zero => "embedded null character"

end CharsetFault

namespace Charset

def multibyteSets : List (String × Multibyte) :=
  [("gb2312", .gb2312), ("gbk", .gbk), ("gb18030", .gb18030), ("big5", .big5),
    ("big5hkscs", .big5HongKong), ("cp950", .big5Windows), ("shift_jis", .shiftJis),
    ("cp932", .shiftJisWindows), ("shift_jis_2004", .shiftJis0213 .of2004),
    ("shift_jisx0213", .shiftJis0213 .of2000), ("euc_jp", .eucJp),
    ("euc_jis_2004", .eucJis .of2004), ("euc_jisx0213", .eucJis .of2000), ("euc_kr", .eucKr),
    ("cp949", .koreanWindows), ("johab", .johab)]

def switchedSets : List (String × Switched) :=
  [("hz", .hz), ("iso2022_jp", .iso2022Jp), ("iso2022_jp_1", .iso2022Jp1),
    ("iso2022_jp_2", .iso2022Jp2), ("iso2022_jp_2004", .iso2022Jis .of2004),
    ("iso2022_jp_3", .iso2022Jis .of2000), ("iso2022_jp_ext", .iso2022JpExt),
    ("iso2022_kr", .iso2022Kr)]

def named? (key : String) : Option Charset :=
  match key with
  | "ascii" => some ascii
  | "latin_1" | "charmap" => some latin1
  | "utf_7" => some utf7
  | "utf_8" => some (utf8 false)
  | "utf_8_sig" => some (utf8 true)
  | "utf_16" => some (utf16 false true)
  | "utf_16_le" => some (utf16 false false)
  | "utf_16_be" => some (utf16 true false)
  | "utf_32" => some (utf32 false true)
  | "utf_32_le" => some (utf32 false false)
  | "utf_32_be" => some (utf32 true false)
  | "unicode_escape" => some (escapes true)
  | "raw_unicode_escape" => some (escapes false)
  | "punycode" => some punycode
  | _ =>
    ((codePages.find? fun p => p.name == key).map fun p => page p.upper.toList)
      <|> ((codeTables.find? fun p => p.name == key).map fun p => table p.characters.toList)
      <|> (multibyteSets.lookup key).map multibyte <|> (switchedSets.lookup key).map switched

def ofName (name : Text) : Except CharsetFault Charset :=
  match Utf8.unpaired? name with
  | some fault => .error (.unpaired fault)
  | none =>
    if name.contains (Char.ofNat 0) then .error .zero
    else
      let key := charsetNameOf (charsetKey name)
      if nonTextEncodings.contains key then .error (.noText name)
      else if key == "undefined" then .error (.empty name)
      else if key == "idna" then .error (.strict name)
      else match named? key with
        | some charset => .ok charset
        | none => .error (.unknown name)

private def pair (bigEndian : Bool) (n : Nat) : List UInt8 :=
  let high := UInt8.ofNat (n / 256)
  let low := UInt8.ofNat n
  if bigEndian then [high, low] else [low, high]

private def quad (bigEndian : Bool) (n : Nat) : List UInt8 :=
  if bigEndian then pair true (n / 65536) ++ pair true (n % 65536)
  else pair false (n % 65536) ++ pair false (n / 65536)

private def units16 (bigEndian : Bool) (n : Nat) : List UInt8 :=
  if n < 0x10000 then pair bigEndian n
  else
    let n := n - 0x10000
    pair bigEndian (0xD800 + n / 0x400) ++ pair bigEndian (0xDC00 + n % 0x400)

def unknownByte : UInt8 := 63

def place? (characters : List Char) (c : Char) : Option Nat :=
  if c = '\uFFFD' then none else characters.findIdx? (· == c)

/-- A character where only ASCII may stand, with escapes for control characters too. -/
private def escaped (c : CodePoint) : Text :=
  if c = '\\' then ['\\', '\\']
  else if c = '\n' then ['\\', 'n']
  else if c = '\r' then ['\\', 'r']
  else if c = '\t' then ['\\', 't']
  else if 32 ≤ c.toNat && c.toNat < 127 then [c]
  else codeEscape c

/-- The bytes of a text without what stands in front of every text.  Halves of surrogate pairs
are no characters of any set, except where codes of any kind can be written. -/
def body (charset : Charset) (t : Text) : List UInt8 :=
  let whole := t.map (CodePoint.charOr '?')
  match charset with
  | ascii => whole.map fun c => if c.toNat < 128 then UInt8.ofNat c.toNat else unknownByte
  | latin1 => whole.map fun c => if c.toNat < 256 then UInt8.ofNat c.toNat else unknownByte
  | page upper => whole.map fun c =>
    if c.toNat < 128 then UInt8.ofNat c.toNat
    else ((place? upper c).map fun place => UInt8.ofNat (128 + place)).getD unknownByte
  | table characters => whole.map fun c =>
    UInt8.ofNat (((place? characters c) <|> (place? characters '?')).getD unknownByte.toNat)
  | multibyte set => set.encode whole
  | switched sets => sets.encode whole
  | utf7 => Utf7.encode t
  | utf8 _ => whole.flatMap String.utf8EncodeChar
  | utf16 bigEndian _ => whole.flatMap fun c => units16 bigEndian c.toNat
  | utf32 bigEndian _ => whole.flatMap fun c => quad bigEndian c.toNat
  | escapes strict =>
    (t.flatMap fun c =>
      if strict then escaped c else if c.toNat < 256 then [c] else codeEscape c).map fun c =>
        UInt8.ofNat c.toNat
  | punycode => Punycode.encode t

/-- The byte order mark that a set puts in front of every text. -/
def markBytes : Charset → List UInt8
  | utf8 true => [0xEF, 0xBB, 0xBF]
  | utf16 bigEndian true => pair bigEndian 0xFEFF
  | utf32 bigEndian true => quad bigEndian 0xFEFF
  | _ => []

/-- A text in a character set, with a question mark for each character that the set
does not have. -/
def encode (charset : Charset) (t : Text) : List UInt8 := charset.markBytes ++ charset.body t

end Charset
end Text
end ThermalPrint
