import ThermalPrint.Image.Fault
import ThermalPrint.Image.Inflate
import ThermalPrint.Image.Picture

/-
The chunks of a PNG file, and what is learnt from their bodies about the image.
-/

namespace ThermalPrint
namespace Png

def cutOff : Fault := .system .general "Truncated File Read"

private def malformed (text : Text) : Fault := .value .malformed text

private def unpackFault (size place found : Nat) : Fault :=
  .value .unpacking
    (s!"unpack_from requires a buffer of at least {place + size} bytes for unpacking {size} bytes "
      ++ s!"at offset {place} (actual buffer size is {found})")

private def number (bytes : ByteArray) (size place : Nat) : Except Fault Nat :=
  if place + size ≤ bytes.size then
    .ok (size.fold (fun k _ n => 256 * n + (Bytes.get bytes (place + k)).toNat) 0)
  else .error (unpackFault size place bytes.size)

/-- The head of a chunk: its name, where its body starts, and how long that is said to
be. -/
structure Chunk where
  name : String
  start : Nat
  length : Nat

namespace Chunk

def stop (c : Chunk) : Nat := c.start + c.length

private def isNameByte (b : UInt8) : Bool :=
  (0x30 ≤ b && b ≤ 0x39) || (0x41 ≤ b && b ≤ 0x5A) || b == 0x5F || (0x61 ≤ b && b ≤ 0x7A)

/-- The head of the chunk at a place.  Names are of four letters, digits and low lines. -/
def headAt (file : ByteArray) (place : Nat) : Except Fault Chunk := do
  let head := file.extract place (place + 8)
  let length ← number head 4 0
  let name := Bytes.slice head 4 8
  if name.length = 4 && name.all isNameByte then
    .ok ⟨String.ofList (name.map fun b => Char.ofNat b.toNat), place + 8, length⟩
  else .error (malformed ("broken PNG file (chunk " ++ Text.quoteBytes name ++ ")"))

def body (file : ByteArray) (c : Chunk) : Except Fault ByteArray :=
  if c.length = 0 then .ok .empty
  else if c.stop > file.size then .error cutOff
  else .ok (file.extract c.start c.stop)

/-- The checksum behind a chunk is that of its name and body. -/
def isSound (file : ByteArray) (c : Chunk) : Bool :=
  match number (file.extract c.stop (c.stop + 4)) 4 0 with
  | .ok sum => sum == Checksum.cyclic (file.extract (c.start - 4) c.stop)
  | .error _ => false

end Chunk

/-- The form of pixels: bits to a sample, samples to a pixel, and the mode of the
pictures, for which a palette is needed in one case. -/
structure Format where
  depth : Nat
  samples : Nat
  mode : ByteArray → PixelMode

/-- The form of pixels with so many bits to a sample and a type of colour. -/
def Format.of? (depth colour : Nat) : Option Format :=
  let wide := depth = 8 || depth = 16
  let narrow := depth = 1 || depth = 2 || depth = 4 || depth = 8
  if colour = 0 then
    if depth = 1 then some ⟨1, 1, fun _ => .bilevel⟩
    else if depth = 16 then some ⟨16, 1, fun _ => .gray16⟩
    else if narrow then some ⟨depth, 1, fun _ => .gray⟩
    else none
  else if colour = 2 && wide then some ⟨depth, 3, fun _ => .rgb⟩
  else if colour = 3 && narrow then some ⟨depth, 1, .palette⟩
  else if colour = 4 && depth = 8 then some ⟨8, 2, fun _ => .grayAlpha⟩
  else if colour = 4 && depth = 16 then some ⟨16, 2, fun _ => .rgba⟩
  else if colour = 6 && wide then some ⟨depth, 4, fun _ => .rgba⟩
  else none

structure Region where
  left : Nat
  top : Nat
  width : Nat
  height : Nat

/-- What the chunks read so far have told.  A picture may be the first of several
frames, which are numbered. -/
structure Notes where
  width : Nat := 0
  height : Nat := 0
  format : Option Format := none
  interlaced : Bool := false
  palette : ByteArray := .empty
  frames : Option Nat := none
  frame : Option Nat := none
  region : Option Region := none

def Notes.mode? (n : Notes) : Option PixelMode := n.format.map fun f => f.mode n.palette

/-- What a chunk means: something is known better, the pixels begin, the file ends, or
nothing.  The pixels come with the place and the length of the first of them. -/
inductive Meaning
  | known (notes : Notes)
  | pixels (notes : Notes) (start length : Nat)
  | ending
  | unknown

/-- Text chunks and colour profiles may be expanded to so many bytes. -/
private def textRoom : Nat := 1048576

/-- Compressed text is of no interest, but it must not be too long. -/
private def checkText (packed : ByteArray) : Except Fault Unit :=
  match Inflate.expand packed textRoom with
  | (e, .full) =>
    if e.spent < packed.size then
      .error (.value .value "Decompressed data too large for PngImagePlugin.MAX_TEXT_CHUNK")
    else .ok ()
  | _ => .ok ()

private def behindZero (bytes : ByteArray) : Option ByteArray :=
  (bytes.data.toList.findIdx? (· == 0)).map fun i => bytes.extract (i + 1) bytes.size

private def readHeader (n : Notes) (body : ByteArray) : Except Fault Notes := do
  if body.size < 13 then .error (.value .value "Truncated IHDR chunk")
  let format := Format.of? (Bytes.get body 8).toNat (Bytes.get body 9).toNat
  let n := { n with
    width := ← number body 4 0
    height := ← number body 4 4
    format := format.or n.format
    interlaced := n.interlaced || Bytes.get body 12 ≠ 0 }
  if Bytes.get body 11 ≠ 0 then .error (malformed "unknown filter category") else .ok n

private def readTransparency (n : Notes) (body : ByteArray) : Except Fault Unit :=
  let check (places : List Nat) : Except Fault Unit :=
    places.forM fun i => discard (number body 2 i)
  match n.mode? with
  | some .bilevel | some .gray | some .gray16 => check [0]
  | some .rgb => check [0, 2, 4]
  | _ => .ok ()

private def readProfile (body : ByteArray) : Except Fault Unit := do
  let start := ((body.data.toList.findIdx? (· == 0)).map (· + 1)).getD 0
  if body.size ≤ start then .error (.value .index "index out of range")
  let method := (Bytes.get body start).toNat
  if method ≠ 0 then
    .error (malformed s!"Unknown compression method {method} in iCCP chunk")
  checkText (body.extract (start + 1) body.size)

private def readPackedText (body : ByteArray) : Except Fault Unit :=
  match behindZero body with
  | none => checkText .empty
  | some rest =>
    let method := (Bytes.get rest 0).toNat
    if method ≠ 0 then .error (malformed s!"Unknown compression method {method} in zTXt chunk")
    else checkText (rest.extract 1 rest.size)

private def readForeignText (body : ByteArray) : Except Fault Unit :=
  match behindZero body with
  | none => .ok ()
  | some rest =>
    match behindZero (rest.extract 2 rest.size) >>= behindZero with
    | none => .ok ()
    | some text =>
      if rest.size ≥ 2 && Bytes.get rest 0 ≠ 0 && Bytes.get rest 1 = 0 then checkText text
      else .ok ()

private def readFrameCount (n : Notes) (body : ByteArray) : Except Fault Notes := do
  if body.size < 8 then .error (.value .value "APNG contains truncated acTL chunk")
  if n.frames.isSome then return { n with frames := none }
  let count ← number body 4 0
  if count = 0 || count > 0x80000000 then return n
  return { n with frames := some count }

/-- The next frame has the next number, from zero. -/
private def nextFrame (n : Notes) (number : Nat) (first : Bool) : Except Fault Notes :=
  let expected : Bool := match n.frame with
    | some last => number == last + 1
    | none => first && number == 0
  if expected then .ok { n with frame := some number }
  else .error (malformed "APNG contains frame sequence errors")

private def readFrame (n : Notes) (body : ByteArray) : Except Fault Notes := do
  if body.size < 26 then .error (.value .value "APNG contains truncated fcTL chunk")
  let n ← nextFrame n (← number body 4 0) true
  let region : Region :=
    ⟨← number body 4 12, ← number body 4 16, ← number body 4 4, ← number body 4 8⟩
  if region.left + region.width > n.width || region.top + region.height > n.height then
    .error (malformed "APNG contains invalid frames")
  return { n with region := some region }

namespace Chunk

def read (file : ByteArray) (n : Notes) (c : Chunk) : Except Fault Meaning := do
  let noted (check : ByteArray → Except Fault Unit) : Except Fault Meaning := do
    check (← c.body file)
    return .known n
  match c.name with
  | "IHDR" => return .known (← readHeader n (← c.body file))
  | "IDAT" => return if n.format.isSome then .pixels n c.start c.length else .unknown
  | "IEND" => return .ending
  | "PLTE" =>
    let body ← c.body file
    return .known (match n.mode? with
      | some (.palette _) => { n with palette := body }
      | _ => n)
  | "tRNS" => noted (readTransparency n)
  | "gAMA" => noted fun body => discard (number body 4 0)
  | "cHRM" => noted fun body =>
    if body.size % 4 = 0 then .ok ()
    else .error (.value .unpacking s!"unpack requires a buffer of {body.size / 4 * 4} bytes")
  | "sRGB" => noted fun body =>
    if body.size < 1 then .error (.value .value "Truncated sRGB chunk") else .ok ()
  | "pHYs" => noted fun body =>
    if body.size < 9 then .error (.value .value "Truncated pHYs chunk") else .ok ()
  | "iCCP" => noted readProfile
  | "tEXt" | "eXIf" => noted fun _ => .ok ()
  | "zTXt" => noted readPackedText
  | "iTXt" => noted readForeignText
  | "acTL" => return .known (← readFrameCount n (← c.body file))
  | "fcTL" => return .known (← readFrame n (← c.body file))
  | "fdAT" =>
    if c.length < 4 then .error (.value .value "APNG contains truncated fDAT chunk")
    let n ← nextFrame n (← number (← { c with length := 4 }.body file) 4 0) false
    return if n.format.isSome then .pixels n (c.start + 4) (c.length - 4) else .unknown
  | _ => return .unknown

end Chunk
end Png
end ThermalPrint
