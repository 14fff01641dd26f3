import ThermalPrint.Decimal.Binary
import ThermalPrint.Image.Netpbm.Header

/-
Netpbm images: bitmaps, graymaps and pixmaps, and their like with other pixels.
-/

namespace ThermalPrint
namespace Netpbm
namespace Header

private def tooShort : Fault := .value .value "not enough image data"

private def rows (h : Header) (file : ByteArray) (length : Nat) : Except Fault ByteArray :=
  let found := file.size - h.start
  if found < length * h.height then
    .error (.system .general s!"image file is truncated ({found % length} bytes not processed)")
  else .ok (file.extract h.start (h.start + length * h.height))

private def bands (h : Header) : Nat :=
  match h.mode with
  | .rgb => 3
  | .rgba | .cmyk => 4
  | _ => 1

private def count (h : Header) : Nat := h.width * h.height * h.bands

private def wordBytes (n : Nat) (i : Nat) : UInt8 := UInt8.ofNat (n / 256 ^ i)

private def stretch (h : Header) (sample : Nat → Nat) : ByteArray :=
  let (range, width) : Nat × Nat := match h.mode with
    | .int32 => (65535, 4)
    | _ => (255, 1)
  Bytes.generate (h.count * width) fun i =>
    let level := (sample (i / width)).toFloat / h.limit.toFloat * range.toFloat
    wordBytes (min range ((Decimal.round? level).getD 0).toNat) (i % width)

private def samples (h : Header) (file : ByteArray) : Except Fault ByteArray :=
  let size := if h.limit < 256 then 1 else 2
  if file.size - h.start < h.count * size then .error tooShort
  else
    .ok (h.stretch fun i =>
      let place := h.start + i * size
      let low := (Bytes.get file (place + size - 1)).toNat
      if size = 1 then low else 256 * (Bytes.get file place).toNat + low)

private def sampleOf (h : Header) (word : List UInt8) : Except Fault Nat :=
  let refuse {α : Type} (message : Text) : Except Fault α := .error (.value .value message)
  if word.length > wordLimit then refuse (longWord word)
  else
    match numberOf? word with
    | none => refuse (HeaderFault.badNumber word).message
    | some n =>
      if n < 0 then refuse s!"Channel value is negative: {n}"
      else if n > h.limit then refuse s!"Channel value too large for this mode: {n}"
      else .ok n.toNat
where
  longWord (word : List UInt8) : Text :=
    Text.quoteBytes ("Token too long found in data: ".toUTF8.toList ++ word.take (wordLimit + 1))

/-- The bytes of samples in words.  Words behind the last sample are not looked at, unless one
that reaches the end of the file is too long. -/
private def plainSamples (h : Header) (text : List UInt8) : Except Fault ByteArray := do
  let words := wordsOf text
  if let some last := words.getLast? then
    if text.getLast?.any (fun b => !isSpace b) && last.length > wordLimit then
      discard <| h.sampleOf last
  let found := (← (words.take h.count).mapM h.sampleOf).toArray
  if found.size < h.count then .error tooShort
  else .ok (h.stretch fun i => found[i]?.getD 0)

/-- The rows of a bitmap, which is one digit for each pixel whether white space stands between
them or not.  A one is black. -/
private def plainDots (h : Header) (text : List UInt8) : Except Fault ByteArray :=
  let digits := text.filter fun b => !isSpace b
  match digits.find? fun b => b != 0x30 && b != 0x31 with
  | some b =>
    let message := "Invalid token for this mode: ".toUTF8.toList ++ [b]
    .error (.value .value (Text.quoteBytes message))
  | none =>
    let found := digits.toArray
    if found.size < h.width * h.height then .error tooShort
    else
      let length := rowBytes h.width
      .ok (Bytes.generate (length * h.height) fun i =>
        let x := 8 * (i % length)
        let y := i / length
        Raster.packByte fun k =>
          decide (x + k < h.width) && found[y * h.width + x + k]? == some 0x30)

/-- The pixels that are written in words. -/
private def plainData (h : Header) (file : ByteArray) : Except Fault ByteArray :=
  let text := withoutComments (file.extract h.start file.size).toList
  match h.mode with
  | .bilevel => h.plainDots text
  | _ => h.plainSamples text

/-- The pixels that are written as bytes.  Those of a bitmap are black where a bit is set. -/
private def rawData (h : Header) (file : ByteArray) : Except Fault ByteArray :=
  match h.mode with
  | .bilevel => do
    let rows ← h.rows file (rowBytes h.width)
    .ok (Bytes.generate rows.size fun i => 255 - Bytes.get rows i)
  | mode =>
    if h.limit = 255 then h.rows file (mode.stride h.width)
    else if h.limit = 65535 && mode.word == "I" then do
      let rows ← h.rows file (2 * h.width)
      .ok (Bytes.generate (4 * (h.width * h.height)) fun i =>
        if i % 4 < 2 then Bytes.get rows (i / 4 * 2 + 1 - i % 4) else 0)
    else h.samples file

def decode (h : Header) (file : ByteArray) : Except Fault Picture := do
  let data ← if h.plain then h.plainData file else h.rawData file
  .ok ⟨h.mode, h.width, h.height, data⟩

end Header
end Netpbm
end ThermalPrint
