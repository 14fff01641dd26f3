import ThermalPrint.Image.Gray

/-
Decoded pictures in the pixel formats that can be printed, and their gray levels.
Transparency is ignored: a transparent pixel prints in the colour it has.
-/

namespace ThermalPrint

/-- What a pixel holds.  Palette colours are triples of red, green and blue. -/
inductive PixelMode
  | bilevel
  | gray
  | gray16
  | grayAlpha
  | palette (colours : ByteArray)
  | rgb
  | rgba
  | cmyk
  | luma
  | int32
  | float32

namespace PixelMode

def word : PixelMode → String
  | bilevel => "1"
  | gray => "L"
  | gray16 => "I;16"
  | grayAlpha => "LA"
  | palette _ => "P"
  | rgb => "RGB"
  | rgba => "RGBA"
  | cmyk => "CMYK"
  | luma => "YCbCr"
  | int32 => "I"
  | float32 => "F"

/-- The mode of a name.  The colours are those of a palette, if it has one. -/
def ofWord? (colours : ByteArray) (w : String) : Option PixelMode :=
  [bilevel, gray, gray16, grayAlpha, palette colours, rgb, rgba, cmyk, luma, int32, float32].find?
    fun mode => mode.word == w

def stride (mode : PixelMode) (width : Nat) : Nat :=
  match mode with
  | bilevel => rowBytes width
  | gray | palette _ => width
  | gray16 | grayAlpha => 2 * width
  | rgb | luma => 3 * width
  | rgba | cmyk | int32 | float32 => 4 * width

end PixelMode

structure Picture where
  mode : PixelMode
  width : Nat
  height : Nat
  data : ByteArray

namespace Picture

/-- The luminance of a colour, in the weights of ITU-R 601-2. -/
def luminance (r g b : Nat) : UInt8 :=
  UInt8.ofNat ((r * 19595 + g * 38470 + b * 7471 + 32768) / 65536)

private def scaleLevel (a b : Nat) : Nat :=
  let t := a * b + 128
  (t / 256 + t) / 256

private def lightOf (ink black : Nat) : Nat :=
  let light := 255 - black
  light - scaleLevel ink light

private def clampInt (bits : Nat) : UInt8 :=
  if bits ≥ 2 ^ 31 then 0 else if bits > 255 then 255 else UInt8.ofNat bits

private def clampFloat (bits : Nat) : UInt8 :=
  let exponent := bits / 2 ^ 23 % 256
  let mantissa := 2 ^ 23 + bits % 2 ^ 23
  if bits ≥ 2 ^ 31 then 0
  else if exponent = 255 then if bits % 2 ^ 23 = 0 then 255 else 0
  else if exponent < 127 then 0
  else if exponent > 134 then 255
  else UInt8.ofNat (min 255 (mantissa / 2 ^ (150 - exponent)))

def level (p : Picture) (x y : Nat) : UInt8 :=
  let row := y * p.mode.stride p.width
  let byte (i : Nat) : Nat := (Bytes.get p.data (row + i)).toNat
  match p.mode with
  | .bilevel => if (byte (x / 8)).testBit (7 - x % 8) then 255 else 0
  | .gray => UInt8.ofNat (byte x)
  | .gray16 => if byte (2 * x + 1) ≠ 0 then 255 else UInt8.ofNat (byte (2 * x))
  | .grayAlpha => UInt8.ofNat (byte (2 * x))
  | .palette colours =>
    let colour (i : Nat) : Nat := (Bytes.get colours (3 * byte x + i)).toNat
    luminance (colour 0) (colour 1) (colour 2)
  | .rgb => luminance (byte (3 * x)) (byte (3 * x + 1)) (byte (3 * x + 2))
  | .rgba => luminance (byte (4 * x)) (byte (4 * x + 1)) (byte (4 * x + 2))
  | .cmyk =>
    let black := byte (4 * x + 3)
    luminance (lightOf (byte (4 * x)) black) (lightOf (byte (4 * x + 1)) black)
      (lightOf (byte (4 * x + 2)) black)
  | .luma => UInt8.ofNat (byte (3 * x))
  | .int32 =>
    clampInt (byte (4 * x) + 256 * byte (4 * x + 1) + 65536 * byte (4 * x + 2)
      + 16777216 * byte (4 * x + 3))
  | .float32 =>
    clampFloat (byte (4 * x) + 256 * byte (4 * x + 1) + 65536 * byte (4 * x + 2)
      + 16777216 * byte (4 * x + 3))

def grayRows (p : Picture) (top bottom : Nat) : Gray :=
  Gray.ofLevels p.width (bottom - top) fun x y => p.level x (top + y)

def toGray (p : Picture) : Gray := p.grayRows 0 p.height

/-- Images of more pixels than this are taken for an attack. -/
def pixelLimit : Nat := 178956970

/-- Why an image of a size is neither opened nor cut out of another. -/
def bomb? (width height : Nat) : Option Fault :=
  if width * height > pixelLimit then
    some (.value .decompressionBomb
      (s!"Image size ({width * height} pixels) exceeds limit of {pixelLimit} pixels, could be "
        ++ "decompression bomb DOS attack."))
  else none

/-- A picture of rows one behind the other, if there are enough bytes for all of them.  More
bytes do no harm. -/
def ofRows (mode : Option PixelMode) (width height : Int) (data : ByteArray) :
    Except Fault Picture :=
  if width < 0 ∨ height < 0 then .error (.value .value "Width and height must be >= 0")
  else
    match mode with
    | none => .error (.value .value "unrecognized image mode")
    | some mode =>
      if width ≠ 0 ∧ data.size < mode.stride width.toNat * height.toNat then
        .error (.value .value "not enough image data")
      else .ok ⟨mode, width.toNat, height.toNat, data⟩

/-- A picture of red, green, blue and alpha, if it has pixels and the buffer holds
exactly these. -/
def ofRgba (width height : Int) (buffer : ByteArray) : Except ImageFault Picture :=
  if width ≤ 0 ∨ height ≤ 0 then .error (.zeroArea width height)
  else if (buffer.size : Int) ≠ width * height * 4 then
    .error (.wrongBufferLength buffer.size (width * height * 4))
  else .ok ⟨.rgba, width.toNat, height.toNat, buffer⟩

end Picture

def Gray.toPicture (g : Gray) : Picture := ⟨.gray, g.width, g.height, g.pixels⟩

end ThermalPrint
