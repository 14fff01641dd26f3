import ThermalPrint.Encode.Command
import ThermalPrint.Encode.Fault
import ThermalPrint.Text.Case

/-
Barcodes and QR codes as commands.
-/

namespace ThermalPrint
namespace Encode

def code128Limit : Nat := 255

def qrLimit : Nat := 7089

def clamp (low high n : Int) : UInt8 := UInt8.ofNat (max low (min high n)).toNat

/-- A QR code of model 2 with error correction level M, and the line feed behind it. -/
def qrCode (data : Text) (size : Int) (align : Align) : Except EncodeFault (List Command) := do
  let bytes ← (Utf8.encode data).mapError .unpaired
  if bytes.isEmpty then .error .emptyQrCode
  else if bytes.length > qrLimit then .error (.longQrCode bytes.length qrLimit)
  else
    .ok [.align align,
      .symbol [0x31, 0x41, 0x32, 0x00],
      .symbol [0x31, 0x43, clamp 1 16 size],
      .symbol [0x31, 0x45, 0x31],
      .symbol (0x31 :: 0x50 :: 0x30 :: bytes),
      .symbol [0x31, 0x51, 0x30],
      .lineFeed]

/-- Data in code set B: its mark in front, and each opening brace doubled so that it is
not read as a change of code set. -/
def code128Payload (data : Text) : Text :=
  "\x7bB" ++ data.flatMap fun (c : CodePoint) => if c = '\x7b' then [c, c] else [c]

def asciiBytes (t : Text) : List UInt8 := t.map fun c => UInt8.ofNat c.toNat

def isAsciiDigit (c : CodePoint) : Bool := 48 ≤ c.toNat && c.toNat ≤ 57

def payload (symbology given data : Text) :
    Except EncodeFault (UInt8 × List UInt8) :=
  if symbology == "EAN13" then
    if data.all isAsciiDigit && (data.length == 12 || data.length == 13) then
      .ok (67, asciiBytes data)
    else .error (.notEan13 data)
  else if symbology == "CODE128" then
    if data.isEmpty || !data.all fun c => 32 ≤ c.toNat && c.toNat < 127 then
      .error (.notCode128 data)
    else
      let body := code128Payload data
      if body.length > code128Limit then .error (.longCode128 body.length code128Limit)
      else .ok (73, asciiBytes body)
  else .error (.unsupportedSymbology given)

/-- A barcode with its caption below, and the line feed behind it. -/
def barcode (symbology data : Text) (height : Int) (align : Align) :
    Except EncodeFault (List Command) :=
  let name := Text.upper symbology
  if name == "QR" then qrCode data 6 align
  else
    (payload name symbology data).map fun (system, bytes) =>
      [.align align, .barcodeHeight (clamp 1 255 height), .barcodeWidth 2, .barcodeFont 0,
        .barcodeCaption 2, .barcode system bytes, .lineFeed]

end Encode
end ThermalPrint
