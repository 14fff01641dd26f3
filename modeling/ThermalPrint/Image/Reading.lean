import ThermalPrint.Image.Fit
import ThermalPrint.Image.Netpbm
import ThermalPrint.Image.Png
import ThermalPrint.Text.Base64

/-
Encoded images: recognising their format, and decoding them.
-/

namespace ThermalPrint

namespace Bitmap

def unidentified : Fault :=
  .system .unidentifiedImage "cannot identify image file <_io.BytesIO>"

private def checked (mode : PixelMode) (width height : Nat) (decoded : Except Fault Picture) :
    Except Fault Bitmap :=
  match Picture.bomb? width height with
  | some fault => .error fault
  | none => .ok (.encoded mode width height decoded)

private def ofOpened (file : ByteArray) : Except Fault Png.Opened → Except Fault Bitmap
  | .error (.value .malformed _) | .error (.value .unpacking _) | .error (.value .index _) =>
    .error unidentified
  | .error fault => .error fault
  | .ok o =>
    match o.notes.mode? with
    | some mode =>
      if o.notes.width = 0 || o.notes.height = 0 then .error unidentified
      else checked mode o.notes.width o.notes.height (o.decode file)
    | none => .error unidentified

def ofFile (data : ByteArray) : Except Fault Bitmap :=
  match Png.open? data with
  | some opened => ofOpened data opened
  | none =>
    match Netpbm.read data with
    | .ok i => checked i.mode i.width i.height (i.decode data)
    | .error .unknown => .error unidentified
    | .error fault => .error (.value .value fault.message)

end Bitmap

namespace Picture

def unavailable (f : ReferenceFault) : Fault := .print f.toPrintError

/-- The fault of an image, if its file cannot be read or is not of a known format.
Other faults are passed on. -/
def undecodable : Fault → Fault
  | .system _ reason | .value .decompressionBomb reason => unavailable (.undecodable reason)
  | fault => fault

def ofFile (data : ByteArray) : Except Fault Picture :=
  if data.isEmpty then .error (unavailable .emptyData)
  else
    match Bitmap.ofFile data with
    | .ok (.encoded _ _ _ decoded) => decoded.mapError undecodable
    | .ok _ => .error (undecodable Bitmap.unidentified)
    | .error fault => .error (undecodable fault)

/-- What is in base64: the part of a data address behind its comma, or the whole text. -/
def payload (t : Text) : Except Fault Text :=
  if "data:".toText.isPrefixOf t then
    match t.dropWhile (· ≠ .char ',') with
    | [] => .error (.value .index "list index out of range")
    | _ :: rest => .ok rest
  else .ok t

/-- Decodes an image in base64, which may be in a data address. -/
def ofBase64 (t : Text) : Except Fault Picture :=
  match payload t with
  | .error e => .error e
  | .ok body =>
    match Base64.decode body with
    | .error fault => .error (unavailable (.notBase64 fault.message))
    | .ok bytes => ofFile bytes.toByteArray

end Picture
end ThermalPrint
