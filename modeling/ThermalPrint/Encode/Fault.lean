import ThermalPrint.Fault
import ThermalPrint.Text.Charset
import ThermalPrint.Text.Quoted

/-
Why a directive has no bytes.
-/

namespace ThermalPrint

inductive EncodeFault
  | tooWide (dots room : Nat)
  | unsupportedSymbology (name : Text)
  | notEan13 (data : Text)
  | notCode128 (data : Text)
  | longCode128 (length limit : Nat)
  | emptyQrCode
  | longQrCode (length limit : Nat)
  | charset (fault : Text.CharsetFault)
  | unpaired (fault : Utf8.Unpaired)
  | notADirective (text : Text)
  | uncountable
  | noRoom
deriving DecidableEq, Repr

namespace EncodeFault

private def charsetFaultKind : Text.CharsetFault → ValueFault
  | .unknown _ | .noText _ => .lookup
  | .empty _ | .strict _ => .unicode
  | .unpaired _ => .unicodeEncode
  | .zero => .value

def toFault : EncodeFault → Fault
  | tooWide dots room =>
    .print (.of .widthMismatch s!"image is {dots} dots wide, printer line is {room}")
  | unsupportedSymbology name => .print (.unsupported name)
  | notEan13 data =>
    .print (.of .invalidBarcodeData ("EAN13 needs 12 or 13 digits, got " ++ Text.quote data))
  | notCode128 data =>
    .print (.of .invalidBarcodeData ("CODE128 needs printable ASCII, got " ++ Text.quote data))
  | longCode128 length limit =>
    .print (.of .invalidBarcodeData s!"CODE128 payload is {length} bytes, max {limit}")
  | emptyQrCode => .print (.of .invalidBarcodeData "QR code data is empty")
  | longQrCode length limit =>
    .print (.of .invalidBarcodeData s!"QR code data is {length} bytes, max {limit}")
  | charset fault => .value (charsetFaultKind fault) fault.message
  | unpaired fault => .value .unicodeEncode fault.message
  | notADirective text => .value .wrongType ("not a print directive: " ++ Text.quote text)
  | uncountable => .value .overflow "cannot fit 'int' into an index-sized integer"
  | noRoom => .value .memory ""

end EncodeFault
end ThermalPrint
