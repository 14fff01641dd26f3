import ThermalPrint.Fault
import ThermalPrint.Text.Quoted

/-
What can be wrong with an image.
-/

namespace ThermalPrint

inductive ImageFault
  | noSize (width height : Int)
  | wrongLength (actual expected : Int)
  | notInkImage (mode : String)
  | notAnImage (typeName : String)
  | zeroArea (width height : Int)
  | undecodable (reason : Text)
  | noRoom (maxWidth : Int)
  | wrongBufferLength (actual expected : Int)
  | notHex (place : Nat)
  | emptyPayload
  | notRasterBlock (place : Nat)
  | emptyBlock
  | unequalBlocks
  | shortBlock
  | missing (name : Text)
  | notRasterized (name : Text)
  | emptyElement
  | notASource (typeName : String)
deriving DecidableEq, Repr

/-- Why the image that a reference names cannot be had. -/
inductive ReferenceFault
  | emptyData
  | undecodable (reason : Text)
  | notBase64 (reason : Text)
  | tooLarge (url : Text) (limit : Int)
  | download (url reason : Text)
  | noSource
deriving DecidableEq, Repr

namespace ImageFault

def message : ImageFault → Text
  | noSize w h => s!"raster must have a positive size, got {w}x{h}"
  | wrongLength actual expected => s!"raster data is {actual} bytes, expected {expected}"
  | notInkImage mode => "expected a mode '1' ink image, got " ++ Text.quote mode
  | notAnImage typeName => s!"unsupported bitmap type: {typeName}"
  | zeroArea w h => s!"zero-area bitmap {w}x{h}"
  | undecodable reason => "bitmap could not be decoded: " ++ reason
  | noRoom maxWidth => s!"max width must be positive, got {maxWidth}"
  | wrongBufferLength actual expected => s!"RGBA buffer is {actual} bytes, expected {expected}"
  | notHex place =>
    "image payload is not valid hex: non-hexadecimal number found in fromhex() arg at position "
      ++ toString place
  | emptyPayload => "empty image payload"
  | notRasterBlock place => s!"image payload is not a raster command at byte {place}"
  | emptyBlock => "raster block with zero size"
  | unequalBlocks => "raster blocks have different widths"
  | shortBlock => "raster block is truncated"
  | missing name => "image " ++ Text.quote name ++ " is unavailable"
  | notRasterized name => "image " ++ Text.quote name ++ " has not been rasterized"
  | emptyElement => "empty <img> payload"
  | notASource typeName => s!"unsupported print source: {typeName}"

def toPrintError (f : ImageFault) : PrintError := .of .invalidImage f.message

def toFault (f : ImageFault) : Fault := .print f.toPrintError

end ImageFault

namespace ReferenceFault

def message : ReferenceFault → Text
  | emptyData => "image data is empty"
  | undecodable reason => "could not decode image: " ++ reason
  | notBase64 reason => "image is not valid base64: " ++ reason
  | tooLarge url limit => "image at " ++ url ++ s!" is larger than {limit} bytes"
  | download url reason => "failed to download " ++ url ++ ": " ++ reason
  | noSource => "print request has neither markup nor an image"

def toPrintError (f : ReferenceFault) : PrintError := .of .imageUnavailable f.message

end ReferenceFault
end ThermalPrint
