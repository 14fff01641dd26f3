import ThermalPrint.Image.Gray
import ThermalPrint.Image.Raster.Basic
import ThermalPrint.Image.Raster.Payload

/-
ESC/POS: the commands of a thermal printer and their bytes.
-/

namespace ThermalPrint

inductive Command
  | reset
  | align (a : Align)
  | emphasis (on : Bool)
  | feed (lines : UInt8)
  | cut (mode : UInt8)
  | lineFeed
  | text (bytes : List UInt8)
  | raster (width rows : Nat) (body : List UInt8)
  | barcodeHeight (dots : UInt8)
  | barcodeWidth (dots : UInt8)
  | barcodeFont (font : UInt8)
  | barcodeCaption (place : UInt8)
  | barcode (system : UInt8) (data : List UInt8)
  | symbol (parameters : List UInt8)
deriving DecidableEq, Repr

namespace Command

def alignCode : Align → UInt8
  | .left => 0
  | .center => 1
  | .right => 2

def bytes : Command → List UInt8
  | reset => [0x1B, 0x40]
  | align a => [0x1B, 0x61, alignCode a]
  | emphasis on => [0x1B, 0x45, if on then 1 else 0]
  | feed lines => [0x1B, 0x64, lines]
  | cut mode => [0x1D, 0x56, mode]
  | lineFeed => [0x0A]
  | text t => t
  | raster width rows body => Raster.block width rows body
  | barcodeHeight dots => [0x1D, 0x68, dots]
  | barcodeWidth dots => [0x1D, 0x77, dots]
  | barcodeFont font => [0x1D, 0x66, font]
  | barcodeCaption place => [0x1D, 0x48, place]
  | barcode system data => 0x1D :: 0x6B :: system :: UInt8.ofNat data.length :: data
  | symbol parameters =>
    0x1D :: 0x28 :: 0x6B :: Bytes.littleEndian parameters.length ++ parameters

def ofGray (g : Gray) : Command := raster (rowBytes g.width) g.height g.ink.toList

end Command

def streamOf (commands : List Command) : List UInt8 := commands.flatMap Command.bytes

end ThermalPrint
