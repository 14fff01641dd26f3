import ThermalPrint.Receipt.Template
import ThermalPrint.Session.Basic

/-
Orders for the ready-made receipts, each with its images and what is said when it has
been printed.
-/

namespace ThermalPrint
namespace PrintOrder

def demo : PrintOrder := { source := .markup Receipt.demo }

def logoHandle (logo : Option Bitmap) : Option Text := logo.map fun _ => "logo"

def store (logo : Option Bitmap) (markup : Text) : PrintOrder :=
  { source := .markup markup
    options := { images := (logo.map fun b => ("logo".toText, some b)).toList, cut := true }
    success := "Receipt with logo printed!" }

def image (b : Option Bitmap) (title : Text) (caption : Option Text) : PrintOrder :=
  { source := .markup (Receipt.image "image" title caption)
    options := { images := [("image", b)], cut := true }
    success := "Image printed successfully!" }

def largeImage (config : SessionConfig) (b : Bitmap) : Except Fault PrintOrder := do
  let (width, height) ← match b with
    | .foreign typeName =>
      .error (.value .missingAttribute s!"'{typeName}' object has no attribute 'size'")
    | b => .ok (b.size?.getD (0, 0))
  let printed ← targetSize width height config.dotsPerLine
  .ok { source := .markup (Receipt.largeImage "image" (Receipt.sizeText (width, height))
          (Receipt.sizeText printed))
        options := { images := [("image", some b)], cut := true }
        success := "Large image printed!" }

/-- A product card, without a picture where there is none or it is broken. -/
def product (name : Text) (price : Amount) (picture : Option Bitmap) :
    Except Fault PrintOrder := do
  let markup ← Receipt.product name price (some "product")
  .ok { source := .markup markup
        options := { images := [("product", picture)], imageOptional := true, cut := true }
        success := "Product receipt printed!" }

def qrCode (data : Text) (size : Int) : Except Fault PrintOrder := do
  let markup ← Receipt.qrCode data size
  .ok { source := .markup markup
        options := { cut := true }
        success := "QR Code printed!" }

def barcode (data symbology : Text) (height : Int) : Except Fault PrintOrder := do
  let markup ← Receipt.barcode data symbology height
  .ok { source := .markup markup
        options := { cut := true }
        success := "Barcode printed!" }

end PrintOrder
end ThermalPrint
