import ThermalPrint.Receipt.ByName
import ThermalPrint.Session.Orders

/-
Orders for receipts asked for by name, with arguments of any type but the image.
-/

namespace ThermalPrint
namespace PrintOrder

/-- What the operations that print receipts take.  The session is the first of the
arguments, and an image may be the second. -/
def signatures : List Signature :=
  [{ name := "PrintSession.print_test_receipt", required := ["self"] },
    { name := "PrintSession.print_receipt_with_logo", required := ["self", "logo", "items"]
      passesOn := true },
    { name := "PrintSession.print_image", required := ["self", "bitmap"]
      optional := ["title", "caption"] },
    { name := "PrintSession.print_large_bitmap", required := ["self", "bitmap"] },
    { name := "PrintSession.print_product_receipt", required := ["self", "name", "price"]
      optional := ["image"] },
    { name := "PrintSession.print_qr_code", required := ["self"], optional := ["data", "size"] },
    { name := "PrintSession.print_barcode", required := ["self"]
      optional := ["data", "symbology", "height"] }]

private def placesImage (name : String) : Bool :=
  ["print_receipt_with_logo", "print_image", "print_large_bitmap"].contains name

private def namesImage (name : String) : Bool := name == "print_product_receipt"

private def foreign? : Json → Option Bitmap
  | .null => none
  | v => some (.foreign v.typeName)

private def ofGiven (config : SessionConfig) (name : String) (image : Option Bitmap)
    (given : List (String × Json)) : Except Fault PrintOrder :=
  let textOf (name : String) (default_ : Text := []) : Text := Receipt.textOf given name default_
  match name with
  | "print_receipt_with_logo" => do
    let fields := given.filter fun (n, _) => n != "self" && n != "logo" && n != "items"
    let logo := match logoHandle image with
      | some handle => Json.str handle
      | none => .null
    let items := (given.lookup "items").getD .null
    let given ← Receipt.storeSignature.bind ⟨[items], ("logo", logo) :: fields⟩
    .ok (store image (← Receipt.storeOf given))
  | "print_image" =>
    .ok (.image image (textOf "title" Receipt.imageTitle) (Receipt.filledOf given "caption"))
  | "print_large_bitmap" => largeImage config (image.getD (.foreign "NoneType"))
  | "print_product_receipt" => do
    product (textOf "name") (← Amount.ofJson ((given.lookup "price").getD .null)) image
  | "print_qr_code" => do
    qrCode (textOf "data" "https://example.com")
      (← Receipt.intOf given "size" Receipt.labelQrSize)
  | "print_barcode" => do
    barcode (textOf "data" "1234567890128") (textOf "symbology" Receipt.labelSymbology)
      (← Receipt.intOf given "height" Receipt.labelBarcodeHeight)
  | _ => .ok demo

/-- The order of a name.  An image is a value of its own, that may be none; it is missing
if the inner option is empty. -/
def ofName (config : SessionConfig) (name : String) (image : Option (Option Bitmap))
    (a : Arguments) : Except Fault PrintOrder :=
  match signatures.find? fun s => s.name == "PrintSession." ++ name with
  | none =>
    .error (.value .missingAttribute s!"'PrintSession' object has no attribute '{name}'")
  | some s => do
    let places := if placesImage name then [.null, .null] else [.null]
    let names :=
      if namesImage name && image.isSome then [("image", Json.null)] else []
    let given ← s.bind ⟨places ++ a.places, a.names ++ names⟩
    let image := match image with
      | some b => b
      | none => (given.lookup "image").bind foreign?
    ofGiven config name image given

end PrintOrder
end ThermalPrint
