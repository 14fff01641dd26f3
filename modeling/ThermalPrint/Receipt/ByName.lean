import ThermalPrint.Json.Arguments
import ThermalPrint.Receipt.Template

/-
Receipts asked for by name, with arguments of any type.
-/

namespace ThermalPrint

private def wrongType (message : Text) : Fault := .value .wrongType message

namespace Amount

private def indexLimit : Int := 2 ^ 63 - 1

/-- What comes of rounding a sequence that is repeated so many times. -/
private def roundRepeated (count : Int) (length : Nat) (v : Json) : Fault :=
  if count > indexLimit || count < -indexLimit - 1 then
    .value .overflow "cannot fit 'int' into an index-sized integer"
  else if count * length > indexLimit && v.typeName == "str" then
    .value .overflow "repeated string is too long"
  else if count * length > Text.room then .value .memory ""
  else wrongType s!"type {v.typeName} doesn't define __round__ method"

/-- The rate by which an amount is to be multiplied.  A sequence can be repeated a whole
number of times, but the result cannot be rounded. -/
def rateFor (a : Amount) (v : Json) : Except Fault Amount :=
  match ofJson? v with
  | some rate => .ok rate
  | none => .error <|
    match a, v with
    | whole n, .str s => roundRepeated n s.length v
    | whole n, .arr items => roundRepeated n items.length v
    | real _, .str _ | real _, .arr _ =>
      wrongType "can't multiply sequence by non-int of type 'float'"
    | a, v => wrongType s!"unsupported operand type(s) for *: '{a.typeName}' and '{v.typeName}'"

end Amount

namespace Receipt

private def part (v : Json) (i : Nat) : Except Fault Json :=
  match v with
  | .arr items =>
    match items[i]? with
    | some item => .ok item
    | none => .error (.value .index "list index out of range")
  | .str s =>
    match s[i]? with
    | some c => .ok (.str [c])
    | none => .error (.value .index "string index out of range")
  | .obj _ => .error (.value .key (toString i))
  | v => .error (wrongType s!"'{v.typeName}' object is not subscriptable")

private def sizeOf (v : Json) : Except Fault Text := do
  let width ← part v 0
  let height ← part v 1
  .ok (width.plainText ++ .char 'x' :: height.plainText)

/-- The text of a value, unless it counts as nothing. -/
private def filled (v : Json) : Option Text := if v.isEmpty then none else some v.plainText

private def columnWidth (v : Json) : Except Fault Nat :=
  let whole (n : Int) : Except Fault Nat :=
    if n < -2 ^ 63 ∨ 2 ^ 63 ≤ n then
      .error (.value .overflow "Python int too large to convert to C ssize_t")
    else if Text.room < n then .error (.value .memory "")
    else .ok n.toNat
  match v with
  | .int n => whole n
  | .bool b => whole (if b then 1 else 0)
  | v => .error (wrongType s!"'{v.typeName}' object cannot be interpreted as an integer")

def storeSignature : Signature :=
  { name := "store_receipt", required := ["items"]
    nameOnly := ["store_name", "address_line", "phone", "date", "time", "tax_rate", "logo"] }

def signatures : List Signature :=
  [{ name := "demo_receipt" },
    storeSignature,
    { name := "image_receipt", required := ["image"], optional := ["title", "caption"] },
    { name := "large_image_receipt", required := ["image", "original", "printed"] },
    { name := "product_receipt", required := ["name", "price"], optional := ["image"] },
    { name := "qr_receipt", required := ["data"], optional := ["size"] },
    { name := "barcode_receipt", required := ["data"], optional := ["symbology", "height"] },
    { name := "clean", required := ["text"] },
    { name := "money", required := ["amount"], optional := ["currency"] },
    { name := "_pad_label", required := ["label"], optional := ["width"] }]

def textOf (given : List (String × Json)) (name : String) (default_ : Text := []) : Text :=
  ((given.lookup name).map Json.plainText).getD default_

def intOf (given : List (String × Json)) (name : String) (default_ : Int) : Except Fault Int :=
  match given.lookup name with
  | some v => v.toInt
  | none => .ok default_

private def valueOf (given : List (String × Json)) (name : String) : Json :=
  (given.lookup name).getD .null

def filledOf (given : List (String × Json)) (name : String) : Option Text :=
  filled (valueOf given name)

def storeOf (given : List (String × Json)) : Except Fault Text := do
  let items ← Item.listOf (valueOf given "items")
  let d : StoreFields := {}
  let taxRate ← match given.lookup "tax_rate" with
    | none => pure d.taxRate
    | some v => (← Amount.total (items.map (·.price))).rounded.rateFor v
  store items
    { storeName := textOf given "store_name" d.storeName
      addressLine := textOf given "address_line" d.addressLine
      phone := textOf given "phone" d.phone
      date := filledOf given "date"
      time := filledOf given "time"
      taxRate
      logo := match given.lookup "logo" with
        | some v => filled v
        | none => d.logo }

private def ofGiven (name : String) (given : List (String × Json)) : Except Fault Text :=
  match name with
  | "demo_receipt" => .ok demo
  | "store_receipt" => storeOf given
  | "image_receipt" =>
    .ok (image (textOf given "image") (textOf given "title" imageTitle) (filledOf given "caption"))
  | "large_image_receipt" => do
    let before ← sizeOf (valueOf given "original")
    .ok (largeImage (textOf given "image") before (← sizeOf (valueOf given "printed")))
  | "product_receipt" => do
    product (textOf given "name") (← Amount.ofJson (valueOf given "price"))
      (match given.lookup "image" with
        | some v => filled v
        | none => some ("product" : Text))
  | "qr_receipt" => do qrCode (textOf given "data") (← intOf given "size" labelQrSize)
  | "barcode_receipt" => do
    barcode (textOf given "data") (textOf given "symbology" labelSymbology)
      (← intOf given "height" labelBarcodeHeight)
  | "money" => do
    Amount.money (← Amount.ofJson (valueOf given "amount")) (textOf given "currency" "$")
  | "_pad_label" => do
    let width ← match given.lookup "width" with
      | some v => columnWidth v
      | none => pure labelWidth
    .ok (Text.padRight width (clean (textOf given "label")))
  | _ => .ok (clean (textOf given "text"))

def ofName (name : String) (a : Arguments) : Except Fault Text :=
  match signatures.find? fun s => s.name == name with
  | some s => do ofGiven name (← s.bind a)
  | none =>
    .error (.value .missingAttribute
      s!"module 'receipt_printer.printing.receipts' has no attribute '{name}'")

end Receipt
end ThermalPrint
