import ThermalPrint.Align
import ThermalPrint.Markup.Piece
import ThermalPrint.Receipt.Item

/-
Ready-made receipts as markup.  Text of a caller's is made safe to stand inside a line of it.
Images are named by handles, which whoever prints the receipt has to supply.
-/

namespace ThermalPrint
namespace Receipt

/-- A space behind every bracket that begins a tag. -/
def openTags : Text → Text
  | [] => []
  | c :: rest =>
    if (Markup.tagBody? (c :: rest)).isSome then c :: .char ' ' :: openTags rest
    else c :: openTags rest

/-- Round brackets in the place of the square ones of alignment tags. -/
def roundTags : Text → Text
  | '[' :: c :: ']' :: rest =>
    if (Align.ofLetter? c).isSome then .char '(' :: c :: .char ')' :: roundTags rest
    else .char '[' :: roundTags (c :: .char ']' :: rest)
  | c :: rest => c :: roundTags rest
  | [] => []

/-- A text on one line in which no tag begins. -/
def clean (t : Text) : Text :=
  roundTags (openTags ((Text.breakLines t).intersperse [.char ' ']).flatten)

def lines (ls : List Text) : Text := (ls.intersperse [.char '\n']).flatten

private def separator : Text := List.replicate 32 (.char '-')

private def doubleSeparator : Text := List.replicate 32 (.char '=')

private def imageLine (handle : Text) : Text := "[C]<img>" ++ handle ++ "</img>"

private def boldLine (text : Text) : Text := "[C]<b>" ++ text ++ "</b>"

def labelWidth : Nat := 18

def padLabel (label : Text) : Text := Text.padRight labelWidth (clean label)

def demo : Text :=
  lines ["[C]<b>TEST RECEIPT</b>", "[L]Item A        [R]10.00", "[L]Item B        [R]20.00",
    "[L]------------------------", "[R]<b>Total: 30.00</b>", [], []]

structure StoreFields where
  storeName : Text := "MY STORE NAME"
  addressLine : Text := "123 Main Street"
  phone : Text := "Tel: (123) 456-7890"
  date : Option Text := none
  time : Option Text := none
  taxRate : Amount := .real 0.1
  logo : Option Text := some ("logo")

/-- The sums of a store receipt, each rounded before it goes into the next. -/
structure Sums where
  subtotal : Amount
  tax : Amount
  total : Amount

def sums (prices : List Amount) (taxRate : Amount) : Except Fault Sums := do
  let subtotal := (← Amount.total prices).rounded
  let tax := (← subtotal.mul taxRate).rounded
  let total := (← subtotal.add tax).rounded
  .ok ⟨subtotal, tax, total⟩

private def itemLine (label : Text) (price : Amount) : Except Fault Text :=
  price.money.map fun m => "[L]" ++ padLabel label ++ "[R]" ++ m

/-- A receipt with items, their sum, the tax and the total. -/
def store (items : List Item) (fields : StoreFields) : Except Fault Text := do
  let s ← sums (items.map (·.price)) fields.taxRate
  let itemLines ← items.mapM fun item => itemLine item.label item.price
  let subtotalLine ← itemLine "Subtotal:" s.subtotal
  let percent ← (← fields.taxRate.mul (.whole 100)).places 0
  let taxLine ← itemLine ("Tax (" ++ percent ++ "%):") s.tax
  let total ← Amount.money s.total
  .ok (lines (
    (fields.logo.map imageLine).toList
    ++ [boldLine (clean fields.storeName), "[C]" ++ clean fields.addressLine,
      "[C]" ++ clean fields.phone, "[C]" ++ doubleSeparator, "[L]"]
    ++ (fields.date.map fun d => "[L]Date: " ++ clean d).toList
    ++ (fields.time.map fun d => "[L]Time: " ++ clean d).toList
    ++ ["[L]".toText, "[L]<b>Items:</b>", "[L]" ++ separator]
    ++ itemLines
    ++ ["[L]" ++ separator, subtotalLine, taxLine, "[L]" ++ doubleSeparator,
      "[L]<b>TOTAL:</b>     [R]<b>" ++ total ++ "</b>", "[L]", "[C]<b>Thank You!</b>",
      "[C]Please Come Again", [], []]))

def imageTitle : Text := "Image from URL"

/-- An image with a title and perhaps a caption. -/
def image (handle : Text) (title : Text) (caption : Option Text) : Text :=
  lines ([boldLine (clean title), imageLine handle]
    ++ (caption.map fun c => "[C]" ++ clean c).toList ++ [[], []])

def sizeText (size : Int × Int) : Text := Decimal.ofInt size.1 ++ .char 'x' :: Decimal.ofInt size.2

def largeImage (handle before printed : Text) : Text :=
  lines ["[C]<b>Large Image Print</b>", "[C]Original: " ++ before,
    "[C]Printed: " ++ printed, imageLine handle, [], []]

def product (name : Text) (price : Amount) (handle : Option Text) : Except Fault Text := do
  let m ← Amount.money price
  .ok (lines (["[C]<b>PRODUCT RECEIPT</b>".toText, "[C]" ++ doubleSeparator]
    ++ (handle.map imageLine).toList
    ++ [boldLine (clean name), "[C]Price: " ++ m, "[C]" ++ doubleSeparator,
      "[C]Thank you!", [], []]))

/-- What is said of a number of too many digits. -/
def unspelled : Fault :=
  .value .value (s!"Exceeds the limit ({Text.digitLimit} digits) for integer string conversion; "
    ++ "use sys.set_int_max_str_digits() to increase the limit")

def spelled (n : Int) : Except Fault Text :=
  if Text.digitLimit < (Decimal.digits n.natAbs).length then .error unspelled
  else .ok (Decimal.ofInt n)

def labelQrSize : Int := 8

def qrCode (data : Text) (size : Int) : Except Fault Text := do
  let size ← spelled size
  .ok (lines ["[C]<b>Scan QR Code</b>",
    "[C]<qrcode size='" ++ size ++ "'>" ++ clean data ++ "</qrcode>",
    "[C]Thank you!", [], []])

def labelSymbology : Text := "ean13"

def labelBarcodeHeight : Int := 50

def barcode (data symbology : Text) (height : Int) : Except Fault Text := do
  let height ← spelled height
  .ok (lines ["[C]<b>Product Barcode</b>",
    "[C]<barcode type='" ++ clean symbology ++ "' height='" ++ height ++ "'>"
      ++ clean data ++ "</barcode>",
    [], []])

end Receipt
end ThermalPrint
