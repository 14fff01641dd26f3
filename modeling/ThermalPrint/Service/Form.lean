import ThermalPrint.Decimal.Reading
import ThermalPrint.Image.Reference
import ThermalPrint.Json.Basic
import ThermalPrint.Service.Complaint
import ThermalPrint.Work.Request

/-
The data that requests to the service hold: an address to connect to, and what is to be
printed.
-/

namespace ThermalPrint
namespace Service

namespace Checked

def text : Json → Checked Text
  | .str s => .ok s
  | _ => refuse .notText

def wholeText (s : Text) : Checked Text :=
  if s.any CodePoint.isHalf then refuse .unreadableText else .ok s

def text? : Json → Checked (Option Text)
  | .null => .ok none
  | v => (text v).map some

private def truthOfNumber (n : Int) : Checked Bool :=
  if n = 0 then .ok false else if n = 1 then .ok true else refuse .unreadableTruth

private def falseWords : List Text := ["0", "f", "n", "no", "off", "false"]
private def trueWords : List Text := ["1", "t", "y", "on", "yes", "true"]

/-- A truth value, or a number or a word for one.  Numbers beyond 64 bits do not
count as numbers here. -/
def truth : Json → Checked Bool
  | .bool b => .ok b
  | .int n => if -2 ^ 63 ≤ n ∧ n < 2 ^ 63 then truthOfNumber n else refuse .notTruth
  | .float x =>
    match Decimal.truncate? x with
    | some n =>
      if x.floor == x ∧ -2 ^ 63 < n ∧ n < 2 ^ 63 then truthOfNumber n else refuse .notTruth
    | none => refuse .notTruth
  | .str s => do
    let word := (← wholeText s).map CodePoint.toLower
    if falseWords.contains word then .ok false
    else if trueWords.contains word then .ok true
    else refuse .unreadableTruth
  | _ => refuse .notTruth

def texts : Json → Checked (List (Text × Text))
  | .obj members => each (fun m => named m.1 ((text m.2).map fun v => (m.1, v))) members
  | _ => refuse .notMembers

end Checked

/-- Control characters that are neither line breaks nor tabs. -/
def isControlChar (c : CodePoint) : Bool :=
  (c.toNat < 32 && !(c = '\n' || c = '\r' || c = '\t')) || c.toNat = 127

def hasControlChars (t : Text) : Bool := t.any isControlChar

def maxAddressLength : Nat := 200

def readAddress : Json → Checked Text
  | .obj members =>
    Checked.named "address" <|
      match members.lookup "address".toText with
      | none => .refuse .missing
      | some v => do
        let s ← Checked.wholeText (← Checked.text v)
        if s.isEmpty then .refuse .tooShort
        else if maxAddressLength < s.length then .refuse (.tooLong maxAddressLength)
        else
          let t := Text.trim s
          if t.isEmpty then .refuse (.rule .noAddress)
          else if hasControlChars t || t.any Text.isBlankChar then .refuse (.rule .blankInAddress)
          else .ok t
  | _ => .refuse (.notForm "ConnectRequest")

/-- How long markup may be, and how many images it may come with. -/
structure Limits where
  markup : Int := 8000
  images : Int := 8
deriving DecidableEq, Repr

def isHandleChar (c : CodePoint) : Bool :=
  c.is Char.isAlphanum || c = '_' || c = '.' || c = '-'

/-- A name for an image of one to 64 characters, which a line break may follow. -/
def isHandle (t : Text) : Bool :=
  let name := if t.getLast? = some (.char '\n') then t.dropLast else t
  !name.isEmpty && decide (name.length ≤ 64) && name.all isHandleChar

/-- The data of a request to print. -/
structure PrintForm where
  markup : Option Text
  imageBase64 : Option Text
  imageUrl : Option Text
  images : List (Text × Text)
  imageOptional : Bool
  cut : Bool
deriving DecidableEq, Repr

namespace PrintForm

def checkMarkup (limits : Limits) (s : Text) : Checked Text :=
  if limits.markup < s.length then .refuse (.rule (.markupTooLong limits.markup))
  else if hasControlChars s then .refuse (.rule .controlCharacter)
  else .ok s

def checkUrl (s : Text) : Checked Text :=
  let url := Text.trim s
  if Picture.isWebAddress url then .ok url else .refuse (.rule .notWebAddress)

def checkImage (image : Text × Text) : Checked Unit :=
  if !isHandle image.1 then .refuse (.rule (.badHandle image.1))
  else if Text.isBlank image.2 then .refuse (.rule (.emptyImage image.1))
  else .ok ()

/-- The first thing that is wrong with the images counts. -/
def checkImages (limits : Limits) (images : List (Text × Text)) :
    Checked (List (Text × Text)) := do
  if limits.images < images.length then .refuse (.rule (.tooManyImages limits.images))
  images.forM checkImage
  .ok images

/-- The sources that a form names. -/
def sources (f : PrintForm) : List Text :=
  [f.markup, f.imageBase64, f.imageUrl].filterMap id

def check (f : PrintForm) : Checked PrintForm :=
  if f.sources.length ≠ 1 then .refuse (.rule .notOneSource)
  else if !f.images.isEmpty && f.markup.isNone then .refuse (.rule .strayImages)
  else .ok f

/-- Reads a form.  The form as a whole is looked at once nothing is wrong with its parts. -/
def read (limits : Limits) : Json → Checked PrintForm
  | .obj members => do
    let field {α : Type} (name : Text) (default_ : α) (read : Json → Checked α) : Checked α :=
      match members.lookup name with
      | none => .ok default_
      | some v => (read v).named name
    let checked (check : Text → Checked Text) (v : Json) : Checked (Option Text) := do
      match ← Checked.text? v with
      | none => .ok none
      | some s => (check s).map some
    let markup := field "markup" none (checked (checkMarkup limits))
    let imageBase64 := field "image_base64" none Checked.text?
    let imageUrl := field "image_url" none (checked checkUrl)
    let images := field "images" [] fun v => do checkImages limits (← Checked.texts v)
    let imageOptional := field "image_optional" false Checked.truth
    let cut := field "cut" false Checked.truth
    let form ← Checked.start PrintForm.mk |>.ap markup |>.ap imageBase64 |>.ap imageUrl
      |>.ap images |>.ap imageOptional |>.ap cut
    form.check
  | _ => .refuse (.notForm "PrintJobRequest")

def image (f : PrintForm) : Option Text :=
  match f.imageUrl with
  | some url => if url.isEmpty then f.imageBase64 else some url
  | none => f.imageBase64

def toRequest (f : PrintForm) : PrintRequest :=
  { markup := f.markup, image := f.image, images := f.images
    imageOptional := f.imageOptional, cut := f.cut }

end PrintForm
end Service
end ThermalPrint
