import ThermalPrint.Text.Blank
import ThermalPrint.Text.Quoted

/-
What can be wrong with the data of a request, and where.
-/

namespace ThermalPrint
namespace Service

inductive RuleFault
  | noAddress
  | blankInAddress
  | markupTooLong (most : Int)
  | controlCharacter
  | notWebAddress
  | tooManyImages (most : Int)
  | badHandle (handle : Text)
  | emptyImage (handle : Text)
  | notOneSource
  | strayImages
deriving DecidableEq, Repr

namespace RuleFault

def message : RuleFault → Text
  | noAddress => "address required"
  | blankInAddress => "address must not contain whitespace or control characters"
  | markupTooLong most => s!"markup too long (max {most})"
  | controlCharacter => "control characters not allowed"
  | notWebAddress => "image_url must be an http(s) URL"
  | tooManyImages most => s!"too many images (max {most})"
  | badHandle handle => "invalid image handle: " ++ Text.quote handle
  | emptyImage handle => "image " ++ Text.quote handle ++ " is empty"
  | notOneSource => "provide exactly one of markup, image_base64 or image_url"
  | strayImages => "images are only used with markup"

end RuleFault

inductive FieldFault
  | notForm (name : String)
  | missing
  | notText
  | unreadableText
  | tooShort
  | tooLong (most : Nat)
  | notMembers
  | notTruth
  | unreadableTruth
  | rule (fault : RuleFault)
deriving DecidableEq, Repr

namespace FieldFault

def word : FieldFault → String
  | notForm _ => "model_type"
  | missing => "missing"
  | notText => "string_type"
  | unreadableText => "string_unicode"
  | tooShort => "string_too_short"
  | tooLong _ => "string_too_long"
  | notMembers => "dict_type"
  | notTruth => "bool_type"
  | unreadableTruth => "bool_parsing"
  | rule _ => "value_error"

def message : FieldFault → Text
  | notForm name => s!"Input should be a valid dictionary or instance of {name}"
  | missing => "Field required"
  | notText => "Input should be a valid string"
  | unreadableText =>
    "Input should be a valid string, unable to parse raw data as a unicode string"
  | tooShort => "String should have at least 1 character"
  | tooLong most => s!"String should have at most {most} characters"
  | notMembers => "Input should be a valid dictionary"
  | notTruth => "Input should be a valid boolean"
  | unreadableTruth => "Input should be a valid boolean, unable to interpret input"
  | rule fault => "Value error, " ++ fault.message

end FieldFault

/-- A fault at the end of a path of names. -/
structure Complaint where
  place : List Text
  fault : FieldFault
deriving DecidableEq, Repr

/-- A value, or all that is wrong with what it was to be read from. -/
abbrev Checked (α : Type) := Except (List Complaint) α

namespace Checked

variable {α β : Type}

def refuse (fault : FieldFault) : Checked α := .error [⟨[], fault⟩]

def start (x : α) : Checked α := .ok x

/-- A name as a place shows it: each half of a pair, written in three bytes, is three
marks of replacement. -/
def placeName (name : Text) : Text :=
  name.flatMap fun c => if c.isHalf then List.replicate 3 (.char '\ufffd') else [c]

def named (name : Text) (c : Checked α) : Checked α :=
  c.mapError fun complaints => complaints.map fun p =>
    { p with place := placeName name :: p.place }

/-- Applies a function to a value; what is wrong with either is kept. -/
def ap (f : Checked (α → β)) (c : Checked α) : Checked β :=
  match f, c with
  | .ok f, .ok x => .ok (f x)
  | .ok _, .error complaints => .error complaints
  | .error complaints, .ok _ => .error complaints
  | .error first, .error second => .error (first ++ second)

/-- Reads all, keeping all that is wrong. -/
def each (read : α → Checked β) (items : List α) : Checked (List β) :=
  items.foldr (fun x rest => ap ((read x).map List.cons) rest) (.ok [])

end Checked
end Service
end ThermalPrint
