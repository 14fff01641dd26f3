import ThermalPrint.Directive
import ThermalPrint.Image.Raster.Payload
import ThermalPrint.Markup.Piece
import ThermalPrint.Text.Digit

/-
One line of markup compiled to directives.
-/

namespace ThermalPrint
namespace Markup

/-- What a caller supplies for a handle: a raster, the knowledge that the image could
not be had, or something that has not been made a raster. -/
inductive Supplied
  | raster (r : Raster)
  | unavailable
  | unprepared

/-- The images that markup may name. -/
abbrev Images := List (Text × Supplied)

/-- The raster that the content of an image element stands for: that of a handle, or
the one written out in hexadecimal digits. -/
def resolveImage (images : Images) (payload : Text) : Except ImageFault Raster :=
  match images.lookup payload with
  | some (.raster r) => .ok r
  | some .unavailable => .error (.missing payload)
  | some .unprepared => .error (.notRasterized payload)
  | none => if payload.isEmpty then .error .emptyElement else Raster.ofHex payload

def symbologyAliases : List (Text × Text) :=
  [("EAN13", "EAN13"), ("EAN-13", "EAN13"), ("128", "CODE128"), ("CODE128", "CODE128"),
   ("CODE-128", "CODE128")]

/-- The name of a symbology in its one spelling.  Unknown names stay, in capitals, to
be refused when the barcode is printed. -/
def normalizeSymbology (name : Option Text) : Text :=
  let given := match name with
    | some t => if t.isEmpty then "ean13".toText else t
    | none => "ean13".toText
  let key := Text.upper (Text.trim given)
  (symbologyAliases.lookup key).getD key

/-- The value of an attribute; the last one counts where a key repeats. -/
def attribute? (attributes : List Attribute) (key : Text) : Option Text :=
  (attributes.reverse.find? fun a => a.key == key).map (·.value)

/-- A whole number as an attribute; a missing or blank one has a default. -/
def intAttribute (tag : Text) (attributes : List Attribute) (key : Text) (default_ : Int) :
    Except MarkupFault Int :=
  match attribute? attributes key with
  | none => .ok default_
  | some value =>
    if Text.isBlank value then .ok default_
    else match Text.readInt (Text.trim value) with
      | .ok n => .ok n
      | .error _ => .error (.notAnInteger tag key value)

/-- The directive for an element; none for an image that may be left out. -/
def elementDirective (images : Images) (imageOptional : Bool) (align : Align) (e : Element)
    (attributes : List Attribute) (content : Text) : Except MarkupFault (Option Directive) :=
  match e with
  | .qrcode =>
    (intAttribute e.name attributes "size".toText Directive.defaultQrSize).map fun size =>
      some (.qrCode content size align)
  | .barcode =>
    (intAttribute e.name attributes "height".toText Directive.defaultBarcodeHeight).map
      fun height =>
        some (.barcode (normalizeSymbology (attribute? attributes "type".toText))
          (Text.trim content) height align)
  | .img =>
    match resolveImage images (Text.trim content) with
    | .ok r => .ok (some (.image r align))
    | .error fault => if imageOptional then .ok none else .error (.image fault)

/-- A line under construction.  Lists are kept with the latest first. -/
structure LineState where
  align : Align
  bold : Bool := false
  buffer : Text := []
  runs : List TextRun := []
  columns : List TextColumn := []
  done : List Directive := []
  dropped : Bool := false

namespace LineState

def endRun (s : LineState) : LineState :=
  if s.buffer.isEmpty then s
  else { s with buffer := [], runs := ⟨s.buffer, s.bold⟩ :: s.runs }

def endColumn (s : LineState) : LineState :=
  let s := s.endRun
  if s.runs.isEmpty then s
  else { s with runs := [], columns := ⟨s.align, s.runs.reverse⟩ :: s.columns }

/-- Ends the text at hand; text that is blank throughout is dropped. -/
def endText (s : LineState) : LineState :=
  let s := s.endColumn
  match s.columns.reverse with
  | [] => s
  | first :: rest =>
    let line := AlignedText.ofColumns first rest
    let s := { s with columns := [] }
    if Text.isBlank line.content then s else { s with done := .text line :: s.done }

/-- Takes up one piece of the line. -/
def add (images : Images) (imageOptional : Bool) (number : Nat) (s : LineState) (p : Piece) :
    Except MarkupFault LineState :=
  match p with
  | .text t => .ok { s with buffer := s.buffer ++ t }
  | .column align => .ok { s.endColumn with align := align }
  | .bold true => .ok { s.endRun with bold := true }
  | .bold false =>
    if s.bold then .ok { s.endRun with bold := false } else .error (.strayClosing boldName number)
  | .element e attributes content =>
    match elementDirective images imageOptional s.align e attributes content with
    | .error fault => .error fault
    | .ok none => .ok { s with dropped := true }
    | .ok (some d) => .ok { s.endText with done := d :: s.endText.done }

/-- The directives of the line; one from which nothing is left feeds the paper, unless
an image was left out of it. -/
def finish (number : Nat) (s : LineState) : Except MarkupFault Job :=
  if s.bold then .error (.unclosed boldName number)
  else
    let s := s.endText
    if s.done.isEmpty && !s.dropped then .ok [.lineFeed] else .ok s.done.reverse

end LineState

/-- A line of three or more hyphens, or of as many equals signs. -/
def ruleMark? (t : Text) : Option CodePoint :=
  match t with
  | c :: _ => if (c = '-' || c = '=') && t.length ≥ 3 && t.all (· == c) then some c else none
  | [] => none

/-- The alignment that a line begins with, and how many characters say so. -/
def lineAlign (line : Text) : Align × Nat :=
  match alignTag? line with
  | some align => (align, 3)
  | none => (.left, 0)

/-- The directives of one line. -/
def compileLine (images : Images) (imageOptional : Bool) (number : Nat) (line : Text) :
    Except MarkupFault Job :=
  let (align, length) := lineAlign line
  let body := Text.trim (line.drop length)
  if body.isEmpty then .ok [.lineFeed]
  else
    match ruleMark? body with
    | some mark => .ok [.rule [mark]]
    | none =>
      let (found, fault) := pieces number ((Cursor.ofLine line).advance length)
      match found.foldlM (LineState.add images imageOptional number) { align := align } with
      | .error e => .error e
      | .ok s =>
        match fault with
        | some e => .error e
        | none => s.finish number

end Markup
end ThermalPrint
