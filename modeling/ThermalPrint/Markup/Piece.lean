import ThermalPrint.Align
import ThermalPrint.Markup.Fault
import ThermalPrint.Markup.Tag
import ThermalPrint.Text.Case

/-
A line of markup divided into pieces: text, alignment tags, tags for bold type, and
elements with their content.
-/

namespace ThermalPrint
namespace Markup

/-- The things that markup embeds in a line. -/
inductive Element
  | img
  | qrcode
  | barcode
deriving DecidableEq, Repr

namespace Element

def name : Element → Text
  | img => "img".toText
  | qrcode => "qrcode".toText
  | barcode => "barcode".toText

def ofName? (t : Text) : Option Element := [img, qrcode, barcode].find? fun e => e.name == t

def keys : Element → List Text
  | img => []
  | qrcode => ["size".toText]
  | barcode => ["type".toText, "height".toText]

/-- The tag that ends an element, in small letters. -/
def closingTag (e : Element) : Text := .char '<' :: .char '/' :: e.name ++ [.char '>']

end Element

def boldName : Text := ['b']

inductive Piece
  | text (t : Text)
  | column (align : Align)
  | bold (on : Bool)
  | element (e : Element) (attributes : List Attribute) (content : Text)
deriving DecidableEq, Repr

/-- A place in a line: the rest of the line from there on, and the same number of
characters passed over in the line with its letters folded to small ones.  The two
keep step unless a letter that folds to two stands in the line. -/
structure Cursor where
  rest : Text
  folded : Text

namespace Cursor

def ofLine (line : Text) : Cursor := ⟨line, Text.fold line⟩

def advance (c : Cursor) (n : Nat) : Cursor := ⟨c.rest.drop n, c.folded.drop n⟩

end Cursor

def alignTag? : Text → Option Align
  | '[' :: c :: ']' :: _ => Align.ofLetter? c
  | _ => none

/-- An alignment tag or a tag in angle brackets begins at the front of a text. -/
def beginsToken (t : Text) : Bool := (alignTag? t).isSome || (tagBody? t).isSome

/-- How many characters stand in front of the first token. -/
def plainLength (t : Text) : Nat :=
  go 0 t
where
  go (n : Nat) : Text → Nat
    | [] => n
    | c :: rest => if beginsToken (c :: rest) then n else go (n + 1) rest

/-- The attributes of a tag with their keys in small letters, if the tag may have all
of them. -/
def checkAttributes (tag : Text) (keys : List Text) (given : List Attribute) :
    Except MarkupFault (List Attribute) :=
  given.mapM fun a =>
    let key := Text.lower a.key
    if keys.contains key then .ok ⟨key, a.value⟩ else .error (.unknownAttribute tag key)

/-- The piece that a tag at a place begins, and how many characters it takes up.  An
element goes on to the first tag that ends it, in letters of any case. -/
def readPiece (line : Nat) (c : Cursor) (tag : Tag) : Except MarkupFault (Piece × Nat) :=
  let written := if tag.closing then .char '/' :: tag.name else tag.name
  match Element.ofName? tag.name with
  | none =>
    if tag.name ≠ boldName then .error (.unknownTag written)
    else if tag.closing then .ok (.bold false, tag.length)
    else (checkAttributes tag.name [] tag.attributes).map fun _ => (.bold true, tag.length)
  | some e =>
    if tag.closing then .error (.strayClosing tag.name line)
    else
      match checkAttributes tag.name e.keys tag.attributes with
      | .error fault => .error fault
      | .ok attributes =>
        let inside := c.advance tag.length
        match Text.find? e.closingTag inside.folded with
        | none => .error (.unclosed tag.name line)
        | some n =>
          .ok (.element e attributes (inside.rest.take n), tag.length + n + e.closingTag.length)

/-- The token at a place where one begins, and how many characters it takes up. -/
def readToken (line : Nat) (c : Cursor) : Except MarkupFault (Piece × Nat) :=
  match alignTag? c.rest with
  | some align => .ok (.column align, 3)
  | none =>
    match readTag? c.rest with
    | some tag => readPiece line c tag
    | none => .error (.malformedTag (readName (((tagBody? c.rest).map (·.2)).getD [])) line)

/-- The pieces of a line from a place on, up to the first fault if there is one. -/
def pieces (line : Nat) (c : Cursor) : List Piece × Option MarkupFault :=
  if c.rest.isEmpty then ([], none)
  else
    let n := plainLength c.rest
    if n > 0 then
      let (more, fault) := pieces line (c.advance n)
      (.text (c.rest.take n) :: more, fault)
    else
      match readToken line c with
      | .error fault => ([], some fault)
      | .ok (piece, length) =>
        let (more, fault) := pieces line (c.advance (max 1 length))
        (piece :: more, fault)
termination_by c.rest.length
decreasing_by
  all_goals
    simp only [Cursor.advance, List.length_drop]
    have : 0 < c.rest.length := by
      rename_i h _
      simpa [List.length_pos_iff] using h
    omega

end Markup
end ThermalPrint
