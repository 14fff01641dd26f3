import ThermalPrint.Align
import ThermalPrint.Image.Raster.Basic
import ThermalPrint.Text.Blank

/-
Print directives: what a receipt consists of, independent of any printer.
-/

namespace ThermalPrint

/-- Text of one weight. -/
structure TextRun where
  text : Text
  bold : Bool := false
deriving DecidableEq, Repr

structure TextColumn where
  align : Align
  runs : List TextRun
deriving DecidableEq, Repr

def TextColumn.text (c : TextColumn) : Text := c.runs.flatMap (·.text)

/-- A line of text: its columns, and what they come to as one text. -/
structure AlignedText where
  align : Align := .left
  bold : Bool := false
  content : Text
  columns : List TextColumn := []
deriving DecidableEq, Repr

namespace AlignedText

/-- The line of one column and more.  It has the alignment of the first, and is bold
when all its text is. -/
def ofColumns (first : TextColumn) (rest : List TextColumn) : AlignedText :=
  let columns := first :: rest
  let runs := (columns.flatMap (·.runs)).filter fun r => !r.text.isEmpty
  { align := first.align
    bold := !runs.isEmpty && runs.all (·.bold)
    content := columns.flatMap (·.text)
    columns := columns }

/-- The line of any number of columns; a line of none is refused. -/
def ofColumns? : List TextColumn → Except Fault AlignedText
  | [] => .error (.value .index "tuple index out of range")
  | first :: rest => .ok (ofColumns first rest)

def plain (text : Text) (align : Align := .left) (bold : Bool := false) : AlignedText :=
  ⟨align, bold, text, [⟨align, [⟨text, bold⟩]⟩]⟩

end AlignedText

inductive Directive
  | text (line : AlignedText)
  | rule (mark : Text)
  | image (raster : Raster) (align : Align)
  | barcode (symbology data : Text) (height : Int) (align : Align)
  | qrCode (data : Text) (size : Int) (align : Align)
  | lineFeed
  | cut
deriving DecidableEq

abbrev Job := List Directive

namespace Directive

def defaultBarcodeHeight : Int := 80

def defaultQrSize : Int := 6

end Directive

theorem TextColumn.mem_text {column : TextColumn} {c : CodePoint} :
    c ∈ column.text ↔ ∃ r ∈ column.runs, c ∈ r.text :=
  List.mem_flatMap

/-- The characters that a line is printed with.  Its content is printed when it has no columns. -/
def AlignedText.letters (line : AlignedText) : Text :=
  line.content ++ line.columns.flatMap (·.text)

theorem AlignedText.ofColumns_letters {first : TextColumn} {rest : List TextColumn} {c : CodePoint}
    (h : c ∈ (AlignedText.ofColumns first rest).letters) : ∃ k ∈ first :: rest, c ∈ k.text := by
  rw [AlignedText.letters, List.mem_append] at h
  exact List.mem_flatMap.1 (h.elim id id)

/-- The characters that a directive puts on paper as they are. -/
def Directive.letters : Directive → Text
  | .text line => line.letters
  | .rule mark => mark
  | _ => []

/-- The characters that a directive prints as a code for machines. -/
def Directive.data : Directive → Text
  | .barcode _ data _ _ => data
  | .qrCode data _ _ => data
  | _ => []

/-- All characters that a directive prints in one form or the other. -/
def Directive.characters (d : Directive) : Text := d.letters ++ d.data

theorem Directive.characters_text (line : AlignedText) :
    (Directive.text line).characters = line.letters := List.append_nil _

/-- An entry of a list that is handed in as a job: a directive, or a text in the place
of one. -/
inductive JobEntry
  | directive (d : Directive)
  | foreign (text : Text)

end ThermalPrint
