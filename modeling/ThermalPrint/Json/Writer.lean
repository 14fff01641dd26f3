import ThermalPrint.Decimal.Shortest
import ThermalPrint.Json.Basic
import ThermalPrint.Text.Quoted

/-
Writing JSON, and the plain text of a value inside a sentence.
-/

namespace ThermalPrint
namespace Json

/-- How a value is laid out.  With an indentation every item stands on a line of
its own; `ascii` escapes all other characters; `sorted` orders the members of each
object by name. -/
structure Layout where
  indent : Option Nat := none
  ascii : Bool := true
  sorted : Bool := false

/-- A double in JSON: positional from `1e-4` up to below `1e16`. -/
def floatStyle : Decimal.Style := ⟨-4, 15, "NaN", "Infinity"⟩

private def unitEscape (n : Nat) : Text := '\\' :: 'u' :: Text.hexPlaces 4 n

def escape (ascii : Bool) (c : CodePoint) : Text :=
  if c = '"' || c = '\\' then ['\\', c]
  else if c = '\n' then ['\\', 'n']
  else if c = '\r' then ['\\', 'r']
  else if c = '\t' then ['\\', 't']
  else if c = '\x0c' then ['\\', 'f']
  else if c = '\x08' then ['\\', 'b']
  else if c.toNat < 0x20 then unitEscape c.toNat
  else if c.toNat < 0x7F || !ascii then [c]
  else
    let n := c.toNat
    if n < 0x10000 then unitEscape n
    else unitEscape (0xD7C0 + n / 0x400) ++ unitEscape (0xDC00 + n % 0x400)

def string (ascii : Bool) (s : Text) : Text := "\"" ++ s.flatMap (escape ascii) ++ "\""

namespace Layout

private def breakAt (layout : Layout) (depth : Nat) : Text :=
  match layout.indent with
  | none => []
  | some n => '\n' :: List.replicate (n * depth) (.char ' ')

private def separator (layout : Layout) (depth : Nat) : Text :=
  match layout.indent with
  | none => [',', ' ']
  | some _ => ',' :: layout.breakAt depth

private def order (layout : Layout) (members : List (Text × Text)) : List (Text × Text) :=
  if layout.sorted then members.mergeSort (fun a b => Text.codesLe a.1 b.1) else members

private def enclose (layout : Layout) (depth : Nat) (opening closing : CodePoint) : List Text → Text
  | [] => [opening, closing]
  | items =>
    opening :: layout.breakAt (depth + 1) ++
      (List.intersperse (layout.separator (depth + 1)) items).flatten ++
      layout.breakAt depth ++ [closing]

mutual

def write (layout : Layout) (depth : Nat) : Json → Text
  | null => "null"
  | bool b => if b then "true" else "false"
  | int n => Decimal.ofInt n
  | float x => floatStyle.text x
  | str s => string layout.ascii s
  | arr items => layout.enclose depth '[' ']' (writeItems layout (depth + 1) items)
  | obj members =>
    let written := layout.order (writeMembers layout (depth + 1) members)
    layout.enclose depth '\x7b' '\x7d'
      (written.map fun m => string layout.ascii m.1 ++ ": " ++ m.2)

def writeItems (layout : Layout) (depth : Nat) : List Json → List Text
  | [] => []
  | v :: rest => write layout depth v :: writeItems layout depth rest

def writeMembers (layout : Layout) (depth : Nat) : List (Text × Json) → List (Text × Text)
  | [] => []
  | (name, v) :: rest => (name, write layout depth v) :: writeMembers layout depth rest

end

end Layout

/-- A value as JSON text. -/
def text (layout : Layout) (v : Json) : Text := layout.write 0 v

/-- A double inside a sentence. -/
def plainFloatStyle : Decimal.Style := ⟨-4, 15, "nan", "inf"⟩

mutual

/-- A value inside a list or an object of running text, where strings are quoted. -/
def nestedText : Json → Text
  | null => "None"
  | bool b => if b then "True" else "False"
  | int n => Decimal.ofInt n
  | float x => plainFloatStyle.text x
  | str s => Text.quote s
  | arr items => "[" ++ ", ".toText.intercalate (nestedItems items) ++ "]"
  | obj members =>
    "\x7b" ++ ", ".toText.intercalate (nestedMembers members) ++ "\x7d"

def nestedItems : List Json → List Text
  | [] => []
  | v :: rest => nestedText v :: nestedItems rest

def nestedMembers : List (Text × Json) → List Text
  | [] => []
  | (name, v) :: rest =>
    (Text.quote name ++ ": " ++ nestedText v) :: nestedMembers rest

end

/-- A value in running text: a string stands as it is. -/
def plainText : Json → Text
  | str s => s
  | v => nestedText v

end Json
end ThermalPrint
