import ThermalPrint.Decimal.Fixed
import ThermalPrint.Json.Number
import ThermalPrint.Json.Writer

/-
Message templates.  A percent sign begins a conversion, which takes an argument and
writes it in its own way; two percent signs stand for one.
-/

namespace ThermalPrint
namespace Log

/-- How an argument is written: the flags, the least width, the number of places, and the
letter of the form. -/
structure Conversion where
  left : Bool := false
  plus : Bool := false
  blank : Bool := false
  zero : Bool := false
  alternate : Bool := false
  width : Nat := 0
  places : Option Nat := none
  letter : CodePoint := 's'
deriving DecidableEq, Repr

private def typeFault (message : Text) : Fault := .value .wrongType message

/-- The largest width and the largest number of places that can be asked for. -/
def mostWidth : Nat := 2 ^ 63 - 1
def mostPlaces : Nat := 2 ^ 31 - 1

namespace Conversion

/-- The letters that write whole numbers in a base of their own. -/
def exactLetters : Text := ['o', 'x', 'X']

def sign (c : Conversion) (negative : Bool) : Text :=
  if negative then "-" else if c.plus then "+" else if c.blank then " " else []

/-- A text filled up to the width.  Zeros go between a number's sign and its digits. -/
def pad (c : Conversion) (zero : Bool) (front body : Text) : Text :=
  let missing := c.width - (front.length + body.length)
  if c.left then front ++ body ++ List.replicate missing (.char ' ')
  else if zero then front ++ List.replicate missing (.char '0') ++ body
  else List.replicate missing (.char ' ') ++ front ++ body

def ofText (c : Conversion) (t : Text) : Text :=
  c.pad false [] (match c.places with
    | some n => t.take n
    | none => t)

def ofWhole (c : Conversion) (n : Int) : Text :=
  let inBase (base : Nat) : Text := (Nat.toDigits base n.natAbs).map .char
  let digits := match c.letter with
    | 'o' => inBase 8
    | 'x' => inBase 16
    | 'X' => (inBase 16).map CodePoint.toUpper
    | _ => Decimal.digits n.natAbs
  let digits := List.replicate (c.places.getD 0 - digits.length) (.char '0') ++ digits
  let mark := if c.alternate && exactLetters.contains c.letter then [.char '0', c.letter] else []
  c.pad c.zero (c.sign (n < 0) ++ mark) digits

def figures (c : Conversion) (m : Nat) (e : Int) : Text :=
  let places := c.places.getD 6
  match c.letter.map Char.toLower with
  | 'e' => Decimal.scientificPlaces c.alternate places m e
  | 'g' => Decimal.generalDigits c.alternate (max 1 places) m e
  | _ =>
    let body := Decimal.withPoint places (Decimal.roundScaled (m * 10 ^ places) 1 e)
    if places = 0 && c.alternate then body ++ [.char '.'] else body

def ofFloat (c : Conversion) (x : Float) : Text :=
  let (negative, body) := match Decimal.parts x with
    | .nan => (false, ("nan" : Text))
    | .infinite negative => (negative, "inf")
    | .finite negative m e => (negative, c.figures m e)
  c.pad c.zero (c.sign negative) 
    (if c.letter.is Char.isUpper then body.map CodePoint.toUpper else body)

def whole (c : Conversion) (v : Json) : Except Fault Int :=
  let exact := exactLetters.contains c.letter
  match v with
  | .int _ | .bool _ => v.toInt
  | .float _ =>
    if exact then
      .error (typeFault ("%" ++ c.letter :: " format: an integer is required, not float"))
    else v.toInt
  | _ =>
    let required := if exact then "an integer" else "a real number"
    .error (typeFault ("%" ++ c.letter :: s!" format: {required} is required, not {v.typeName}"))

def real (v : Json) : Except Fault Float :=
  match v with
  | .int _ | .bool _ | .float _ => v.toFloat
  | _ => .error (typeFault s!"must be real number, not {v.typeName}")

def character (v : Json) : Except Fault CodePoint :=
  let ofCode (n : Int) : Except Fault CodePoint :=
    if n < 0 ∨ 0x10ffff < n then
      .error (.value .overflow "%c arg not in range(0x110000)")
    else .ok (.ofNat n.toNat)
  match v with
  | .int n => ofCode n
  | .bool b => ofCode (if b then 1 else 0)
  | .str s =>
    match s with
    | [c] => .ok c
    | _ => .error (typeFault "%c requires int or char")
  | _ => .error (typeFault "%c requires int or char")

/-- An argument written; the position is the letter's, for the message about one that is
not known. -/
def apply (c : Conversion) (position : Nat) (v : Json) : Except Fault Text :=
  match c.letter with
  | 's' => .ok (c.ofText v.plainText)
  | 'r' => .ok (c.ofText v.nestedText)
  | 'a' => .ok (c.ofText (v.nestedText.flatMap Text.escapeWide))
  | 'c' => (character v).map fun ch => c.pad false [] [ch]
  | 'd' | 'i' | 'u' | 'o' | 'x' | 'X' => do
    let n ← c.whole v
    if mostPlaces < c.places.getD 0 + 3 then throw (.value .overflow "precision too large")
    return c.ofWhole n
  | 'e' | 'E' | 'f' | 'F' | 'g' | 'G' => (real v).map c.ofFloat
  | letter =>
    let shown := if 31 ≤ letter.toNat ∧ letter.toNat < 127 then letter else '?'
    let code := String.ofList (Nat.toDigits 16 letter.toNat)
    .error (.value .value
      ("unsupported format character '" ++ shown :: s!"' (0x{code}) at index {position}"))

end Conversion

/-- What is still to be filled in: the values in turn, and the members that a conversion
may ask for by name. -/
structure Arguments where
  values : List Json
  members : Option Json := none

namespace Arguments

/-- One object with members in it may be asked by name; all else is taken in turn. -/
def ofList : List Json → Arguments
  | [.obj (m :: rest)] => ⟨[.obj (m :: rest)], some (.obj (m :: rest))⟩
  | values => ⟨values, none⟩

def next (a : Arguments) : Except Fault (Json × Arguments) :=
  match a.values with
  | v :: rest => .ok (v, { a with values := rest })
  | [] => .error (typeFault "not enough arguments for format string")

def nextWhole (a : Arguments) (most : Nat) (word : String) : Except Fault (Int × Arguments) := do
  let (v, a) ← a.next
  let fitting (n : Int) : Except Fault (Int × Arguments) :=
    if n < -(most + 1 : Int) ∨ (most : Int) < n then
      .error (.value .overflow s!"Python int too large to convert to C {word}")
    else .ok (n, a)
  match v with
  | .int n => fitting n
  | .bool b => fitting (if b then 1 else 0)
  | _ => .error (typeFault "* wants int")

def named (a : Arguments) (name : Text) : Except Fault Arguments :=
  match a.members with
  | none => .error (typeFault "format requires a mapping")
  | some members =>
    match members.get? name with
    | some v => .ok { a with values := [v] }
    | none => .error (.value .key (Text.quote name))

end Arguments

def readName? : Nat → Text → Option (Text × Text)
  | _, [] => none
  | 0, ')' :: rest => some ([], rest)
  | depth + 1, ')' :: rest => (readName? depth rest).map fun (name, rest) =>
    (.char ')' :: name, rest)
  | depth, '(' :: rest => (readName? (depth + 1) rest).map fun (name, rest) =>
    (.char '(' :: name, rest)
  | depth, c :: rest => (readName? depth rest).map fun (name, rest) => (c :: name, rest)

def readFlags (c : Conversion) : Text → Conversion × Text
  | '-' :: rest => readFlags { c with left := true } rest
  | '+' :: rest => readFlags { c with plus := true } rest
  | ' ' :: rest => readFlags { c with blank := true } rest
  | '#' :: rest => readFlags { c with alternate := true } rest
  | '0' :: rest => readFlags { c with zero := true } rest
  | t => (c, t)

private def readNumber (t : Text) : Nat × Text :=
  let ds := t.takeWhile (CodePoint.is Char.isDigit)
  (ds.foldl (fun n c => 10 * n + (c.toNat - 48)) 0, t.drop ds.length)

/-- The width of a conversion: digits, or a star for the next argument, where a negative
number means the left side. -/
def readWidth (c : Conversion) (t : Text) (a : Arguments) :
    Except Fault (Conversion × Text × Arguments) := do
  match t with
  | '*' :: rest =>
    let (n, a) ← a.nextWhole mostWidth "ssize_t"
    pure ({ c with width := n.natAbs, left := c.left || n < 0 }, rest, a)
  | _ =>
    let (n, rest) := readNumber t
    if mostWidth < n then throw (.value .value "width too big")
    pure ({ c with width := n }, rest, a)

def readPlaces (c : Conversion) (t : Text) (a : Arguments) :
    Except Fault (Conversion × Text × Arguments) := do
  match t with
  | '.' :: '*' :: rest =>
    let (n, a) ← a.nextWhole mostPlaces "int"
    pure ({ c with places := some n.toNat }, rest, a)
  | '.' :: rest =>
    let (n, rest) := readNumber rest
    if mostPlaces < n then throw (.value .value "precision too big")
    pure ({ c with places := some n }, rest, a)
  | _ => pure (c, t, a)

def readConversion (t : Text) (a : Arguments) :
    Except Fault (Conversion × Text × Arguments) := do
  let (t, a) ← match t with
    | '(' :: rest =>
      if a.members.isNone then throw (typeFault "format requires a mapping")
      match readName? 0 rest with
      | none => throw (.value .value "incomplete format key")
      | some (name, rest) => pure (rest, ← a.named name)
    | _ => pure (t, a)
  let (c, t) := readFlags {} t
  let (c, t, a) ← readWidth c t a
  let (c, t, a) ← readPlaces c t a
  -- the size of a number is of no account
  let t := match t with
    | 'h' :: rest | 'l' :: rest | 'L' :: rest => rest
    | _ => t
  match t with
  | [] => throw (.value .value "incomplete format")
  | letter :: rest => pure ({ c with letter := letter }, rest, a)

/-- A template with its arguments filled in; one without arguments stands as it is. -/
def fill (template : Text) (arguments : List Json) : Except Fault Text :=
  if arguments.isEmpty then .ok template
  else go template.length template (Arguments.ofList arguments)
where
  go : Nat → Text → Arguments → Except Fault Text
    | fuel + 1, '%' :: '%' :: rest, a => return .char '%' :: (← go fuel rest a)
    | fuel + 1, '%' :: rest, a => do
      let (c, rest, a) ← readConversion rest a
      let (v, a) ← a.next
      -- a text for which there is no room fails after its argument has been looked at
      let endless := decide (Text.room < c.width)
      let c := if endless then { c with width := 0 } else c
      let written ← c.apply (template.length - rest.length - 1) v
      if endless then throw (.value .memory "")
      return written ++ (← go fuel rest a)
    | fuel + 1, c :: rest, a => return c :: (← go fuel rest a)
    | _, _, a =>
      if a.members.isNone && !a.values.isEmpty then
        .error (typeFault "not all arguments converted during string formatting")
      else .ok []

end Log
end ThermalPrint
