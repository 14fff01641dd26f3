import ThermalPrint.Decimal.Reading
import ThermalPrint.Json.Basic
import ThermalPrint.Text.Hex

/-
Reading JSON.  A text that is no JSON is refused with the place of its first fault.
-/

namespace ThermalPrint
namespace Json

inductive SyntaxFault
  | byteOrderMark
  | noValue
  | noName
  | noColon
  | noComma
  | openString
  | controlCharacter
  | unknownEscape
  | badCodeEscape
  | extraText
deriving DecidableEq, Repr

def SyntaxFault.text : SyntaxFault → String
  | byteOrderMark => "Unexpected UTF-8 BOM (decode using utf-8-sig)"
  | noValue => "Expecting value"
  | noName => "Expecting property name enclosed in double quotes"
  | noColon => "Expecting ':' delimiter"
  | noComma => "Expecting ',' delimiter"
  | openString => "Unterminated string starting at"
  | controlCharacter => "Invalid control character at"
  | unknownEscape => "Invalid \\escape"
  | badCodeEscape => "Invalid \\uXXXX escape"
  | extraText => "Extra data"

/-- Why a text cannot be read: a fault of syntax, of which `rest` is the text from
its place on, a whole number with too many digits, or an array or an object inside of too
many others. -/
inductive ReadFault
  | syntaxAt (fault : SyntaxFault) (rest : Text)
  | number (digits : Nat)
  | tooDeep (object : Bool)

/-- How many arrays and objects may lie inside of each other. -/
def depthLimit : Nat := 980

abbrev Read (α : Type) := Except ReadFault (α × Text)

def fail {α : Type} (fault : SyntaxFault) (rest : Text) : Except ReadFault α :=
  .error (.syntaxAt fault rest)

def skip (t : Text) : Text :=
  t.dropWhile fun c => c = ' ' || c = '\t' || c = '\n' || c = '\r'

def isDigit (c : CodePoint) : Bool := 48 ≤ c.toNat && c.toNat ≤ 57

def valueOf (ds : Text) : Nat := ds.foldl (fun n c => 10 * n + (c.toNat - 48)) 0

def fourHex (ds : Text) : Option Nat :=
  if ds.length = 4 then
    ds.foldl (fun n c => n.bind fun n => (Text.hexValue? c).map (16 * n + ·)) (some 0)
  else none

/-- The escape behind the backslash and the letter u, of which `letter` is the text
from the letter on: the character and the text behind it.  Two escapes that form a
surrogate pair are one character. -/
def codeEscape (letter : Text) : Read CodePoint :=
  let body := letter.drop 1
  if body.length ≤ 4 then fail .badCodeEscape letter
  else match fourHex (body.take 4) with
    | none => fail .badCodeEscape letter
    | some n =>
      let rest := body.drop 4
      if 0xD800 ≤ n && n < 0xDC00 && rest.length > 6 then
        match rest with
        | '\\' :: 'u' :: more =>
          match fourHex (more.take 4) with
          | none => fail .badCodeEscape (rest.drop 1)
          | some low =>
            if 0xDC00 ≤ low && low < 0xE000 then
              .ok (.ofNat (0x10000 + (n - 0xD800) * 0x400 + (low - 0xDC00)), more.drop 4)
            else .ok (.ofNat n, rest)
        | _ => .ok (.ofNat n, rest)
      else .ok (.ofNat n, rest)

def simpleEscape? (c : CodePoint) : Option CodePoint :=
  if c = '"' || c = '\\' || c = '/' then some c
  else if c = 'b' then some (.char '\x08')
  else if c = 'f' then some (.char '\x0c')
  else if c = 'n' then some (.char '\n')
  else if c = 'r' then some (.char '\r')
  else if c = 't' then some (.char '\t')
  else none

/-- The inside of a string and what follows its closing quote. `start` is the text
from the opening quote on, `done` the characters so far, reversed. -/
def stringBody (start : Text) : Nat → Text → Text → Read Text
  | 0, _, _ => fail .openString start
  | fuel + 1, done, t =>
    match t with
    | [] => fail .openString start
    | '"' :: rest => .ok (done.reverse, rest)
    | ['\\'] => fail .openString start
    | '\\' :: c :: rest =>
      if c = 'u' then
        match codeEscape (c :: rest) with
        | .error e => .error e
        | .ok (d, rest) => stringBody start fuel (d :: done) rest
      else match simpleEscape? c with
        | some d => stringBody start fuel (d :: done) rest
        | none => fail .unknownEscape t
    | c :: rest =>
      if c.toNat < 0x20 then fail .controlCharacter t
      else stringBody start fuel (c :: done) rest

def readString (t : Text) : Read Text := stringBody t (t.length + 1) [] (t.drop 1)

def readNumber (t : Text) : Read Json :=
  let negative := t.head? = some (.char '-')
  let body := if negative then t.drop 1 else t
  let whole : Text := match body with
    | '0' :: _ => [.char '0']
    | _ => body.takeWhile isDigit
  if whole.isEmpty then fail .noValue t
  else
    let rest := body.drop whole.length
    let fraction := match rest with
      | '.' :: after => after.takeWhile isDigit
      | _ => []
    let rest := if fraction.isEmpty then rest else rest.drop (fraction.length + 1)
    let (power, rest) : Option Int × Text := match rest with
      | c :: after =>
        if c = 'e' || c = 'E' then
          let sign := match after with
            | '-' :: _ => some true
            | '+' :: _ => some false
            | _ => none
          let ds := (after.drop (if sign.isSome then 1 else 0)).takeWhile isDigit
          if ds.isEmpty then (none, rest)
          else
            let n : Int := valueOf ds
            (some (if sign == some true then -n else n),
              after.drop ((if sign.isSome then 1 else 0) + ds.length))
        else (none, rest)
      | [] => (none, rest)
    if fraction.isEmpty && power.isNone then
      if whole.length > Text.digitLimit then .error (.number whole.length)
      else
        let n : Int := valueOf whole
        .ok (int (if negative then -n else n), rest)
    else
      let m := valueOf (whole ++ fraction)
      .ok (float (Decimal.ofScientific negative m (power.getD 0 - fraction.length)), rest)

def words : List (String × Json) :=
  [("null", null), ("true", bool true), ("false", bool false),
   ("NaN", float (Decimal.assemble false (Decimal.infinityBits + 2 ^ 51))),
   ("Infinity", float (Decimal.assemble false Decimal.infinityBits)),
   ("-Infinity", float (Decimal.assemble true Decimal.infinityBits))]

def readWord? (t : Text) : Option (Json × Text) :=
  (words.find? fun w => w.1.toText.isPrefixOf t).map fun w => (w.2, t.drop w.1.length)

mutual

/-- A value at the front of the text; `depth` is how many arrays and objects may still
begin inside of each other. -/
def readValue : Nat → Nat → Text → Read Json
  | 0, _, t => fail .noValue t
  | fuel + 1, depth, t =>
    match t with
    | [] => fail .noValue t
    | '"' :: _ =>
      match readString t with
      | .ok (s, rest) => .ok (str s, rest)
      | .error e => .error e
    | '[' :: rest =>
      if depth = 0 then .error (.tooDeep false)
      else match skip rest with
        | ']' :: after => .ok (arr [], after)
        | inside => readItems fuel (depth - 1) [] inside
    | '\x7b' :: rest =>
      if depth = 0 then .error (.tooDeep true)
      else match skip rest with
        | '\x7d' :: after => .ok (obj [], after)
        | inside => readMembers fuel (depth - 1) [] inside
    | _ =>
      match readWord? t with
      | some found => .ok found
      | none => readNumber t

/-- The items of an array up to its end; `done` holds those before, reversed. -/
def readItems : Nat → Nat → List Json → Text → Read Json
  | 0, _, _, t => fail .noValue t
  | fuel + 1, depth, done, t =>
    match readValue fuel depth t with
    | .error e => .error e
    | .ok (v, rest) =>
      match skip rest with
      | ']' :: after => .ok (arr (v :: done).reverse, after)
      | ',' :: after => readItems fuel depth (v :: done) (skip after)
      | other => fail .noComma other

def readMembers : Nat → Nat → List (Text × Json) → Text → Read Json
  | 0, _, _, t => fail .noName t
  | fuel + 1, depth, done, t =>
    match t with
    | '"' :: _ =>
      match readString t with
      | .error e => .error e
      | .ok (name, rest) =>
        match skip rest with
        | ':' :: after =>
          match readValue fuel depth (skip after) with
          | .error e => .error e
          | .ok (v, rest) =>
            match skip rest with
            | '\x7d' :: after => .ok (obj (ofMembers ((name, v) :: done).reverse), after)
            | ',' :: after => readMembers fuel depth ((name, v) :: done) (skip after)
            | other => fail .noComma other
        | other => fail .noColon other
    | _ => fail .noName t

end

def readPlain (t : Text) : Except ReadFault Json :=
  match readValue (2 * t.length + 2) depthLimit (skip t) with
  | .error e => .error e
  | .ok (v, rest) =>
    if (skip rest).isEmpty then .ok v else .error (.syntaxAt .extraText (skip rest))

/-- The same for a text that must not begin with a byte order mark. -/
def read (t : Text) : Except ReadFault Json :=
  if t.head? = some (.char '\uFEFF') then .error (.syntaxAt .byteOrderMark t) else readPlain t

/-- A place in a text for a reader of the message: its line and column, from 1, and
its distance from the start. -/
def placeText (whole rest : Text) : String :=
  let before := whole.take (whole.length - rest.length)
  let line := before.count (.char '\n') + 1
  let column := (before.reverse.takeWhile (· ≠ .char '\n')).length + 1
  s!"line {line} column {column} (char {before.length})"

def ReadFault.message (whole : Text) : ReadFault → String
  | syntaxAt fault rest => s!"{fault.text}: {placeText whole rest}"
  | number n =>
    s!"Exceeds the limit ({Text.digitLimit} digits) for integer string conversion: value has {n} "
      ++ "digits; use sys.set_int_max_str_digits() to increase the limit"
  | tooDeep object =>
    "maximum recursion depth exceeded while decoding a JSON "
      ++ (if object then "object" else "array") ++ " from a unicode string"

end Json
end ThermalPrint
