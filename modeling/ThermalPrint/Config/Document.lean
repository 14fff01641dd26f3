import ThermalPrint.Config.Session
import ThermalPrint.Files
import ThermalPrint.Json.Number
import ThermalPrint.Json.Reader
import ThermalPrint.Json.Writer
import ThermalPrint.Text.Utf8

/-
The configuration file: a JSON document that holds the parameters of the printer.
-/

namespace ThermalPrint
namespace Document

def unifyBreaks (t : Text) : Text :=
  go [] t
where
  go (done : Text) : Text → Text
    | [] => done.reverse
    | '\r' :: '\n' :: rest => go ('\n' :: done) rest
    | c :: rest => go ((if c = '\r' then '\n' else c) :: done) rest

def textOf (content : ByteArray) : Except Fault Text :=
  match Utf8.decode content.toList with
  | .ok t => .ok (unifyBreaks t)
  | .error fault => .error (.value .unicodeDecode fault.message)

def readFault (t : Text) (fault : Json.ReadFault) : Fault :=
  match fault with
  | .syntaxAt .. => .value .json (fault.message t)
  | .number digits => Json.digitsFault digits
  | .tooDeep _ => .value .recursion (fault.message t)

def ofBytes (content : ByteArray) : Except Fault Json :=
  match textOf content with
  | .error e => .error e
  | .ok t =>
    match Json.read t with
    | .ok v => .ok v
    | .error fault => .error (readFault t fault)

/-- The document in the content of a file; none where it is null. -/
def ofContent (content : ByteArray) : Except Fault (Option Json) :=
  (ofBytes content).map fun v => match v with
    | .null => none
    | v => some v

/-- The document in a file; none where there is no file. -/
def load (fs : Files) (p : Path) : Except Fault (Option Json) :=
  match fs.exists p with
  | .error e => .error e
  | .ok false => .ok none
  | .ok true =>
    match fs.read p with
    | .error e => .error e
    | .ok content => ofContent content

def text (v : Json) : Text := v.text { indent := some 2 }

def temporaryEnding : Text := ".tmp"

/-- Keeps a document in a file, by way of a temporary one beside it, so that a reader
sees the old file or the new one. -/
def save (fs : Files) (p : Path) (v : Json) : Except Fault Files := do
  let fs ← fs.makeDirectories p.dropLast
  match p.getLast? with
  | none => .error (Files.inTheWay (fs.shown p ++ temporaryEnding) (fs.shown p))
  | some name =>
    let temporary := p.dropLast ++ [name ++ temporaryEnding]
    let bytes ← (Utf8.encode (text v)).mapError fun f => .value .unicodeEncode f.message
    let fs ← fs.write temporary bytes.toByteArray
    fs.replace temporary p

/-- The parameters that a document holds, with defaults for those it does not.  A
document that is empty, or false, or missing, holds none. -/
def sessionConfig (document : Option Json) : Except Fault SessionConfig :=
  let v := document.getD .null
  if v.isEmpty then .ok .standard
  else match v with
    | .obj members => do
      let field (name : Text) (default_ : Json) : Json := (members.lookup name).getD default_
      let dots ← (field "dots_per_line" (.int 384)).toInt
      let paper ← (field "paper_width_mm" (.float 48.0)).toFloat
      let chars ← (field "chars_per_line" (.int 32)).toInt
      let dpi ← (field "printer_dpi" (.int 203)).toInt
      let charset := field "charset" .null
      let charset :=
        if charset.isEmpty then SessionConfig.defaultCharset else charset.plainText
      SessionConfig.ofValues dots chars paper dpi charset
    | v => .error (.value .missingAttribute s!"'{v.typeName}' object has no attribute 'get'")

/-- The parameters for a service that starts with a file.  A file that cannot be read,
or is no document, counts as missing; one that is no text does not. -/
def startConfig (fs : Files) (p : Path) : Except Fault SessionConfig :=
  match load fs p with
  | .ok document => sessionConfig document
  | .error (.system ..) => sessionConfig none
  | .error (.value .json _) => sessionConfig none
  | .error e => .error e

end Document
end ThermalPrint
