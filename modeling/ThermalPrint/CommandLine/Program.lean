import ThermalPrint.CommandLine.Options
import ThermalPrint.Config.Document
import ThermalPrint.Encode.Job
import ThermalPrint.Image.Reading
import ThermalPrint.Receipt.Template
import ThermalPrint.Session.Basic

/-
The program behind the command line: it renders markup to bytes, and writes them to a
file, shows them, or sends them to a printer.
-/

namespace ThermalPrint
namespace CommandLine

/-- How the program ends: with a number, or with a text that says why. -/
inductive Ending
  | code (n : Nat)
  | text (s : Text)
deriving DecidableEq, Repr

structure Console (m : Type → Type) where
  input : m Text
  contentOf : Text → m (Except Fault ByteArray)
  store : Text → List UInt8 → m (Except Fault Unit)
  say : Text → m Unit
  complain : Text → m Unit
  /-- The document of the configuration, if there is one. -/
  document : m (Except Fault (Option Json))

def demos : List (Text × Except Fault Text) :=
  [("barcode", Receipt.barcode "1234567890128" "ean13" Receipt.labelBarcodeHeight),
    ("qr", Receipt.qrCode "https://example.com" Receipt.labelQrSize),
    ("store", Receipt.store [⟨"Coffee", .real 3.5⟩, ⟨"Bagel", .real 2.25⟩]
      { logo := none }),
    ("test", .ok Receipt.demo)]

def unknownDemo (name : Text) : Text :=
  "unknown demo " ++ Text.quote name ++ "; choose from "
    ++ ", ".toText.intercalate (demos.map (·.1))

inductive Origin
  | demo (name : Text)
  | input
  | file (path : Text)
deriving DecidableEq, Repr

def Options.origin? (o : Options) : Option Origin :=
  let demo := o.demo.getD []
  let markup := o.markup.getD []
  if !demo.isEmpty then some (.demo demo)
  else if markup == "-" then some .input
  else if !markup.isEmpty then some (.file markup)
  else none

def readPair (pair : Text) : Except Ending (Text × Text) :=
  match Argument.splitAtEquals pair with
  | some (c :: cs, d :: ds) => .ok (c :: cs, d :: ds)
  | _ => .error (.text ("--image expects handle=path, got " ++ Text.quote pair))

/-- The paths of the images by handle.  A handle that comes again keeps its place and
gets a new path. -/
def imagePaths (pairs : List Text) : Except Ending (List (Text × Text)) := do
  let read ← pairs.mapM readPair
  .ok (read.foldl (fun done p =>
    if done.any (·.1 == p.1) then done.map fun q => if q.1 == p.1 then p else q
    else done ++ [p]) [])

def hexDump (bytes : List UInt8) : Text :=
  " ".toText.intercalate (bytes.map Text.hexOfByte)

/-- What keeps the program from going on: a fault, or an end that was come to. -/
inductive Stop
  | fault (f : Fault)
  | ending (e : Ending)

abbrev Step (m : Type → Type) (α : Type) := ExceptT Stop m α

variable {m : Type → Type} [Monad m] {τ : Type}

private def orFault {α : Type} (x : m (Except Fault α)) : Step m α :=
  ExceptT.mk do return (← x).mapError .fault

private def orEnding {α : Type} (x : Except Ending α) : Step m α :=
  ExceptT.mk (pure (x.mapError .ending))

def markup (console : Console m) : Option Origin → Step m Text
  | none => throw (.ending (.code 2))
  | some (.demo name) =>
    match demos.lookup name with
    | none => throw (.ending (.text (unknownDemo name)))
    | some text => orFault (pure text)
  | some .input => ExceptT.lift console.input
  | some (.file path) => do
    let content ← orFault (console.contentOf path)
    orFault (pure (Document.textOf content))

def images (console : Console m) (paths : List (Text × Text)) :
    Step m (List (Text × Option Bitmap)) :=
  paths.mapM fun (handle, path) => do
    let content ← orFault (console.contentOf path)
    let picture ← orFault (pure (Picture.ofFile content))
    return (handle, some (.picture picture))

def render (console : Console m) (config : SessionConfig) (order : PrintOrder) :
    Step m (List UInt8) := do
  match Render.buildJob config order.source order.options with
  | .error e => throw (.fault e)
  | .ok job => ExceptT.lift ((Encode.notices config job).forM fun said => console.say said)
  orFault (pure (Render.bytes config order.source order.options))

def send (console : Console m) (desk : Desk m τ) (address : Text) (order : PrintOrder) :
    Step m Unit := do
  orFault (desk.connect address)
  let config := (← ExceptT.lift desk.get).config
  if let .ok job := Render.buildJob config order.source order.options then
    ExceptT.lift ((Encode.notices config job).forM fun said => console.say said)
  let printed ← ExceptT.lift (desk.submit order)
  orFault desk.disconnect
  let _ ← orFault (pure printed)
  ExceptT.lift (console.say ((← ExceptT.lift desk.get).lastMessage.getD "None"))

def output (console : Console m) (desk : Desk m τ) (o : Options) (source : Text) :
    Step m Ending := do
  let paths ← orEnding (imagePaths o.images)
  let order : PrintOrder :=
    { source := .markup source, options := { images := ← images console paths, cut := o.cut } }
  let bytes ← render console (← ExceptT.lift desk.get).config order
  let file := o.output.getD []
  if !file.isEmpty then
    orFault (console.store file bytes)
    ExceptT.lift (console.say (s!"Wrote {bytes.length} bytes to " ++ file))
  if o.hex then ExceptT.lift (console.say (hexDump bytes))
  let address := o.send.getD []
  if !address.isEmpty then send console desk address order
  return .code 0

/-- A fault of printing or of the system is told, and ends the program; any other one
goes on to whoever runs it. -/
def tell (console : Console m) (result : Except Stop Ending) : m (Except Fault Ending) := do
  match result with
  | .ok e | .error (.ending e) => return .ok e
  | .error (.fault f) =>
    if f.isPrintError || f.isSystem then
      console.complain ("[FAIL] " ++ f.message)
      return .ok (.code 1)
    else return .error f

def configure (console : Console m) (desk : Desk m τ) : Step m Unit := do
  let document ← orFault console.document
  let config ← orFault (pure (Document.sessionConfig document))
  ExceptT.lift (desk.set { config })

/-- Runs the program.  Faults before there is a session are nobody's business here. -/
def run (console : Console m) (desk : Desk m τ) (o : Options) : m (Except Fault Ending) := do
  let begun : Step m Text := do
    let source ← markup console o.origin?
    configure console desk
    return source
  match ← begun.run with
  | .error (.fault f) => return .error f
  | .error (.ending e) => return .ok e
  | .ok source => tell console (← (output console desk o source).run)

end CommandLine
end ThermalPrint
