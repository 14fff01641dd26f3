import ThermalPrint.Config.Session
import ThermalPrint.Directive
import ThermalPrint.Encode.Barcode

/-
Jobs as commands and as bytes, and what is said while a job is encoded.  The bytes depend on
the job and the configuration alone.

Several columns are laid out on one line.  Left columns flow from where the previous one
ends, centered ones are centered on the line, and right ones are pushed against the
right margin.  Columns are never reordered or cut, and none is moved left over another.
-/

namespace ThermalPrint

namespace Layout

def padding (n : Nat) : TextRun := ⟨List.replicate n (.char ' '), false⟩

def totalLength (columns : List TextColumn) : Nat := (columns.map (·.text.length)).sum

/-- Where a column wants to start, if the one before it ends at `position`, it has
`length` characters, and with the columns behind it `remaining`. -/
def target (width : Int) (position length remaining : Nat) : Align → Int
  | .left => position
  | .center => min ((width - length).fdiv 2) (width - remaining)
  | .right => width - remaining

/-- Where a column starts: never before `position`. -/
def start (width : Int) (position : Nat) (column : TextColumn) (rest : List TextColumn)
    (first : Bool) : Nat :=
  if first then position
  else
    let length := column.text.length
    max position (target width position length (length + totalLength rest) column.align).toNat

/-- The runs of columns that all have text, from a position on. -/
def place (width : Int) : Nat → Bool → List TextColumn → List TextRun
  | _, _, [] => []
  | position, first, column :: rest =>
    let origin := start width position column rest first
    (if origin > position then [padding (origin - position)] else []) ++
      column.runs.filter (fun r => !r.text.isEmpty) ++
      place width (origin + column.text.length) false rest

/-- The columns that have text.  The others take no part in a line. -/
def occupied (columns : List TextColumn) : List TextColumn :=
  columns.filter fun c => !c.text.isEmpty

/-- The runs of a line of columns, with the spaces between them. -/
def line (width : Int) (columns : List TextColumn) : List TextRun :=
  place width 0 true (occupied columns)

def gapsFrom (width : Int) : Nat → Bool → List TextColumn → List Nat
  | _, _, [] => []
  | position, first, column :: rest =>
    let origin := start width position column rest first
    (origin - position) :: gapsFrom width (origin + column.text.length) false rest

/-- How many spaces stand in front of each of the columns of a line. -/
def gaps (width : Int) (columns : List TextColumn) : List Nat :=
  gapsFrom width 0 true (occupied columns)

end Layout

namespace Encode

/-- Text in the session's character set; no change of code page is sent. -/
def textCommand (config : SessionConfig) (t : Text) : Except EncodeFault Command :=
  match Text.Charset.ofName config.charset with
  | .ok charset => .ok (.text (charset.encode t))
  | .error fault => .error (.charset fault)

/-- Runs of text with emphasis switched between them where it matters; `bold` is the
state the printer is in. -/
def runCommands (config : SessionConfig) : Bool → List TextRun → Except EncodeFault (List Command)
  | bold, [] => .ok (if bold then [.emphasis false] else [])
  | bold, run :: rest =>
    match textCommand config run.text with
    | .error fault => .error fault
    | .ok command =>
      let switches := run.bold != bold && !Text.isBlank run.text
      let bold := if switches then run.bold else bold
      (runCommands config bold rest).map fun more =>
        (if switches then [.emphasis run.bold] else []) ++ command :: more

/-- The columns of a line; one that was given without any has its content as one. -/
def columnsOf (line : AlignedText) : List TextColumn :=
  if line.columns.isEmpty then [⟨line.align, [⟨line.content, line.bold⟩]⟩] else line.columns

/-- The weight of the first run that shows on paper. -/
def firstWeight (runs : List TextRun) : Bool :=
  match runs.find? fun r => !Text.isBlank r.text with
  | some r => r.bold
  | none => false

/-- The characters of a text are counted below this number. -/
def countLimit : Nat := 2 ^ 63

/-- Why no text is made of a character that is repeated so many times. -/
def lengthFault? (n : Nat) : Option EncodeFault :=
  if countLimit ≤ n then some .uncountable
  else if Text.room < n then some .noRoom
  else none

theorem lengthFault?_short {n : Nat} (h : n ≤ Text.room) : lengthFault? n = none := by
  have hcount : Text.room < countLimit := by decide
  rw [lengthFault?, if_neg (Nat.not_le.2 (Nat.lt_of_le_of_lt h hcount)), if_neg (Nat.not_lt.2 h)]

theorem lengthFault?_cases {n : Nat} {fault : EncodeFault} (h : lengthFault? n = some fault) :
    fault = .uncountable ∨ fault = .noRoom := by
  unfold lengthFault? at h
  split at h
  · exact .inl (Option.some.inj h).symm
  · split at h
    · exact .inr (Option.some.inj h).symm
    · cases h

/-- A line of text.  A single column is aligned by the printer; several are laid out
from the left margin. -/
def textLine (config : SessionConfig) (line : AlignedText) : Except EncodeFault (List Command) :=
  match columnsOf line with
  | [column] =>
    let bold := firstWeight column.runs
    (runCommands config bold column.runs).map fun commands =>
      .align line.align :: .emphasis bold :: commands ++ [.lineFeed]
  | columns =>
    match (Layout.gaps config.charsPerLine columns).findSome? lengthFault? with
    | some fault => .error fault
    | none =>
      (runCommands config false (Layout.line config.charsPerLine columns)).map fun commands =>
        .align .left :: .emphasis false :: commands ++ [.lineFeed]

def rule (config : SessionConfig) (mark : Text) : Except EncodeFault (List Command) :=
  match lengthFault? config.charsPerLine with
  | some fault => .error fault
  | none =>
    let c := mark.head?.getD (.char '-')
    (textCommand config (List.replicate config.charsPerLine c)).map fun command =>
      [.align .left, .emphasis false, command, .lineFeed]

def image (config : SessionConfig) (raster : Raster) (align : Align) :
    Except EncodeFault (List Command) :=
  if fits : raster.width ≤ config.dotsPerLine then
    let picture := (raster.padded config.dotsPerLine align fits).toGray
    .ok (.align .left ::
      (Raster.blockTops picture.height Raster.maxBlockRows).map fun top =>
        .ofGray (picture.rows top (min picture.height (top + Raster.maxBlockRows))))
  else .error (.tooWide raster.width config.dotsPerLine)

def directive (config : SessionConfig) : Directive → Except EncodeFault (List Command)
  | .text line => textLine config line
  | .rule mark => rule config mark
  | .image raster align => image config raster align
  | .barcode symbology data height align => barcode symbology data height align
  | .qrCode data size align => qrCode data size align
  | .lineFeed => .ok [.lineFeed]
  | .cut => .ok [.feed 6, .cut 1]

/-- The commands for an entry of a job; one that is no directive is refused. -/
def entry (config : SessionConfig) : JobEntry → Except EncodeFault (List Command)
  | .directive d => directive config d
  | .foreign text => .error (.notADirective text)

/-- The commands for a list of entries, behind the one that initializes the printer. -/
def entries (config : SessionConfig) (es : List JobEntry) : Except EncodeFault (List Command) :=
  (es.mapM (entry config)).map fun commands => .reset :: commands.flatten

def commands (config : SessionConfig) (job : Job) : Except EncodeFault (List Command) :=
  (job.mapM (directive config)).map fun commands => .reset :: commands.flatten

def job (config : SessionConfig) (j : Job) : Except EncodeFault (List UInt8) :=
  (commands config j).map streamOf

def commandNotice? : Command → Option String
  | .barcode .. => some "Using hardware barcode renderer"
  | .raster .. =>
    some ("The media.width.pixel field of the printer profile is not set. "
      ++ "The center flag will have no effect.")
  | _ => none

/-- What is said while a job is encoded, up to the first directive that has no bytes. -/
def notices (config : SessionConfig) : Job → List String
  | [] => []
  | d :: rest =>
    match directive config d with
    | .error _ => []
    | .ok commands => commands.filterMap commandNotice? ++ notices config rest

end Encode

end ThermalPrint
