import ThermalPrint.Fault
import ThermalPrint.Text.Utf8
import ThermalPrint.Text.Quoted

/-
Files and directories, as far as programs that read and write a few of them see them.  A path
is followed name by name through directories that exist; what it leads to is a location, which
has no name for "the directory above" in it except at its front.
-/

namespace ThermalPrint

/-- The names on the way to a file, the outermost first.  The name of an absolute path's
start is a slash. -/
abbrev Path := List Text

namespace Path

def namesOf (s : Text) : List Text :=
  (Text.splitOn '/' s).filter fun name => !(name == "" || name == ".")

def ofText (s : Text) : Path :=
  if s.head? = some (.char '/') then "/" :: namesOf s else namesOf s

def toText : Path → Text
  | ['/'] :: names => "/" ++ "/".toText.intercalate names
  | names => "/".toText.intercalate names

def above : Text := ".."

/-- The bytes that a character of a path has.  Halves of surrogate pairs in the upper half of
their first byte's range stand for bytes that are no text. -/
private def charSize : CodePoint → Nat
  | .char c => c.utf8Size
  | .half _ => 1

def byteSize (s : Text) : Nat := (s.map charSize).sum

end Path

inductive FileNode
  | directory
  | file (content : ByteArray)

/-- Files below a directory of which messages write the name as `root`, and which takes up
some bytes at the front of every path. -/
structure Files where
  root : Text := []
  rootSize : Nat := 0
  nodes : List (Path × FileNode) := []

inductive PathFault
  | missing
  | notDirectory
  | tooLong
deriving DecidableEq, Repr

namespace Files

/-- The most bytes in a name, and one more than the most in a path. -/
def maxNameSize : Nat := 255
def maxPathSize : Nat := 4096

def shown (fs : Files) (p : Path) : Text :=
  if p.isEmpty then if fs.root.isEmpty then "." else fs.root
  else if fs.root.isEmpty || p.head? = some "/".toText then p.toText
  else fs.root ++ "/" ++ p.toText

private def quotePath (fs : Files) (p : Path) : Text := Text.quote (fs.shown p)

def missing (fs : Files) (p : Path) : Fault :=
  .system .fileMissing ("[Errno 2] No such file or directory: " ++ fs.quotePath p)

def isDirectory (fs : Files) (p : Path) : Fault :=
  .system .isDirectory ("[Errno 21] Is a directory: " ++ fs.quotePath p)

def alreadyExists (fs : Files) (p : Path) : Fault :=
  .system .fileExists ("[Errno 17] File exists: " ++ fs.quotePath p)

def faultOf (fs : Files) (p : Path) : PathFault → Fault
  | .missing => fs.missing p
  | .notDirectory => .system .notDirectory ("[Errno 20] Not a directory: " ++ fs.quotePath p)
  | .tooLong => .system .general ("[Errno 36] File name too long: " ++ fs.quotePath p)

/-- Paths with a zero or with what is no text in them are not even looked for. -/
def unusable? (fs : Files) (p : Path) : Option Fault :=
  let t := p.toText
  match Utf8.stray? t with
  | some halves =>
    let front := if fs.root.isEmpty then 0 else fs.rootSize + 1
    some (.value .unicodeEncode { halves with place := front + halves.place }.message)
  | none =>
    if t.contains (Char.ofNat 0) then some (.value .value "embedded null byte") else none

/-- Nothing is known of the directories above. -/
private def isAbove (location : Path) : Bool :=
  location.all (· == Path.above) || location == ["/".toText]

def node? (fs : Files) (location : Path) : Option FileNode :=
  if isAbove location then some .directory else fs.nodes.lookup location

private def enter (fs : Files) (location : Path) (name : Text) : Except PathFault Path :=
  match fs.node? location with
  | none => .error .missing
  | some (.file _) => .error .notDirectory
  | some .directory =>
    if name == Path.above then
      .ok (if location == ["/".toText] then location
        else if isAbove location then location ++ [Path.above] else location.dropLast)
    else if maxNameSize < Path.byteSize name then .error .tooLong
    else .ok (location ++ [name])

def locate (fs : Files) (p : Path) : Except PathFault Path :=
  if maxPathSize ≤ (if fs.root.isEmpty then 0 else fs.rootSize + 1) + Path.byteSize p.toText then
    .error .tooLong
  else p.foldlM fs.enter []

def find (fs : Files) (p : Path) : Except PathFault FileNode :=
  match fs.locate p with
  | .error e => .error e
  | .ok location =>
    match fs.node? location with
    | some node => .ok node
    | none => .error .missing

/-- Something stands at the end of a path.  Only a path that is too long cannot be asked. -/
def «exists» (fs : Files) (p : Path) : Except Fault Bool :=
  if (fs.unusable? p).isSome then .ok false
  else match fs.find p with
    | .ok _ => .ok true
    | .error .tooLong => .error (fs.faultOf p .tooLong)
    | .error _ => .ok false

def read (fs : Files) (p : Path) : Except Fault ByteArray :=
  match fs.unusable? p with
  | some fault => .error fault
  | none =>
    match fs.find p with
    | .ok (.file content) => .ok content
    | .ok .directory => .error (fs.isDirectory p)
    | .error e => .error (fs.faultOf p e)

private def set (fs : Files) (location : Path) (n : FileNode) : Files :=
  if (fs.nodes.lookup location).isSome then
    { fs with nodes := fs.nodes.map fun e => if e.1 == location then (location, n) else e }
  else { fs with nodes := fs.nodes ++ [(location, n)] }

private def remove (fs : Files) (location : Path) : Files :=
  { fs with nodes := fs.nodes.filter fun e => !(e.1 == location) }

private def makeDirectory (fs : Files) (p : Path) : Except PathFault (Option Files) :=
  match fs.locate p with
  | .error e => .error e
  | .ok location =>
    match fs.node? location with
    | some .directory => .ok (some fs)
    | some (.file _) => .ok none
    | none => .ok (some (fs.set location .directory))

/-- Makes the directory at the end of the first `n` names of a path, and before it those that
it lacks. -/
private def makeUpTo (fs : Files) (p : Path) : Nat → Except Fault Files
  | 0 => .ok fs
  | n + 1 =>
    let q := p.take (n + 1)
    let made : Except PathFault (Option Files) → Except Fault Files
      | .ok (some fs) => .ok fs
      | .ok none => .error (fs.alreadyExists q)
      | .error e => .error (fs.faultOf q e)
    match fs.makeDirectory q with
    | .error .missing =>
      match makeUpTo fs p n with
      | .error fault => .error fault
      | .ok fs => made (fs.makeDirectory q)
    | result => made result

def makeDirectories (fs : Files) (p : Path) : Except Fault Files :=
  match fs.unusable? p with
  | some fault => .error fault
  | none => fs.makeUpTo p p.length

def write (fs : Files) (p : Path) (content : ByteArray) : Except Fault Files :=
  match fs.unusable? p with
  | some fault => .error fault
  | none =>
    match fs.locate p with
    | .error e => .error (fs.faultOf p e)
    | .ok location =>
      match fs.node? location with
      | some .directory => .error (fs.isDirectory p)
      | some (.file _) => .ok (fs.set location (.file content))
      | none =>
        match fs.node? location.dropLast with
        | some .directory => .ok (fs.set location (.file content))
        | _ => .error (fs.missing p)

/-- A directory stands where a file is to be put. -/
def inTheWay (source target : Text) : Fault :=
  .system .isDirectory
    ("[Errno 21] Is a directory: " ++ Text.quote source ++ " -> " ++ Text.quote target)

/-- Puts a file in the place of another, all at once. -/
def replace (fs : Files) (source target : Path) : Except Fault Files :=
  match fs.read source with
  | .error e => .error e
  | .ok content =>
    if target.getLast? = some Path.above then
      .error (.system .general ("[Errno 16] Device or resource busy: " ++ fs.quotePath source
        ++ " -> " ++ fs.quotePath target))
    else match fs.locate source, fs.locate target with
      | .ok old, .ok new =>
        match fs.node? new with
        | some .directory => .error (inTheWay (fs.shown source) (fs.shown target))
        | _ => .ok ((fs.remove old).set new (.file content))
      | .error e, _ | _, .error e => .error (fs.faultOf source e)

def names (fs : Files) (p : Path) : List Text :=
  let location := (fs.locate p).toOption.getD p
  ((fs.nodes.filter fun e => e.1.length = location.length + 1 && location.isPrefixOf e.1).map
    fun e => e.1.getLast?.getD []).mergeSort Text.codesLe

end Files
end ThermalPrint
