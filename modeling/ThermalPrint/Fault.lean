import ThermalPrint.Text.CodePoint

/-
How printing fails.  Every failure that the library reports on purpose is a
`PrintError` of some kind; the other faults come from devices, from the operating
system, or from values that fit no operation.
-/

namespace ThermalPrint

/-- The kinds of failure, from the general to the particular: `parent?` orders them. -/
inductive ErrorKind
  | printError
  | connectError
  | alreadyConnecting
  | alreadyConnected
  | deviceUnreachable
  | disconnectError
  | notConnected
  | ioError
  | timeout
  | connectionLost
  | invalidImage
  | imageUnavailable
  | markupError
  | unknownTag
  | unterminatedTag
  | encodeError
  | widthMismatch
  | unsupportedSymbology
  | invalidBarcodeData
  | jobInProgress
  | jobCancelled
deriving DecidableEq, Repr

namespace ErrorKind

/-- The stable name of a kind, as status messages, job records and answers carry it. -/
def word : ErrorKind → String
  | printError => "print_error"
  | connectError => "connect_error"
  | alreadyConnecting => "already_connecting"
  | alreadyConnected => "already_connected"
  | deviceUnreachable => "device_unreachable"
  | disconnectError => "disconnect_error"
  | notConnected => "not_connected"
  | ioError => "io_error"
  | timeout => "timeout"
  | connectionLost => "connection_lost"
  | invalidImage => "invalid_image"
  | imageUnavailable => "image_unavailable"
  | markupError => "markup_error"
  | unknownTag => "unknown_tag"
  | unterminatedTag => "unterminated_tag"
  | encodeError => "encode_error"
  | widthMismatch => "width_mismatch"
  | unsupportedSymbology => "unsupported_symbology"
  | invalidBarcodeData => "invalid_barcode_data"
  | jobInProgress => "job_in_progress"
  | jobCancelled => "job_cancelled"

def className : ErrorKind → String
  | printError => "PrintError"
  | connectError => "ConnectError"
  | alreadyConnecting => "AlreadyConnecting"
  | alreadyConnected => "AlreadyConnected"
  | deviceUnreachable => "DeviceUnreachable"
  | disconnectError => "DisconnectError"
  | notConnected => "NotConnected"
  | ioError => "IoError"
  | timeout => "Timeout"
  | connectionLost => "ConnectionLost"
  | invalidImage => "InvalidImage"
  | imageUnavailable => "ImageUnavailable"
  | markupError => "MarkupError"
  | unknownTag => "UnknownTag"
  | unterminatedTag => "UnterminatedTag"
  | encodeError => "EncodeError"
  | widthMismatch => "WidthMismatch"
  | unsupportedSymbology => "UnsupportedSymbology"
  | invalidBarcodeData => "InvalidBarcodeData"
  | jobInProgress => "JobInProgress"
  | jobCancelled => "JobCancelled"

def all : List ErrorKind :=
  [printError, connectError, alreadyConnecting, alreadyConnected, deviceUnreachable,
    disconnectError, notConnected, ioError, timeout, connectionLost, invalidImage,
    imageUnavailable, markupError, unknownTag, unterminatedTag, encodeError, widthMismatch,
    unsupportedSymbology, invalidBarcodeData, jobInProgress, jobCancelled]

def ofClassName? (name : String) : Option ErrorKind := all.find? fun kind => kind.className == name

def parent? : ErrorKind → Option ErrorKind
  | printError => none
  | alreadyConnecting | alreadyConnected | deviceUnreachable => some connectError
  | timeout | connectionLost => some ioError
  | imageUnavailable => some invalidImage
  | unknownTag | unterminatedTag => some markupError
  | widthMismatch | unsupportedSymbology | invalidBarcodeData => some encodeError
  | _ => some printError

/-- A kind and all that it is a case of, the most particular first. -/
def lineage (kind : ErrorKind) : List ErrorKind :=
  match kind.parent? with
  | none => [kind]
  | some parent =>
    match parent.parent? with
    | none => [kind, parent]
    | some root => [kind, parent, root]

def isA (kind general : ErrorKind) : Bool := kind.lineage.contains general

def phrase (kind : ErrorKind) : String :=
  String.ofList (kind.word.toList.map fun c => if c = '_' then ' ' else c)

end ErrorKind

/-- What some errors carry beside their message. -/
inductive ErrorDetail
  | none
  | reason (text : Text)
  | tag (name : Text)
  | symbology (name : Text)
deriving DecidableEq, Repr

structure PrintError where
  kind : ErrorKind
  message : Text
  detail : ErrorDetail := .none
deriving DecidableEq, Repr

namespace PrintError

/-- An error with a message of its own, or with its kind in words where the message
is missing or empty. -/
def ofMessage (kind : ErrorKind) (message : Option Text) : PrintError :=
  match message with
  | some text => if text.isEmpty then ⟨kind, kind.phrase, .none⟩ else ⟨kind, text, .none⟩
  | none => ⟨kind, kind.phrase, .none⟩

def of (kind : ErrorKind) (message : Text) : PrintError := ofMessage kind (some message)

def unreachable (reason : Text) : PrintError :=
  ⟨.deviceUnreachable, "device unreachable: " ++ reason, .reason reason⟩

def atTag (kind : ErrorKind) (tag : Text) (message : Option Text) : PrintError :=
  match message with
  | some text =>
    if text.isEmpty then ⟨kind, kind.phrase ++ ": " ++ tag, .tag tag⟩ else ⟨kind, text, .tag tag⟩
  | none => ⟨kind, kind.phrase ++ ": " ++ tag, .tag tag⟩

def unsupported (symbology : Text) : PrintError :=
  ⟨.unsupportedSymbology, "unsupported symbology: " ++ symbology, .symbology symbology⟩

def reason? (e : PrintError) : Option Text :=
  match e.detail with
  | .reason text => some text
  | _ => none

def tag? (e : PrintError) : Option Text :=
  match e.detail with
  | .tag name => some name
  | _ => none

def symbology? (e : PrintError) : Option Text :=
  match e.detail with
  | .symbology name => some name
  | _ => none

end PrintError

/-- Faults of devices and of the operating system. -/
inductive SystemFault
  | general
  | connectionRefused
  | brokenPipe
  | permission
  | timedOut
  | serial
  | serialTimeout
  | fileExists
  | fileMissing
  | isDirectory
  | notDirectory
  | unidentifiedImage
deriving DecidableEq, Repr

def SystemFault.word : SystemFault → String
  | general => "OSError"
  | connectionRefused => "ConnectionRefusedError"
  | brokenPipe => "BrokenPipeError"
  | permission => "PermissionError"
  | timedOut => "TimeoutError"
  | serial => "SerialException"
  | serialTimeout => "SerialTimeoutException"
  | fileExists => "FileExistsError"
  | fileMissing => "FileNotFoundError"
  | isDirectory => "IsADirectoryError"
  | notDirectory => "NotADirectoryError"
  | unidentifiedImage => "UnidentifiedImageError"

def SystemFault.all : List SystemFault :=
  [general, connectionRefused, brokenPipe, permission, timedOut, serial, serialTimeout,
    fileExists, fileMissing, isDirectory, notDirectory, unidentifiedImage]

def SystemFault.ofWord? (w : String) : Option SystemFault := all.find? fun kind => kind.word == w

def SystemFault.ofNumber (n : Int) : SystemFault :=
  if n = 2 then fileMissing
  else if n = 1 ∨ n = 13 then permission
  else if n = 17 then fileExists
  else if n = 20 then notDirectory
  else if n = 21 then isDirectory
  else if n = 32 ∨ n = 108 then brokenPipe
  else if n = 110 then timedOut
  else if n = 111 then connectionRefused
  else general

/-- Faults of values that fit no operation. -/
inductive ValueFault
  | runtime
  | recursion
  | overflow
  | unicode
  | unicodeDecode
  | unicodeEncode
  | value
  | key
  | index
  | wrongType
  | lookup
  | missingAttribute
  | json
  | division
  | memory
  | malformed
  | unpacking
  | decompressionBomb
deriving DecidableEq, Repr

def ValueFault.word : ValueFault → String
  | runtime => "RuntimeError"
  | recursion => "RecursionError"
  | overflow => "OverflowError"
  | unicode => "UnicodeError"
  | unicodeDecode => "UnicodeDecodeError"
  | unicodeEncode => "UnicodeEncodeError"
  | value => "ValueError"
  | key => "KeyError"
  | index => "IndexError"
  | wrongType => "TypeError"
  | lookup => "LookupError"
  | missingAttribute => "AttributeError"
  | json => "JSONDecodeError"
  | division => "ZeroDivisionError"
  | memory => "MemoryError"
  | malformed => "SyntaxError"
  | unpacking => "error"
  | decompressionBomb => "DecompressionBombError"

def ValueFault.all : List ValueFault :=
  [runtime, recursion, overflow, unicode, unicodeDecode, unicodeEncode, value, key, index,
    wrongType, lookup, missingAttribute, json, division, memory, malformed, unpacking,
    decompressionBomb]

/-- The fault is one of a value as such; faults of texts and of documents are. -/
def ValueFault.isValue : ValueFault → Bool
  | value | unicode | unicodeDecode | unicodeEncode | json => true
  | _ => false

def ValueFault.ofWord? (w : String) : Option ValueFault := all.find? fun kind => kind.word == w

/-- Anything that ends an operation early. -/
inductive Fault
  | print (error : PrintError)
  | system (kind : SystemFault) (message : Text)
  | value (kind : ValueFault) (message : Text)
deriving DecidableEq, Repr

namespace Fault

def message : Fault → Text
  | print e => e.message
  | system _ m => m
  | value _ m => m

def word : Fault → String
  | print e => e.kind.word
  | system kind _ => kind.word
  | value kind _ => kind.word

def className : Fault → String
  | print e => e.kind.className
  | system kind _ => kind.word
  | value kind _ => kind.word

def qualifiedName : Fault → String
  | print e => "receipt_printer.core.errors." ++ e.kind.className
  | system .serial _ => "serial.serialutil.SerialException"
  | system .serialTimeout _ => "serial.serialutil.SerialTimeoutException"
  | value .json _ => "json.decoder.JSONDecodeError"
  | f => f.className

def isPrintError : Fault → Bool
  | print _ => true
  | _ => false

def isSystem : Fault → Bool
  | system .. => true
  | _ => false

def isValue : Fault → Bool
  | value kind _ => kind.isValue
  | _ => false

/-- The fault is an error of a kind, or of a case of it. -/
def isA (general : ErrorKind) : Fault → Bool
  | print e => e.kind.isA general
  | _ => false

end Fault
end ThermalPrint
