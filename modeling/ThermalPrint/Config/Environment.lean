import ThermalPrint.Files
import ThermalPrint.Json.Number

/-
Settings from the environment.
-/

namespace ThermalPrint

abbrev Environment := List (Text × Text)

namespace Environment

def ioTimeoutName : Text := "RECEIPTPRINTER_IO_TIMEOUT"
def configPathName : Text := "RECEIPTPRINTER_CONFIG_PATH"
def logLevelName : Text := "RECEIPTPRINTER_LOG_LEVEL"
def jsonLogsName : Text := "RECEIPTPRINTER_JSON_LOGS"
def contentLimitName : Text := "RECEIPTPRINTER_MAX_CONTENT_LENGTH"

def get? (env : Environment) (name : Text) : Option Text := env.lookup name

/-- A name or value as it is kept.  It may hold bytes that are no text, but no zero. -/
private def kept (v : Json) : Except Fault Text :=
  match v with
  | .str s =>
    match Utf8.stray? s with
    | some halves => .error (.value .unicodeEncode halves.message)
    | none => .ok s
  | v => .error (.value .wrongType s!"str expected, not {v.typeName}")

def define (env : Environment) (name : Text) (value : Json) : Except Fault Environment := do
  let name ← kept (.str name)
  let value ← kept value
  if (name ++ value).contains (Char.ofNat 0) then
    .error (.value .value "embedded null byte")
  else if name.contains '=' then .error (.value .value "illegal environment variable name")
  else if name.isEmpty then .error (.system .general "[Errno 22] Invalid argument")
  else .ok ((name, value) :: env)

/-- What is read of a variable, or of a default value in its place.  Where that is no number
the default stands as it is. -/
def number (env : Environment) (read : Json → Except Fault Json) (name : Text)
    (default_ : Json) : Except Fault Json :=
  match read (((env.get? name).map Json.str).getD default_) with
  | .error (.value .value _) | .error (.value .wrongType _) => .ok default_
  | result => result

def int (env : Environment) (name : Text) (default_ : Int) : Int :=
  match env.get? name with
  | none => default_
  | some s => ((Json.str s).toInt).toOption.getD default_

def float (env : Environment) (name : Text) (default_ : Float) : Float :=
  match env.get? name with
  | none => default_
  | some s => (Decimal.readFloat? s).getD default_

def defaultIoTimeout : Float := 10.0

def ioTimeout (env : Environment) : Float := env.float ioTimeoutName defaultIoTimeout

/-- The slashes that a path keeps at its front: none, one, or exactly two. -/
private def rootOf (s : Text) : Text :=
  match (s.takeWhile (· = .char '/')).length with
  | 0 => ""
  | 2 => "//"
  | _ => "/"

private def below (directory : Text) (names : List Text) : Text :=
  rootOf directory ++ "/".toText.intercalate (Path.namesOf directory ++ names)

private def configNames : List Text := ["receiptprinter", "config.json"]

/-- The home directory.  A name that starts with a tilde leads to another one, and is none
itself. -/
def home (env : Environment) : Except Fault Text :=
  let given := (env.get? "HOME").getD "/"
  match (given.reverse.dropWhile (· = .char '/')).reverse with
  | [] => .ok "/"
  | '~' :: _ => .error (.value .runtime "Could not determine home directory.")
  | cut => .ok cut

/-- Where the configuration is kept: below the directory for configurations if one is
named, else below the home directory. -/
def defaultConfigPath (env : Environment) : Except Fault Text :=
  match (env.get? "XDG_CONFIG_HOME").getD [] with
  | [] => env.home.map fun directory => below directory (".config" :: configNames)
  | directory => .ok (below directory configNames)

/-- The path that is named, or the default one, which there has to be in any case. -/
def configPath (env : Environment) : Except Fault Text :=
  env.defaultConfigPath.map fun path => (env.get? configPathName).getD path

end Environment
end ThermalPrint
