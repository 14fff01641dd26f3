import ThermalPrint.Config.Environment
import ThermalPrint.Log.Template
import ThermalPrint.Text.Case

/-
How much is logged and in which form, and log records as objects: time, level, source and
message, and the request and the job that they belong to.
-/

namespace ThermalPrint

namespace Log

/-- The levels that have names, the most severe first. -/
def named : List (String × Int) :=
  [("CRITICAL", 50), ("FATAL", 50), ("ERROR", 40), ("WARNING", 30), ("WARN", 30), ("INFO", 20),
   ("DEBUG", 10), ("NOTSET", 0)]

def info : Int := 20
def warning : Int := 30

def levelName (level : Int) : String :=
  match named.find? fun n => n.2 == level with
  | some (name, _) => name
  | none => s!"Level {level}"

/-- A level as it is asked for: by number or by name. -/
inductive Request
  | number (n : Int)
  | name (s : Text)

def Request.ofJson : Json → Except Fault (Option Request)
  | .null => .ok none
  | .str s => .ok (some (.name s))
  | .int n => .ok (some (.number n))
  | .bool b => .ok (some (.number (if b then 1 else 0)))
  | v => .error (.value .missingAttribute s!"'{v.typeName}' object has no attribute 'strip'")

/-- The level that is asked for, or else set in the environment.  A name that is none
gives the level for information. -/
def resolve (env : Environment) (request : Option Request) : Int :=
  let request := request.getD (.name ((env.get? Environment.logLevelName).getD "INFO"))
  match request with
  | .number n => n
  | .name s =>
    let sought := Text.upper (Text.trim s)
    ((named.find? fun n => n.1.toText == sought).map (·.2)).getD info

def asObjects (env : Environment) : Bool :=
  let flag := Text.lower ((env.get? Environment.jsonLogsName).getD "false")
  flag == "1" || flag == "true" || flag == "yes"

/-- The parts of the program that log more than is wanted; they are heard from the level
for warnings on. -/
def noisy : List String := ["escpos", "urllib3", "PIL"]

structure Setup where
  level : Int
  handlers : Nat
  objects : Bool
  noisyLevels : List Int
deriving Repr

def configure (env : Environment) (request : Option Request) : Setup :=
  let level := resolve env request
  ⟨level, 1, asObjects env, noisy.map fun _ => max level warning⟩

structure Date where
  year : Int
  month : Nat
  day : Nat
deriving DecidableEq, Repr

def dateOfDay (days : Int) : Date :=
  -- counted in eras of 400 years that begin with a first of March
  let z := days + 719468
  let era := z.fdiv 146097
  let dayOfEra := (z - era * 146097).toNat
  let yearOfEra := (dayOfEra - dayOfEra / 1460 + dayOfEra / 36524 - dayOfEra / 146096) / 365
  let dayOfYear := dayOfEra - (365 * yearOfEra + yearOfEra / 4 - yearOfEra / 100)
  let m := (5 * dayOfYear + 2) / 153
  let month := if m < 10 then m + 3 else m - 9
  ⟨(yearOfEra : Int) + era * 400 + (if month ≤ 2 then 1 else 0), month,
    dayOfYear - (153 * m + 2) / 5 + 1⟩

private def padded (width n : Nat) : Text :=
  let ds := Decimal.digits n
  List.replicate (width - ds.length) (.char '0') ++ ds

def firstYear : Int := -2147481748
def lastYear : Int := 2147485547
def lastWrittenYear : Int := 2147483647

private def outOfRange : Fault := .value .overflow "timestamp out of range for platform time_t"

/-- The whole seconds of a time, which has to fit into 64 bits. -/
def wholeSeconds (seconds : Float) : Except Fault Int :=
  if seconds.isNaN then .error (.value .value "Invalid value NaN (not a number)")
  else match Decimal.truncate? seconds.floor with
    | none => .error outOfRange
    | some n => if n < -2 ^ 63 ∨ 2 ^ 63 ≤ n then .error outOfRange else .ok n

/-- A time in seconds since the start of 1970, to the millisecond. -/
def timeText (seconds : Float) : Except Fault Text := do
  let whole ← wholeSeconds seconds
  let millis := ((Decimal.truncate? (seconds * 1000.0)).getD 0).emod 1000
  let day := whole.fdiv 86400
  let second := (whole - day * 86400).toNat
  let date := dateOfDay day
  if date.year < firstYear ∨ lastYear < date.year then
    throw (.system .general "[Errno 75] Value too large for defined data type")
  if lastWrittenYear < date.year then
    throw (.value .overflow "signed integer is greater than maximum")
  return Decimal.ofInt date.year ++ "-" ++ padded 2 date.month ++ "-" ++ padded 2 date.day
    ++ " " ++ padded 2 (second / 3600) ++ ":" ++ padded 2 (second / 60 % 60)
    ++ ":" ++ padded 2 (second % 60) ++ "," ++ padded 3 millis.toNat

structure Serving where
  id : Option Text
  path : Text

structure Record where
  created : Float
  level : Int
  source : Text
  template : Text
  arguments : List Json := []
  requestId : Option Json := none
  jobId : Option Json := none
  path : Option Json := none
  fault : Option Fault := none

namespace Record

def absent : Json := .str "-"

/-- The record with the request, its path and the job filled in.  Outside of a request
the first two are absent whatever the record says. -/
def withContext (r : Record) (serving : Option Serving) : Record :=
  let (id, path) := match serving with
    | some s => ((s.id.map Json.str).getD absent, Json.str s.path)
    | none => (absent, absent)
  { r with requestId := some id, path := some path, jobId := some (r.jobId.getD absent) }

private def faultText (f : Fault) : Text :=
  if f.message.isEmpty then f.qualifiedName else f.qualifiedName ++ ": " ++ f.message

def line (r : Record) : Except Fault Text := do
  let time ← timeText r.created
  let message ← fill r.template r.arguments
  let path := r.path.getD absent
  let hasPath := match path with
    | .str s => s != "-"
    | _ => true
  let always : List (Text × Json) :=
    [("ts", .str time), ("level", .str (levelName r.level)),
      ("logger", .str r.source),
      ("msg", .str message),
      ("request_id", r.requestId.getD absent), ("job_id", r.jobId.getD absent)]
  let place : List (Text × Json) := if hasPath then [("path", path)] else []
  let fault : List (Text × Json) := match r.fault with
    | some f => [("exc", .str (faultText f))]
    | none => []
  return (Json.obj (always ++ place ++ fault)).text { ascii := false }

end Record

end Log

end ThermalPrint
