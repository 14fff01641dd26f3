import ThermalPrint.Fault
import ThermalPrint.Json.Encoded
import ThermalPrint.Text.Blank
import ThermalPrint.Text.Hex
import ThermalPrint.Text.Utf8
import ThermalPrint.Url.Basic

/-
Requests and answers of the web, as far as the service looks at them.
-/

namespace ThermalPrint
namespace Service

/-- A request.  The target is a path with perhaps a query behind it. -/
structure HttpRequest where
  method : Text
  target : Text
  contentType : Option Text := none
  body : List UInt8 := []

/-- An answer; one whose content is no JSON has none here. -/
structure HttpAnswer where
  status : Nat
  body : Option Json := none
  location : Option Text := none

/-- The bytes of a path with those resolved that are written as two digits behind a
percent sign. -/
def resolveEscapes : List UInt8 → List UInt8
  | 0x25 :: a :: b :: rest =>
    match Text.hexValue? (Char.ofNat a.toNat), Text.hexValue? (Char.ofNat b.toNat) with
    | some h, some l => UInt8.ofNat (16 * h + l) :: resolveEscapes rest
    | _, _ => 0x25 :: resolveEscapes (a :: b :: rest)
  | b :: rest => b :: resolveEscapes rest
  | [] => []

/-- What the path in a target stands for.  A target may be a whole address.  What is left of
it without scheme and host is looked at as a target again, since a path that begins with two
slashes names a host. -/
def pathInfo (target : Text) : Except UrlFault Text := do
  let u ← Url.split target
  let rest : Text := u.path ++ (if u.query.isEmpty then [] else .char '?' :: u.query)
  let path ← (← Url.split (← Url.split rest).path).toAscii
  let host : Url :=
    { scheme := if u.scheme.isEmpty then "http" else u.scheme
      authority := if u.authority.isEmpty then "localhost" else u.authority
      path := ['/'] }
  discard <| Url.split (← (← Url.split host.join).toAscii).join
  match Utf8.unpaired? rest with
  | some fault => throw (.unpaired fault)
  | none =>
    return Utf8.decodeAny (resolveEscapes (path.join.map fun c => UInt8.ofNat c.toNat))

def rooted (path : Text) : Text := '/' :: path.dropWhile (· = .char '/')

def pathOf (target : Text) : Except Fault Text :=
  match pathInfo target with
  | .error fault => .error fault.toFault
  | .ok path => .ok (rooted path)

namespace HttpRequest

/-- The path that a route is looked for by; an empty one leads nowhere. -/
def path (r : HttpRequest) : Except Fault Text :=
  match pathInfo r.target with
  | .error fault => .error fault.toFault
  | .ok path => .ok (if path.isEmpty then [] else rooted path)

/-- A request has a target that is an address, and no line breaks in its header. -/
def check (r : HttpRequest) : Except Fault Unit := do
  discard r.path
  if (r.contentType.getD []).any fun c => c = '\r' || c = '\n' then
    .error (.value .value "Header values must not contain newline characters.")

def mediaType (r : HttpRequest) : Text :=
  let t := (r.contentType.getD []).takeWhile (· ≠ .char ';')
  (Text.trim t).map CodePoint.toLower

/-- The content is declared as JSON, or as a format that is written in JSON. -/
def isJson (r : HttpRequest) : Bool :=
  let t := r.mediaType
  t == "application/json"
    || ("application/".toText.isPrefixOf t && "+json".toText.isSuffixOf t)

/-- The value in the content.  Content that cannot be read counts as null, unless it nests
too deeply. -/
def json (r : HttpRequest) : Except Fault Json :=
  match Json.textOf? r.body with
  | none => .ok .null
  | some t =>
    match Json.readPlain t with
    | .ok v => .ok v
    | .error (.tooDeep object) =>
      .error (.value .recursion ((Json.ReadFault.tooDeep object).message t))
    | .error _ => .ok .null

end HttpRequest

/-- What the service has under a path. -/
inductive Route
  | connection
  | jobs
  | job (id : Text)
  | health
deriving DecidableEq, Repr

namespace Route

def ofNames : List Text → Option Route
  | [a, v, name] =>
    if isApi a v && name = "connection".toText then some connection
    else if isApi a v && name = "jobs".toText then some jobs
    else none
  | [a, v, name, id] =>
    if isApi a v && name = "jobs".toText && !id.isEmpty then some (job id)
    else none
  | [name] => if name = "healthz".toText then some health else none
  | _ => none
where
  isApi (a v : Text) : Bool := a = "api".toText && v = "v1".toText

/-- The route of a path; a slash at its end does not count. -/
def ofPath (path : Text) : Option Route :=
  match Text.splitOn '/' path with
  | [] :: names => ofNames (if names.getLast? = some [] then names.dropLast else names)
  | _ => none

/-- A path with one slash for every two that stand together. -/
def mergeSlashes : Text → Text
  | '/' :: '/' :: rest => '/' :: mergeSlashes rest
  | c :: rest => c :: mergeSlashes rest
  | [] => []

def methods : Route → List Text
  | connection => ["GET", "HEAD", "POST", "DELETE", "OPTIONS"]
  | jobs => ["GET", "HEAD", "POST", "OPTIONS"]
  | job _ | health => ["GET", "HEAD", "OPTIONS"]

def path : Route → Text
  | connection => "/api/v1/connection"
  | jobs => "/api/v1/jobs"
  | job id => "/api/v1/jobs/" ++ id
  | health => "/healthz"

end Route
end Service
end ThermalPrint
