import ThermalPrint.Service.Form
import ThermalPrint.Service.Http
import ThermalPrint.Work.Office

/-
The service: one session with a printer, reached over the web.  Connecting and printing
are accepted as jobs for later; disconnecting waits until it is done.
-/

namespace ThermalPrint
namespace Service

/-- Requests with more bytes than this are not read, if nothing else is set. -/
def defaultContentLimit : Int := 16 * 1024 * 1024

end Service

/-- What the service needs from outside, and its settings. -/
structure Service (m : Type → Type) (τ : Type) where
  office : Office m τ
  session : SessionId := 0
  limits : Service.Limits := {}
  contentLimit : Int := Service.defaultContentLimit
  /-- The document of the configuration as it is now, if there is one. -/
  document : m (Except Fault (Option Json))
  /-- Waits until a job has ended, or for long enough. -/
  await : JobId → m Unit

namespace Service

def statusMembers (s : Session.Status) : List (Text × Json) :=
  [("state", .str s.state.word), ("reason", Json.ofText? s.state.reason?),
    ("address", Json.ofText? s.address), ("busy", .bool s.busy),
    ("last_message", Json.ofText? s.lastMessage),
    ("last_error_kind", Json.ofText? (s.lastErrorKind.map fun kind => kind.word))]

def officeMembers (s : Backlog.Status) : List (Text × Json) :=
  [("worker_started", .bool s.staffed), ("workers_alive", .int s.lanesAlive),
    ("control_alive", .bool s.controlAlive), ("queue_size", .int s.queueSize)]

namespace HttpAnswer

def refusal (status : Nat) (message kind : Text) : HttpAnswer :=
  { status, body := some (.obj [("error", .str message), ("kind", .str kind)]) }

def notJson : HttpAnswer := refusal 415 "Expected application/json body" "bad_request"

/-- The first complaint is the one that is reported. -/
def ofComplaints (complaints : List Complaint) : HttpAnswer :=
  refusal 400 ((complaints.head?.map fun c => c.fault.message).getD []) "validation_error"

def unstaffed : HttpAnswer :=
  refusal 503 "Background worker is not running" "worker_unavailable"

/-- The errors that come from the state of the printer and not from the request. -/
def isConflict (kind : ErrorKind) : Bool :=
  [.jobInProgress, .alreadyConnecting, .alreadyConnected, .notConnected, .disconnectError].any
    kind.isA

def ofError (e : PrintError) : HttpAnswer :=
  refusal (if isConflict e.kind then 409 else 400) e.message e.kind.word

def accepted (id : JobId) : HttpAnswer :=
  let place := (Route.job id).path
  { status := 202
    location := some place
    body := some (.obj [("id", .str id), ("status", .str JobStatus.queued.word),
      ("links", .obj [("self", .str place), ("connection", .str Route.connection.path)])]) }

/-- What became of a job that has been asked for.  Faults that nothing is prepared for have no
answer. -/
def ofJob : Except Fault JobId → Except Fault HttpAnswer
  | .ok id => .ok (accepted id)
  | .error (.print e) => .ok (ofError e)
  | .error f => .error f

end HttpAnswer

variable {m : Type → Type} [Monad m] {τ : Type}

private def desk (service : Service m τ) : Desk m τ := service.office.desk service.session

/-- The data in a request, or what is answered without them. -/
def dataOf (service : Service m τ) (r : HttpRequest) : Except Fault (HttpAnswer ⊕ Json) :=
  if !r.isJson then .ok (.inl .notJson)
  else if service.contentLimit < r.body.length then .ok (.inl { status := 413 })
  else r.json.map fun v => .inr (if v.isEmpty then .obj [] else v)

/-- What a request asks for, read from its data.  Nothing is asked of an office where
nobody is at work. -/
def accept {α : Type} (service : Service m τ) (r : HttpRequest) (read : Json → Checked α)
    (act : α → ExceptT Fault m HttpAnswer) : ExceptT Fault m HttpAnswer := do
  match ← service.dataOf r with
  | .inl answer => return answer
  | .inr v =>
    match read v with
    | .error complaints => return .ofComplaints complaints
    | .ok x => if (← service.office.get).staffed then act x else return .unstaffed

/-- Connecting where it would fail at once is refused. -/
def connect (service : Service m τ) (address : Text) : ExceptT Fault m HttpAnswer := do
  match (← service.desk.get).connection.dial address with
  | .error e => return .ofError e
  | .ok _ =>
    HttpAnswer.ofJob (← ExceptT.lift (service.office.enqueueConnect service.session address))

def print (service : Service m τ) (form : PrintForm) : ExceptT Fault m HttpAnswer := do
  HttpAnswer.ofJob (← ExceptT.lift (service.office.enqueuePrint service.session form.toRequest))

/-- Disconnects, and tells how the session is afterwards. -/
def disconnect (service : Service m τ) : ExceptT Fault m HttpAnswer := do
  if !(← service.office.get).staffed then return .unstaffed
  let id ← service.office.enqueueDisconnect service.session
  service.await id
  let record := (((← service.office.get).registry.get? id).getD [])
  let members : List (Text × Json) :=
    statusMembers (← service.desk.get).status ++ [("job".toText, .str id)]
  let shown (name : Text) : Json := (record.lookup name).getD .null
  let tells (name word : Text) : Bool := match shown name with
    | .str said => said == word
    | _ => false
  if tells "status" JobStatus.error.word then
    let status := if tells "error_kind" ErrorKind.disconnectError.word then 409 else 400
    let trouble : List (Text × Json) := [("error", shown "error"), ("kind", shown "error_kind")]
    return { status, body := some (.obj (members ++ trouble)) }
  else if tells "status" JobStatus.success.word then
    return { status := 200, body := some (.obj members) }
  else return { status := 202, body := some (.obj members) }

/-- Whether there is a configuration.  One that is out of order counts as missing. -/
def configPresent : Except Fault (Option Json) → Except Fault Bool
  | .ok v => .ok v.isSome
  | .error f => if f.isSystem || f.word == ValueFault.json.word then .ok false else .error f

/-- How the service is: the work, the configuration and the printer, of which the first
that is not in order gives the reason. -/
def health (service : Service m τ) : ExceptT Fault m HttpAnswer := do
  let work := (← service.office.get).status
  let session ← service.desk.get
  let document ← ExceptT.lift service.document
  let present ← configPresent document
  let state := session.connection.state
  let reason : Option Text :=
    if !work.staffed || work.lanesAlive = 0 then some "worker_not_running"
    else if !document.isOk then some "config_invalid"
    else state.reason?.map fun r => "printer_" ++ r
  let condition : List (Text × Json) :=
    [("status", .str (if reason.isSome then "degraded" else "ok"))]
  let trouble : List (Text × Json) := (reason.map fun r => ("reason".toText, .str r)).toList
  let rest : List (Text × Json) :=
    [("config_present", .bool present),
      ("connection", .obj [("state", .str state.word), ("reason", Json.ofText? state.reason?)]),
      ("busy", .bool session.busy)]
  return { status := 200, body := some (.obj (condition ++ officeMembers work ++ trouble ++ rest)) }

def job (service : Service m τ) (id : JobId) : ExceptT Fault m HttpAnswer := do
  match (← service.office.get).registry.get? id with
  | some record => return { status := 200, body := some (.obj record) }
  | none => return .refusal 404 "not_found" "not_found"

def serve (service : Service m τ) (r : HttpRequest) (route : Route) (method : Text) :
    ExceptT Fault m HttpAnswer := do
  match method, route with
  | "GET", .connection =>
    return { status := 200, body := some (.obj (statusMembers (← service.desk.get).status)) }
  | "POST", .connection => service.accept r readAddress service.connect
  | "DELETE", .connection => service.disconnect
  | "GET", .jobs =>
    let records ← (← service.office.get).registry.toList
    return { status := 200, body := some (.obj [("jobs", .arr (records.map Json.obj))]) }
  | "POST", .jobs => service.accept r (PrintForm.read service.limits) service.print
  | "GET", .job id => service.job id
  | "GET", .health => service.health
  | _, _ => return { status := 200 }

/-- Answers a request.  Paths with doubled slashes are sent to where they lead without. -/
def handle (service : Service m τ) (r : HttpRequest) : ExceptT Fault m HttpAnswer := do
  let method := r.method.map CodePoint.toUpper
  let path ← r.path
  let allowed (route : Route) : Bool := route.methods.contains method
  match Route.ofPath path with
  | some route =>
    if !allowed route then return { status := 405 }
    else if method == "HEAD" then
      return { ← service.serve r route "GET" with body := none }
    else service.serve r route method
  | none =>
    match Route.ofPath (Route.mergeSlashes path) with
    | some route => return { status := if allowed route then 308 else 405 }
    | none => return { status := 404 }

end Service
end ThermalPrint
