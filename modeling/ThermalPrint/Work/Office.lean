import ThermalPrint.Image.Reference
import ThermalPrint.Session.Basic
import ThermalPrint.Work.Lanes
import ThermalPrint.Work.Registry
import ThermalPrint.Work.Request

/-
Jobs for later: they are registered, wait in queues, and are done one after another.
Whatever becomes of a job ends up in its record.
-/

namespace ThermalPrint

inductive JobAction
  | connect (address : Text)
  | disconnect
  | print (request : PrintRequest) (held : Reservation)
  /-- Something known of which a part is missing. -/
  | incomplete (part : Text)
  | unknown

/-- A job that waits.  One without an id has no record. -/
structure WaitingJob where
  id : Option JobId
  session : SessionId
  action : JobAction

/-- The records and the queues of an office, and whether somebody is at work. -/
structure Backlog where
  registry : Registry := {}
  lanes : Lanes WaitingJob := {}
  staffed : Bool := false

namespace Backlog

def pushLane (b : Backlog) (id : JobId) (session : SessionId) (action : JobAction) :
    Backlog :=
  let (lane, lanes) := b.lanes.laneOf session
  { b with lanes := lanes.push (.lane lane) ⟨some id, session, action⟩ }

/-- Registers a job and puts it into a queue. -/
def enqueue (b : Backlog) (type : Text) (known : List (Text × Json))
    (push : Backlog → JobId → Backlog) : Except Fault JobId × Backlog :=
  match b.registry.create (.str type) known with
  | (.ok id, registry) => (.ok id, push { b with registry } id)
  | (.error f, registry) => (.error f, { b with registry })

def enqueueConnect (b : Backlog) (session : SessionId) (address : Text) :
    Except Fault JobId × Backlog :=
  b.enqueue "connect" [("address", .str address)] fun b id =>
    b.pushLane id session (.connect address)

/-- A job that disconnects never waits behind one that it is to cancel. -/
def enqueueDisconnect (b : Backlog) (session : SessionId) : Except Fault JobId × Backlog :=
  b.enqueue "disconnect" [] fun b id =>
    { b with lanes := b.lanes.push .control ⟨some id, session, .disconnect⟩ }

def enqueuePrint (b : Backlog) (session : SessionId) (request : PrintRequest)
    (held : Reservation) : Except Fault JobId × Backlog :=
  b.enqueue "print" request.describe fun b id => b.pushLane id session (.print request held)

def note (b : Backlog) (id : Option JobId) (changes : List (Text × Json)) : Backlog :=
  { b with registry := b.registry.update id changes }

structure Status where
  staffed : Bool
  lanesAlive : Nat
  controlAlive : Bool
  queueSize : Nat
deriving DecidableEq, Repr

def status (b : Backlog) : Status :=
  ⟨b.staffed, if b.staffed then b.lanes.lanes.length else 0, b.staffed, b.lanes.sizes.sum⟩

end Backlog

/-- What doing jobs needs from outside: a place for the backlog, the sessions, and a way
to load images. -/
structure Office (m : Type → Type) (τ : Type) where
  get : m Backlog
  set : Backlog → m Unit
  desk : SessionId → Desk m τ
  load : (reference : Text) → m (Except Fault Picture)

namespace Office

variable {m : Type → Type} [Monad m] {τ : Type}

def change {α : Type} (office : Office m τ) (f : Backlog → α × Backlog) : m α := do
  let (result, b) := f (← office.get)
  office.set b
  return result

def enqueueConnect (office : Office m τ) (session : SessionId) (address : Text) :
    m (Except Fault JobId) :=
  office.change (·.enqueueConnect session address)

def enqueueDisconnect (office : Office m τ) (session : SessionId) : m (Except Fault JobId) :=
  office.change (·.enqueueDisconnect session)

/-- The session's slot is taken before anything else is done. -/
def enqueuePrint (office : Office m τ) (session : SessionId) (request : PrintRequest) :
    m (Except Fault JobId) := do
  match ← (office.desk session).reserve with
  | .error f => return .error f
  | .ok held => office.change (·.enqueuePrint session request held)

/-- What becomes of an image that was to be loaded.  One that cannot be had is left out
where images are optional. -/
def loadedOrLeftOut (imageOptional : Bool) : Except Fault Picture → Except Fault (Option Bitmap)
  | .ok picture => .ok (some (.picture picture))
  | .error f => if f.isA .imageUnavailable && imageOptional then .ok none else .error f

/-- The images for the handles of a request. -/
def loadImages (office : Office m τ) (imageOptional : Bool) :
    List (Text × Text) → m (Except Fault (List (Text × Option Bitmap)))
  | [] => return .ok []
  | (handle, reference) :: rest => do
    match loadedOrLeftOut imageOptional (← office.load reference) with
    | .error f => return .error f
    | .ok bitmap =>
      match ← office.loadImages imageOptional rest with
      | .error f => return .error f
      | .ok images => return .ok ((handle, bitmap) :: images)

def order (office : Office m τ) (request : PrintRequest) : m (Except Fault PrintOrder) := do
  match request.markup with
  | some markup =>
    match ← office.loadImages request.imageOptional request.images with
    | .error f => return .error f
    | .ok images =>
      return .ok
        { source := .markup markup
          options := { images, imageOptional := request.imageOptional, cut := request.cut } }
  | none =>
    let reference := request.image.getD []
    if reference.isEmpty then return .error (.print ReferenceFault.noSource.toPrintError)
    match ← office.load reference with
    | .error f => return .error f
    | .ok picture =>
      return .ok { source := .image (.picture picture), options := { cut := request.cut } }

/-- Prints what a request names, in the slot that is held for it. -/
def fulfil (office : Office m τ) (session : SessionId) (request : PrintRequest)
    (held : Reservation) : m (Except Fault Nat) := do
  match ← office.order request with
  | .error f => return .error f
  | .ok order => (office.desk session).submit order (some held)

def stateAfter (office : Office m τ) (session : SessionId) (result : Except Fault Unit) :
    m (Except Fault JobOutcome) := do
  match result with
  | .error f => return .error f
  | .ok () => return .ok (.state (← (office.desk session).get).connection.state.word)

/-- Does what a job is to do.  The slot that is held for it is given back in any case. -/
def attempt (office : Office m τ) (job : WaitingJob) : m (Except Fault JobOutcome) := do
  let desk := office.desk job.session
  match job.action with
  | .connect address => office.stateAfter job.session (← desk.connect address)
  | .disconnect => office.stateAfter job.session (← desk.disconnect)
  | .print request held =>
    let result ← office.fulfil job.session request held
    desk.release held
    return result.map .written
  | .incomplete part => return .error (.value .key (Text.quote part))
  | .unknown => return .ok .unknownType

def perform (office : Office m τ) (job : WaitingJob) : m JobOutcome := do
  return .ofResult (← office.attempt job)

def record (office : Office m τ) (id : Option JobId) (changes : List (Text × Json)) : m Unit := do
  office.set ((← office.get).note id changes)

/-- Does a job, and notes in its record how it ends and what the session said last. -/
def process (office : Office m τ) (job : WaitingJob) : m Unit := do
  office.record job.id [("status", .str JobStatus.running.word)]
  let outcome ← office.perform job
  let said := (← (office.desk job.session).get).lastMessage
  office.record job.id (("message", Json.ofText? said) :: outcome.members)

/-- Does the job at the front of a queue, if there is one. -/
def runNext (office : Office m τ) (queue : QueueName) : m (Option WaitingJob) := do
  let b ← office.get
  match b.lanes.pop? queue with
  | none => return none
  | some (job, lanes) =>
    office.set { b with lanes }
    office.process job
    return some job

end Office
end ThermalPrint
