import ThermalPrint.Render
import ThermalPrint.Session.Connection

/-
A session with one printer: its parameters, its connection, the job in flight and what
is said of it to whoever watches.

The commands for a printer are one stream with a state, so only one job may be in flight
at a time.  A job holds the session's slot from its reservation until it lets it go.  It
carries a token, by which it can be cancelled between its stages; the end of the
connection cancels the job in flight.
-/

namespace ThermalPrint

/-- Sessions are told apart by number, and so are tokens. -/
abbrev SessionId := Nat
abbrev TokenId := Nat

/-- The slot of a session, held by one job. -/
structure Reservation where
  session : SessionId
  serial : Nat
  token : TokenId
deriving DecidableEq, Repr

/-- A session whose transports are of a type `τ`.  A lock guards its slot. -/
structure Session (τ : Type) where
  id : SessionId := 0
  config : SessionConfig := .standard
  connection : Connection τ := {}
  locked : Bool := false
  active : Option Reservation := none
  lastMessage : Option Text := none
  lastErrorKind : Option ErrorKind := none
  /-- Of each reservation that there has been, in order, whether it has been given back. -/
  returned : List Bool := []

namespace Session

variable {τ : Type}

/-- A job is queued or running. -/
def busy (s : Session τ) : Bool := s.active.isSome

/-- Takes the slot. -/
def reserve (s : Session τ) (token : TokenId) : Except PrintError (Reservation × Session τ) :=
  if s.locked then
    .error (.of .jobInProgress "another print job is in progress on this printer")
  else
    let r : Reservation := ⟨s.id, s.returned.length, token⟩
    .ok (r, { s with locked := true, active := some r, returned := s.returned ++ [false] })

/-- Gives the slot back.  That is done once: a reservation that has been given back before
changes nothing. -/
def release (s : Session τ) (r : Reservation) : Session τ :=
  if s.returned[r.serial]? = some false then
    { s with
      locked := false
      active := if s.active = some r then none else s.active
      returned := s.returned.set r.serial true }
  else s

/-- What is known of a session from outside. -/
structure Status where
  state : ConnectionState
  address : Option Text
  busy : Bool
  lastMessage : Option Text
  lastErrorKind : Option ErrorKind
deriving Repr

def status (s : Session τ) : Status :=
  ⟨s.connection.state, s.connection.address, s.busy, s.lastMessage, s.lastErrorKind⟩

end Session

def cancellation : Fault := .print (.of .jobCancelled "job was cancelled")

def disconnection : Fault :=
  .print (.of .connectionLost "printer disconnected while the job was in flight")

/-- Something to be printed, and what is said when it has been. -/
structure PrintOrder where
  source : PrintSource
  options : PrintOptions := {}
  success : Text := "Print Success"

/-- What a session needs from outside: a place where it is kept, tokens, transports, and
somebody to tell of its messages. -/
structure Desk (m : Type → Type) (τ : Type) where
  get : m (Session τ)
  set : Session τ → m Unit
  newToken : m TokenId
  /-- The fault that the bearer of a token is to fail with, once it is cancelled. -/
  cancelled : TokenId → m (Option Fault)
  /-- Cancels a token with a fault; one that is cancelled already keeps its own. -/
  cancel : TokenId → Fault → m Unit
  openAt : Text → m (Except Fault τ)
  send : τ → List UInt8 → m (Option Fault)
  close : τ → m (Option Fault)
  announce : Text → m Unit
  /-- Gives back the slot of another session. -/
  releaseElsewhere : Reservation → m Unit

namespace Desk

variable {m : Type → Type} [Monad m] {τ : Type}

def modify (desk : Desk m τ) (f : Session τ → Session τ) : m Unit := do
  desk.set (f (← desk.get))

/-- The connection that is over takes the job in flight with it. -/
def stateChanged (desk : Desk m τ) (state : ConnectionState) : m Unit := do
  match state.isOver, (← desk.get).active with
  | true, some r => desk.cancel r.token disconnection
  | _, _ => pure ()

def line (desk : Desk m τ) : Line m τ where
  get := do return (← desk.get).connection
  set c := desk.modify fun s => { s with connection := c }
  openAt := desk.openAt
  send := desk.send
  close := desk.close
  tell := desk.stateChanged

/-- Makes a message the last one and tells it. -/
def publish (desk : Desk m τ) (message : Text) (error : Option PrintError := none) : m Unit := do
  desk.modify fun s =>
    { s with lastMessage := some message, lastErrorKind := error.map (·.kind) }
  desk.announce message

/-- The result of something, with an error of printing in it published behind a few words. -/
def report {α : Type} (desk : Desk m τ) (words : Text) (result : Except Fault α) :
    m Unit :=
  match result with
  | .error (.print e) => desk.publish (words ++ ": " ++ e.message) (some e)
  | _ => pure ()

def connect (desk : Desk m τ) (address : Text) : m (Except Fault Unit) := do
  let result ← desk.line.connect address
  desk.report "Connection failed" result
  if result.isOk then desk.publish ("Connected to " ++ address)
  return result

def disconnect (desk : Desk m τ) : m (Except Fault Unit) := do
  let result ← desk.line.disconnect
  desk.report "Error disconnecting" result
  if result.isOk then desk.publish "Disconnected"
  return result

/-- Takes the slot, under a token that is given or a new one. -/
def reserve (desk : Desk m τ) (token : Option TokenId := none) : m (Except Fault Reservation) := do
  let token ← match token with
    | some id => pure id
    | none => desk.newToken
  match (← desk.get).reserve token with
  | .error e => return .error (.print e)
  | .ok (r, s) =>
    desk.set s
    return .ok r

/-- Gives a slot back to the session that it belongs to. -/
def release (desk : Desk m τ) (r : Reservation) : m Unit := do
  if r.session = (← desk.get).id then desk.modify (·.release r) else desk.releaseElsewhere r

def render (desk : Desk m τ) (order : PrintOrder) : m (Except Fault (List UInt8)) := do
  return Render.bytes (← desk.get).config order.source order.options

/-- Renders an order and writes it in one go, unless its token has been cancelled.  The
fault of the first stage that fails is the fault of all; a token that was cancelled while
the connection ended goes before the missing connection. -/
def perform (desk : Desk m τ) (r : Reservation) (order : PrintOrder) : m (Except Fault Nat) := do
  match ← desk.render order with
  | .error f => return .error f
  | .ok bytes =>
    match ← desk.cancelled r.token with
    | some f => return .error f
    | none =>
      match ← desk.line.write bytes with
      | .ok () => return .ok bytes.length
      | .error f =>
        if f.isA .notConnected then return .error ((← desk.cancelled r.token).getD f)
        else return .error f

/-- The reservation that is held already, or else a new one with a token. -/
def take (desk : Desk m τ) (held : Option Reservation) (token : Option TokenId) :
    m (Except Fault Reservation) :=
  match held with
  | some r => pure (.ok r)
  | none => desk.reserve token

/-- Prints an order under a reservation, or else under a new one with a token, and gives
the count of bytes written. -/
def submit (desk : Desk m τ) (order : PrintOrder) (held : Option Reservation := none)
    (token : Option TokenId := none) : m (Except Fault Nat) := do
  match ← desk.take held token with
  | .error f => return .error f
  | .ok r =>
    let result ← desk.perform r order
    desk.report "Print Failed" result
    desk.release r
    if result.isOk then desk.publish order.success
    return result

end Desk
end ThermalPrint
