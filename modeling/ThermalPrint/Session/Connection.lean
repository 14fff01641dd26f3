import ThermalPrint.Fault

/-
The connection to one printer and its states.

    idle --connect--> connecting --opened--> connected
                      connecting --refused--> failed
    connected --disconnect, or a write that fails--> idle
    connected --a write that takes too long--> failed
    failed --disconnect--> idle, failed --connect--> connecting

The transitions are functions on `Connection`.  The operations that drive a printer
are written over a record of what they need from outside, and read the connection
anew after each step outside, since anything may have happened to it meanwhile.
-/

namespace ThermalPrint

inductive ConnectionState
  | idle
  | connecting
  | connected
  | failed (reason : Text)
deriving DecidableEq, Repr

namespace ConnectionState

def word : ConnectionState → String
  | idle => "idle"
  | connecting => "connecting"
  | connected => "connected"
  | failed _ => "failed"

def reason? : ConnectionState → Option Text
  | failed reason => some reason
  | _ => none

/-- There is no transport and none is being opened. -/
def isOver : ConnectionState → Bool
  | idle | failed _ => true
  | _ => false

end ConnectionState

/-- A connection that holds transports of a type `τ`.  The generation counts how often a
transport has been released, so that a write can tell whether it still has the
connection it began on. -/
structure Connection (τ : Type) where
  state : ConnectionState := .idle
  transport : Option τ := none
  address : Option Text := none
  generation : Nat := 0
deriving Repr

/-- What opening a transport came to when it failed: the reason that is kept, and the
fault that is reported. -/
structure OpeningFailure where
  reason : Text
  fault : Fault
deriving DecidableEq, Repr

def timeoutReason : Text := "timeout"

/-- Errors of connecting are reported as they are, and anything else as a printer that
cannot be reached. -/
def OpeningFailure.of (f : Fault) : OpeningFailure :=
  let other : OpeningFailure :=
    let reason : Text := if f.message.isEmpty then f.className else f.message
    ⟨reason, .print (.unreachable reason)⟩
  match f with
  | .print e =>
    if e.kind.isA .timeout then ⟨timeoutReason, f⟩
    else if e.kind.isA .deviceUnreachable then ⟨e.reason?.getD [], f⟩
    else if e.kind.isA .connectError then ⟨e.message, f⟩
    else other
  | _ => other

/-- How a write that failed ends: what is reported, and the state that the connection is
dropped to, if it is. -/
structure WriteFailure where
  fault : Fault
  dropTo : Option ConnectionState
deriving DecidableEq, Repr

namespace Connection

variable {τ : Type}

private def addressText (c : Connection τ) : Text := c.address.getD "None"

/-- Begins to connect. -/
def dial (c : Connection τ) (address : Text) : Except PrintError (Connection τ) :=
  match c.state with
  | .connecting => .error (.of .alreadyConnecting ("already connecting to " ++ c.addressText))
  | .connected => .error (.of .alreadyConnected ("already connected to " ++ c.addressText))
  | _ => .ok { c with state := .connecting, address := some address }

/-- Ends connecting with a transport. -/
def hold (c : Connection τ) (t : τ) : Connection τ :=
  { c with state := .connected, transport := some t }

/-- Ends connecting without one. -/
def fail (c : Connection τ) (reason : Text) : Connection τ := { c with state := .failed reason }

def release (c : Connection τ) (state : ConnectionState) : Connection τ :=
  { c with state, transport := none, generation := c.generation + 1 }

/-- Disconnecting while a transport is being opened is refused.  It is done already where
nothing is connected. -/
def hangUp (c : Connection τ) : Except PrintError (Option (Connection τ)) :=
  match c.state with
  | .connecting =>
    .error (.of .disconnectError "cannot disconnect while a connection attempt is in progress")
  | .idle => .ok none
  | _ => .ok (some (c.release .idle))

/-- The transport to write to. -/
def claim (c : Connection τ) : Except PrintError τ :=
  match c.state, c.transport with
  | .connected, some t => .ok t
  | state, _ => .error (.of .notConnected s!"printer is {state.word}")

/-- What becomes of a connection whose write, begun in a generation, has failed.  Faults
that do not come from the stream leave it as it is. -/
def writeFailure (c : Connection τ) (generation : Nat) (f : Fault) : WriteFailure :=
  if !(f.isA .ioError || f.isSystem) then ⟨f, none⟩
  else if generation ≠ c.generation then
    ⟨.print (.of .connectionLost "connection was closed during the write"), none⟩
  else if f.isA .timeout then ⟨f, some (.failed timeoutReason)⟩
  else ⟨if f.isA .ioError then f else .print (.of .ioError f.message), some .idle⟩

end Connection

/-- What a connection needs from outside: a place where it is kept, a way to open
transports, to write to them and to close them, and somebody to tell of its states. -/
structure Line (m : Type → Type) (τ : Type) where
  get : m (Connection τ)
  set : Connection τ → m Unit
  openAt : Text → m (Except Fault τ)
  send : τ → List UInt8 → m (Option Fault)
  close : τ → m (Option Fault)
  tell : ConnectionState → m Unit

namespace Line

variable {m : Type → Type} [Monad m] {τ : Type}

/-- Opens a transport to an address. -/
def connect (line : Line m τ) (address : Text) : m (Except Fault Unit) := do
  match (← line.get).dial address with
  | .error e => return .error (.print e)
  | .ok c =>
    line.set c
    line.tell .connecting
    match ← line.openAt address with
    | .ok t =>
      line.set ((← line.get).hold t)
      line.tell .connected
      return .ok ()
    | .error f =>
      let failure := OpeningFailure.of f
      line.set ((← line.get).fail failure.reason)
      line.tell (.failed failure.reason)
      return .error failure.fault

/-- Closes the transport that a connection held.  Faults of closing do not matter. -/
def closeOf (line : Line m τ) (c : Connection τ) : m Unit :=
  match c.transport with
  | some t => do
    let _ ← line.close t
  | none => pure ()

/-- Lets the transport go and ends up idle. -/
def disconnect (line : Line m τ) : m (Except Fault Unit) := do
  let c ← line.get
  match c.hangUp with
  | .error e => return .error (.print e)
  | .ok none => return .ok ()
  | .ok (some released) =>
    line.set released
    line.closeOf c
    line.tell .idle
    return .ok ()

/-- Writes bytes; a write that fails ends the connection. -/
def write (line : Line m τ) (bytes : List UInt8) : m (Except Fault Unit) := do
  let c ← line.get
  match c.claim with
  | .error e => return .error (.print e)
  | .ok t =>
    match ← line.send t bytes with
    | none => return .ok ()
    | some f =>
      let now ← line.get
      let failure := now.writeFailure c.generation f
      match failure.dropTo with
      | none => return .error failure.fault
      | some state =>
        line.set (now.release state)
        line.closeOf now
        line.tell state
        return .error failure.fault

end Line
end ThermalPrint
