import ThermalPrint.Transport.Address

/-
Byte streams to printers.  A stream is opened at an address and takes bytes in pieces
of a limited size; what goes wrong underneath is reported as an error of printing.

Devices are reached through a record of their operations in any monad, so that the
same text drives real devices and models of them.
-/

namespace ThermalPrint

/-- Why a network or serial printer could not be opened: the fault underneath, or no
more than a text. -/
inductive OpenFault
  | cause (fault : Fault)
  | bare (text : Text)
deriving DecidableEq, Repr

def OpenFault.message : OpenFault → Text
  | cause fault => fault.message
  | bare text => "Device not found (" ++ text ++ ")"

/-- What can be done with devices of a type `δ`.  Seconds that are missing stand for no
limit. -/
structure Devices (m : Type → Type) (δ : Type) where
  /-- Opens a printer on the network. -/
  openNetwork : (host : Text) → (port : Nat) → (seconds : Option Float) → m (Except OpenFault δ)
  /-- Opens a printer at a serial port. -/
  openSerial : (port : Text) → (baud : Nat) → (seconds : Option Float) → m (Except OpenFault δ)
  /-- A Bluetooth socket that is not connected yet; none where there is no Bluetooth. -/
  socket : m (Option δ)
  /-- Limits the time that each operation of a socket may take. -/
  limit : δ → (seconds : Option Float) → m Unit
  /-- Connects a socket to a device. -/
  connect : δ → (mac : Text) → (channel : Nat) → m (Option Fault)
  /-- Hands one piece to a device. -/
  send : δ → List UInt8 → m (Option Fault)
  /-- Waits until everything has left, on devices that can be asked to. -/
  flush : δ → m (Option Fault)
  /-- Ends a socket's connection in both directions. -/
  shutdown : δ → m (Option Fault)
  close : δ → m Unit

/-- How a transport treats its device: as a printer with a driver of its own, or as a
bare socket. -/
inductive Medium
  | printer
  | socket
deriving DecidableEq, Repr

/-- An open byte stream. -/
structure Transport (δ : Type) where
  device : δ
  medium : Medium
  label : Text
  writeTimeout : Option Float := none
  pieceSize : Int := 512

namespace Transport

/-- The bytes in pieces of one size, of which the last may be shorter. -/
def pieces (size : Nat) : List UInt8 → List (List UInt8)
  | [] => []
  | b :: rest =>
    if size = 0 then []
    else (b :: rest.take (size - 1)) :: pieces size (rest.drop (size - 1))
termination_by bytes => bytes.length
decreasing_by simp only [List.length_drop, List.length_cons]; omega

variable {m : Type → Type} [Monad m] {δ : Type}

/-- Hands over pieces in order up to the first that is refused. -/
def sendAll (send : List UInt8 → m (Option Fault)) : List (List UInt8) → m (Option Fault)
  | [] => pure none
  | piece :: rest => do
    match ← send piece with
    | some fault => pure (some fault)
    | none => sendAll send rest

def writeFault (t : Transport δ) (fault : Fault) : Fault :=
  let timedOut : Fault := .print (.of .timeout ("write to " ++ t.label ++ " timed out"))
  match fault, t.medium with
  | .system .timedOut _, _ => timedOut
  | .system .serialTimeout _, .printer => timedOut
  | .system _ message, _ => .print (.of .ioError ("write to " ++ t.label ++ " failed: " ++ message))
  | fault, _ => fault

/-- Writes bytes; a printer is asked to finish behind the last piece.  Pieces of a
negative size hold nothing, and a size of zero is refused. -/
def write (devices : Devices m δ) (t : Transport δ) (bytes : List UInt8) : m (Option Fault) := do
  if t.pieceSize = 0 then return some (.value .value "range() arg 3 must not be zero")
  match ← sendAll (devices.send t.device) (pieces t.pieceSize.toNat bytes) with
  | some fault => return some (t.writeFault fault)
  | none =>
    match t.medium with
    | .socket => return none
    | .printer => return (← devices.flush t.device).map t.writeFault

/-- Closes a transport.  That the other side has gone already does not matter. -/
def close (devices : Devices m δ) (t : Transport δ) : m (Option Fault) := do
  match t.medium with
  | .printer => devices.close t.device; return none
  | .socket =>
    match ← devices.shutdown t.device with
    | none | some (.system ..) => devices.close t.device; return none
    | some fault => return some fault

def openNetwork (devices : Devices m δ) (host : Text) (port : Nat) (seconds : Option Float) :
    m (Except Fault (Transport δ)) := do
  let place : Text := host ++ s!":{port}"
  match ← devices.openNetwork host port seconds with
  | .ok device => return .ok { device, medium := .printer, label := "tcp://" ++ place }
  | .error (.cause (.system .timedOut _)) =>
    return .error (.print (.of .timeout ("connecting to " ++ place ++ " timed out")))
  | .error fault => return .error (.print (.unreachable (place ++ ": " ++ fault.message)))

/-- A printer at a serial port, which limits writing as well as opening. -/
def openSerial (devices : Devices m δ) (port : Text) (baud : Nat) (seconds : Option Float) :
    m (Except Fault (Transport δ)) := do
  match ← devices.openSerial port baud seconds with
  | .ok device =>
    return .ok
      { device, medium := .printer, label := "serial:" ++ port, writeTimeout := seconds }
  | .error fault => return .error (.print (.unreachable (port ++ ": " ++ fault.message)))

/-- A Bluetooth device.  The socket is closed again where connecting fails. -/
def openRfcomm (devices : Devices m δ) (mac : Text) (channel : Nat) (seconds : Option Float) :
    m (Except Fault (Transport δ)) := do
  match ← devices.socket with
  | none =>
    return .error (.print
      (.unreachable "Bluetooth RFCOMM sockets are not available on this platform"))
  | some device =>
    devices.limit device seconds
    match ← devices.connect device mac channel with
    | none =>
      return .ok
        { device, medium := .socket, label := "rfcomm://" ++ mac ++ s!"/{channel}" }
    | some (.system .timedOut _) =>
      devices.close device
      return .error (.print (.of .timeout ("connecting to " ++ mac ++ " timed out")))
    | some (.system _ message) =>
      devices.close device
      return .error (.print (.unreachable (mac ++ ": " ++ message)))
    | some fault => return .error fault

/-- Opens the transport for an address. -/
def openAt (devices : Devices m δ) (address : Option Text) (seconds : Option Float) :
    m (Except Fault (Transport δ)) := do
  match Address.read address with
  | .error fault => return .error (.print fault.toPrintError)
  | .ok (.rfcomm mac channel) => openRfcomm devices mac channel seconds
  | .ok (.serial port baud) => openSerial devices port baud seconds
  | .ok (.tcp host port) => openNetwork devices host port seconds

end Transport
end ThermalPrint
