import ThermalPrint.Fault
import ThermalPrint.Text.Case
import ThermalPrint.Text.Digit
import ThermalPrint.Text.Quoted

/-
Where a printer is: a Bluetooth device and a channel, a serial port and its speed, or
a host and a port.  Reading an address opens nothing; what is read stays within the
bounds that the devices have.
-/

namespace ThermalPrint

inductive Address
  | rfcomm (mac : Text) (channel : Nat)
  | serial (port : Text) (baud : Nat)
  | tcp (host : Text) (port : Nat)
deriving DecidableEq, Repr

inductive AddressFault
  | channelOutOfRange (channel : Nat)
  | noBaudRate (baud : Nat)
  | noHostName (host : Text)
  | portOutOfRange (port : Nat)
  | unsupported (address : Option Text)
deriving DecidableEq, Repr

namespace Address

def kind : Address → String
  | rfcomm .. => "rfcomm"
  | serial .. => "serial"
  | tcp .. => "tcp"

def target : Address → Text
  | rfcomm mac _ => mac
  | serial port _ => port
  | tcp host _ => host

/-- The channel, the speed or the port. -/
def option : Address → Nat
  | rfcomm _ channel => channel
  | serial _ baud => baud
  | tcp _ port => port

def defaultChannel : Nat := 1
def maxChannel : Nat := 30
def defaultBaudRate : Nat := 9600
def defaultPort : Nat := 9100
def maxPort : Nat := 65535
def maxHostLength : Nat := 253
def maxLabelLength : Nat := 63

end Address

namespace AddressFault

def reason : AddressFault → Text
  | channelOutOfRange n => s!"RFCOMM channel {n} out of range 1-{Address.maxChannel}"
  | noBaudRate n => s!"invalid baud rate {n}"
  | noHostName host => "invalid host name " ++ Text.quote (host.take 64)
  | portOutOfRange n => s!"TCP port {n} out of range 1-{Address.maxPort}"
  | unsupported (some address) => "unsupported address " ++ Text.quote address
  | unsupported none => "unsupported address None"

def toPrintError (f : AddressFault) : PrintError := .unreachable f.reason

end AddressFault

namespace Address

/-- A number of one to `limit` digits, of any script. -/
def number? (limit : Nat) (t : Text) : Option Nat :=
  if t.isEmpty || limit < t.length then none
  else t.foldl (fun n c => n.bind fun n => (Text.digitValue? c).map (10 * n + ·)) (some 0)

def isMac (t : Text) : Bool :=
  t.length = 17 && t.zipIdx.all fun (c, i) =>
    if i % 3 = 2 then c = ':' else (Text.hexValue? c).isSome

/-- A device with an optional channel behind a slash. -/
def readRfcomm? (t : Text) : Option (Except AddressFault Address) :=
  let mac := t.take 17
  let channel := match t.drop 17 with
    | [] => some defaultChannel
    | '/' :: digits => number? 3 digits
    | _ => none
  match isMac mac, channel with
  | true, some n =>
    some (if 1 ≤ n ∧ n ≤ maxChannel then .ok (rfcomm (Text.upper mac) n)
      else .error (.channelOutOfRange n))
  | _, _ => none

/-- A port that is named as such, with an optional speed behind an at sign. -/
def readSerial? (t : Text) : Option (Except AddressFault Address) :=
  let label := "serial:".toText
  if label.isPrefixOf t then
    let body := t.drop label.length
    let port := body.takeWhile (· ≠ .char '@')
    let baud := match body.drop port.length with
      | [] => some defaultBaudRate
      | _ :: digits => number? 7 digits
    match port, baud with
    | [], _ => none
    | _, none => none
    | port, some n => some (if 0 < n then .ok (serial port n) else .error (.noBaudRate n))
  else none

/-- A port that is known by its name alone. -/
def readPort? (t : Text) : Option (Except AddressFault Address) :=
  let numbered := match t with
    | c :: o :: m :: digits =>
      [c, o, m].map CodePoint.toUpper = "COM" && !digits.isEmpty && digits.all Text.isDigitChar
    | _ => false
  if "/dev/".toText.isPrefixOf t || numbered then some (.ok (serial t defaultBaudRate)) else none

def isLabel (t : Text) : Bool :=
  !t.isEmpty && decide (t.length ≤ maxLabelLength)
    && t.all (fun c => c.is Char.isAlphanum || c = '-') && t.head? != some (.char '-')
    && t.getLast? != some (.char '-')

/-- A host name of labels; dots at its end do not count. -/
def isHostName (t : Text) : Bool :=
  decide (t.length ≤ maxHostLength)
    && (Text.splitOn '.' (t.reverse.dropWhile (· = .char '.')).reverse).all isLabel

def isHostChar (c : CodePoint) : Bool :=
  !(c = ':' || c = '/' || c = '[' || c = ']' || Text.isBlankChar c)

/-- A host with a port, or one behind the name of the protocol. -/
def readTcp? (t : Text) : Option (Except AddressFault Address) :=
  let protocol := "tcp://".toText
  let named := protocol.isPrefixOf t
  let body := if named then t.drop protocol.length else t
  let host := body.takeWhile isHostChar
  let port := match body.drop host.length with
    | [] => if named then some defaultPort else none
    | ':' :: digits => number? 5 digits
    | _ => none
  match host, port with
  | [], _ => none
  | _, none => none
  | host, some n =>
    some (if !isHostName host then .error (.noHostName host)
      else if 1 ≤ n ∧ n ≤ maxPort then .ok (tcp host n)
      else .error (.portOutOfRange n))

/-- Reads an address; white space around it does not count. -/
def read (address : Option Text) : Except AddressFault Address :=
  let t := Text.trim (address.getD [])
  match readRfcomm? t <|> readSerial? t <|> readPort? t <|> readTcp? t with
  | some result => result
  | none => .error (.unsupported address)

end Address
end ThermalPrint
