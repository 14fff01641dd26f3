import ThermalPrint.CommandLine.Program
import ThermalPrint.Config.Environment
import ThermalPrint.Transport.Device

/-
The program as it runs: files, standard input and output, and printers at serial ports.
-/

namespace ThermalPrint
namespace Main

abbrev Port := IO.FS.Handle

/-- A text for the outside, where halves of surrogate pairs have no place. -/
def plain (t : Text) : String := String.ofList (t.map (CodePoint.charOr '\uFFFD'))

def faultOf (path : Text) : IO.Error → Fault
  | .noFileOrDirectory .. =>
    .system .fileMissing ("[Errno 2] No such file or directory: " ++ Text.quote path)
  | .permissionDenied .. =>
    .system .permission ("[Errno 13] Permission denied: " ++ Text.quote path)
  | e => .system .general (toString e)

def attempt {α : Type} (path : Text) (action : IO α) : IO (Except Fault α) := do
  try
    return .ok (← action)
  catch e => return .error (faultOf path e)

def faultIn (path : Text) (action : IO Unit) : IO (Option Fault) := do
  match ← attempt path action with
  | .ok () => return none
  | .error f => return some f

def devices : Devices IO Port where
  openNetwork _ _ _ := return .error (.bare "no network")
  openSerial port _ _ := do
    match ← attempt port (IO.FS.Handle.mk (plain port) .readWrite) with
    | .ok h => return .ok h
    | .error f => return .error (.cause f)
  socket := return none
  limit _ _ := return ()
  connect _ _ _ := return none
  send h piece := faultIn "port" (h.write piece.toByteArray)
  flush h := faultIn "port" h.flush
  shutdown _ := return none
  close _ := return ()

def watched : List Text :=
  [Environment.configPathName, Environment.ioTimeoutName, "XDG_CONFIG_HOME", "HOME"]

def environment : IO Environment :=
  watched.filterMapM fun name => do
    return (← IO.getEnv (plain name)).map fun v => (name, v.toText)

def makeDesk (env : Environment) : IO (Desk IO (Transport Port)) := do
  let session ← IO.mkRef ({} : Session (Transport Port))
  let tokens ← IO.mkRef (#[] : Array (Option Fault))
  return {
    get := session.get
    set := session.set
    newToken := tokens.modifyGet fun t => (t.size, t.push none)
    cancelled := fun id => do return ((← tokens.get)[id]?).getD none
    cancel := fun id f => tokens.modify fun t =>
      match t[id]? with
      | some none => t.set! id (some f)
      | _ => t
    openAt := fun address => Transport.openAt devices (some address) (some env.ioTimeout)
    send := fun t bytes => t.write devices bytes
    close := fun t => t.close devices
    announce := fun _ => return ()
    releaseElsewhere := fun _ => return () }

def console (env : Environment) : CommandLine.Console IO where
  input := do return (← (← IO.getStdin).readToEnd).toText
  contentOf path := attempt path (IO.FS.readBinFile (plain path))
  store path bytes := attempt path (IO.FS.writeBinFile (plain path) bytes.toByteArray)
  say text := IO.println (plain text)
  complain text := IO.eprintln (plain text)
  document := do
    match env.configPath with
    | .error f => return .error f
    | .ok path =>
      match ← attempt path (IO.FS.readBinFile (plain path)) with
      | .ok content => return Document.ofContent content
      | .error (.system .fileMissing _) => return .ok none
      | .error f => return .error f

def usage : String :=
  "usage: thermalprint [-h] [--demo DEMO] [--image HANDLE=PATH] [--cut] [-o OUTPUT] [--hex] "
    ++ "[--send ADDRESS] [markup]"

def run (arguments : List String) : IO UInt32 := do
  match CommandLine.Options.read (arguments.map String.toText) with
  | .error .help =>
    IO.println usage
    return 0
  | .error .usage =>
    IO.eprintln usage
    return 2
  | .ok options =>
    let env ← environment
    match ← CommandLine.run (console env) (← makeDesk env) options with
    | .ok (.code n) => return UInt32.ofNat n
    | .ok (.text s) =>
      IO.eprintln (plain s)
      return 1
    | .error f =>
      IO.eprintln s!"{f.qualifiedName}: {plain f.message}"
      return 1

end Main
end ThermalPrint

def main (arguments : List String) : IO UInt32 := ThermalPrint.Main.run arguments
