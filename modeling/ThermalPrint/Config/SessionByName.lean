import ThermalPrint.Config.Session
import ThermalPrint.Json.Arguments

/-
The parameters of a printer given by their names.  They are taken as they are: a text that
could be read as a number is no number.
-/

namespace ThermalPrint
namespace SessionConfig

def signature : Signature :=
  { name := "PrinterSessionConfig.__init__"
    optional := ["dots_per_line", "paper_width_mm", "chars_per_line", "printer_dpi", "charset"] }

private def above (given : List (String × Json)) (name : String) (default_ : Json) :
    Except Fault Json :=
  match (given.lookup name).getD default_ with
  | .int n => if n ≤ 0 then refuse name else .ok (.int n)
  | .bool b => if b then .ok (.bool b) else refuse name
  | .float x => if x ≤ 0 then refuse name else .ok (.float x)
  | v =>
    .error (.value .wrongType s!"'<=' not supported between instances of '{v.typeName}' and 'int'")

private def whole (v : Json) : Int := v.toInt.toOption.getD 0

def ofNames (given : List (String × Json)) : Except Fault SessionConfig := do
  let given ← signature.bind ⟨[], given⟩
  let dots ← above given "dots_per_line" (.int standard.dotsPerLine)
  let chars ← above given "chars_per_line" (.int standard.charsPerLine)
  let paper ← above given "paper_width_mm" (.float standard.paperWidthMm)
  let charset := match given.lookup "charset" with
    | some (.str s) => s
    | _ => standard.charset
  ofValues (whole dots) (whole chars) (← paper.toFloat)
    (whole ((given.lookup "printer_dpi").getD (.int standard.printerDpi))) charset

end SessionConfig
end ThermalPrint
