import ThermalPrint.Json.Arguments
import ThermalPrint.Work.Request

/-
Requests to print something later, given by the names of their parts.
-/

namespace ThermalPrint
namespace PrintRequest

def signature : Signature :=
  { name := "PrintRequest.__init__"
    optional := ["markup", "image", "images", "image_optional", "cut"] }

private def text? : Json → Option Text
  | .str s => some s
  | _ => none

def ofNames (given : List (String × Json)) : Except Fault PrintRequest := do
  let given ← signature.bind ⟨[], given⟩
  let value (name : String) : Json := (given.lookup name).getD .null
  let images := match value "images" with
    | .obj members => members.map fun (handle, reference) => (handle, (text? reference).getD [])
    | _ => []
  .ok
    { markup := text? (value "markup"), image := text? (value "image"), images
      imageOptional := !(value "image_optional").isEmpty, cut := !(value "cut").isEmpty }

end PrintRequest
end ThermalPrint
