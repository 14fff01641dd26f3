import ThermalPrint.Json.Arguments

/-
Faults given by the name of their kind and by arguments of any type.
-/

namespace ThermalPrint

namespace PrintError

/-- What describes an error of a kind: a reason, a symbology, a tag with or without a message,
or a message that may be missing. -/
private def signature : ErrorKind → Signature
  | .deviceUnreachable =>
    { name := "DeviceUnreachable.__init__", required := ["self", "reason"] }
  | .unsupportedSymbology =>
    { name := "UnsupportedSymbology.__init__", required := ["self", "symbology"] }
  | .markupError | .unknownTag | .unterminatedTag =>
    { name := "MarkupError.__init__", required := ["self", "tag"], optional := ["message"] }
  | _ => { name := "PrintError.__init__", required := ["self"], optional := ["message"] }

/-- The error of a kind that arguments describe.  A message that counts as nothing is
missing. -/
def ofArguments (kind : ErrorKind) (arguments : List Json) : Except Fault PrintError := do
  let given ← (signature kind).bind ⟨.null :: arguments, []⟩
  let value (name : String) : Json := (given.lookup name).getD .null
  let text (name : String) : Text := (value name).plainText
  let message := if (value "message").isEmpty then none else some (text "message")
  match kind with
  | .deviceUnreachable =>
    let error := unreachable (text "reason")
    .ok (if value "reason" matches .null then { error with detail := .none } else error)
  | .unsupportedSymbology => .ok (unsupported (text "symbology"))
  | .markupError | .unknownTag | .unterminatedTag => .ok (atTag kind (text "tag") message)
  | _ => .ok (ofMessage kind message)

end PrintError

namespace Fault

/-- Arguments as a message: none is empty, one stands as it is, and several are listed. -/
private def listed : List Json → Text
  | [] => []
  | [a] => a.plainText
  | arguments => "(" ++ ", ".toText.intercalate (arguments.map Json.nestedText) ++ ")"

/-- The message of a fault of the system, which has a number and a text, and then maybe one or
two files; the argument between the files says nothing. -/
private def systemMessage (arguments : List Json) : Text :=
  let numbered (number text : Json) : Text :=
    "[Errno " ++ number.plainText ++ "] " ++ text.plainText
  match arguments with
  | [number, text] => numbered number text
  | number :: text :: .null :: rest =>
    if rest.length ≤ 2 then numbered number text else listed arguments
  | [number, text, file] | [number, text, file, _] | [number, text, file, _, .null] =>
    numbered number text ++ ": " ++ file.nestedText
  | [number, text, file, _, other] =>
    numbered number text ++ ": " ++ file.nestedText ++ " -> " ++ other.nestedText
  | arguments => listed arguments

def ofName (name : String) (arguments : List Json) : Fault :=
  match ErrorKind.ofClassName? name with
  | some kind =>
    match PrintError.ofArguments kind arguments with
    | .ok error => .print error
    | .error fault => fault
  | none =>
    match SystemFault.ofWord? name with
    | some kind =>
      let kind := match kind, arguments with
        | .general, .int number :: _ :: rest =>
          if rest.length ≤ 3 then SystemFault.ofNumber number else .general
        | kind, _ => kind
      .system kind (systemMessage arguments)
    | none =>
      match (ValueFault.ofWord? name).getD .runtime, arguments with
      | .key, [key] => .value .key key.nestedText
      | kind, arguments => .value kind (listed arguments)

end Fault
end ThermalPrint
