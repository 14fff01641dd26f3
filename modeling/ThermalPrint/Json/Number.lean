import ThermalPrint.Decimal.Reading
import ThermalPrint.Fault
import ThermalPrint.Json.Basic
import ThermalPrint.Text.Quoted

/-
Numbers out of loosely typed values: texts are read, doubles are cut off, and truth
values count as zero and one.
-/

namespace ThermalPrint
namespace Json

def typeName : Json → String
  | null => "NoneType"
  | bool _ => "bool"
  | int _ => "int"
  | float _ => "float"
  | str _ => "str"
  | arr _ => "list"
  | obj _ => "dict"

private def quoteStart (s : Text) : Text := (Text.quote s).take 200

def digitsFault (digits : Nat) : Fault :=
  .value .value (s!"Exceeds the limit ({Text.digitLimit} digits) for integer string conversion: "
    ++ s!"value has {digits} digits; use sys.set_int_max_str_digits() to increase the limit")

def toInt : Json → Except Fault Int
  | int n => .ok n
  | bool b => .ok (if b then 1 else 0)
  | float x =>
    match Decimal.truncate? x with
    | some n => .ok n
    | none =>
      if x.isNaN then .error (.value .value "cannot convert float NaN to integer")
      else .error (.value .overflow "cannot convert float infinity to integer")
  | str s =>
    match Text.readInt s with
    | .ok n => .ok n
    | .error (.tooLong digits) => .error (digitsFault digits)
    | .error .malformed =>
      .error (.value .value ("invalid literal for int() with base 10: " ++ quoteStart s))
  | v =>
    .error (.value .wrongType
      ("int() argument must be a string, a bytes-like object or a real number, not '"
        ++ v.typeName ++ "'"))

def floatOfInt (n : Int) : Except Fault Float :=
  match Decimal.ofInt? n with
  | some x => .ok x
  | none => .error (.value .overflow "int too large to convert to float")

def toFloat : Json → Except Fault Float
  | int n => floatOfInt n
  | bool b => .ok (if b then 1.0 else 0.0)
  | float x => .ok x
  | str s =>
    match Decimal.readFloat? s with
    | some x => .ok x
    | none => .error (.value .value ("could not convert string to float: " ++ Text.quote s))
  | v =>
    .error (.value .wrongType
      ("float() argument must be a string or a real number, not '" ++ v.typeName ++ "'"))

end Json
end ThermalPrint
