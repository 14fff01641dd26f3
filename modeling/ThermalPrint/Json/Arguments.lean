import ThermalPrint.Json.Number
import ThermalPrint.Json.Writer

/-
Arguments for an operation that is asked for by its name: some have places, others have
names.
-/

namespace ThermalPrint

structure Arguments where
  places : List Json := []
  names : List (String × Json) := []

def Json.oneOf {α : Type} (type : String) (ofWord? : Text → Option α) (v : Json) :
    Except Fault α :=
  let found := match v with
    | .str s => ofWord? s
    | _ => none
  match found with
  | some x => .ok x
  | none => .error (.value .value (v.nestedText ++ s!" is not a valid {type}"))

/-- Which arguments an operation takes: the first ones have to be given, others may be
left out, and some have a name but no place.  Arguments of other names may be taken to be
passed on. -/
structure Signature where
  name : String
  required : List String := []
  optional : List String := []
  nameOnly : List String := []
  passesOn : Bool := false

namespace Signature

def places (s : Signature) : List String := s.required ++ s.optional

private def refusal (s : Signature) (message : Text) : Fault :=
  .value .wrongType (s!"{s.name}() " ++ message)

private def plural (n : Nat) : String := if n = 1 then "" else "s"

private def tooMany (s : Signature) (given : Nat) (byName : Nat) : Fault :=
  let most := s.places.length
  let taken :=
    if s.optional.isEmpty then s!"{most} positional argument{plural most}"
    else s!"from {s.required.length} to {most} positional arguments"
  let given :=
    if byName = 0 then if given = 1 then "1 was" else s!"{given} were"
    else s!"{given} positional argument{plural given} (and {byName} keyword-only "
      ++ s!"argument{plural byName}) were"
  s.refusal s!"takes {taken} but {given} given"

private def listed : List Text → Text
  | [] => []
  | [a] => Text.quote a
  | [a, b] => Text.quote a ++ " and " ++ Text.quote b
  | names =>
    ", ".toText.intercalate (names.dropLast.map Text.quote) ++ ", and "
      ++ Text.quote (names.getLast?.getD [])

private def addNamed (s : Signature) (given : List (String × Json)) (argument : String × Json) :
    Except Fault (List (String × Json)) :=
  let name := argument.1
  if s.places.contains name || s.nameOnly.contains name then
    if (given.lookup name).isSome then
      .error (s.refusal s!"got multiple values for argument '{name}'")
    else .ok (given ++ [argument])
  else if s.passesOn then .ok (given ++ [argument])
  else .error (s.refusal s!"got an unexpected keyword argument '{name}'")

def bind (s : Signature) (a : Arguments) : Except Fault (List (String × Json)) := do
  let given ← a.names.foldlM s.addNamed (s.places.zip a.places)
  let byName := (s.nameOnly.filter fun n => (given.lookup n).isSome).length
  let missing := s.required.filter fun n => (given.lookup n).isNone
  if s.places.length < a.places.length then .error (s.tooMany a.places.length byName)
  else if !missing.isEmpty then
    .error (s.refusal (s!"missing {missing.length} required positional "
      ++ s!"argument{plural missing.length}: " ++ listed (missing.map String.toText)))
  else .ok given

end Signature
end ThermalPrint
