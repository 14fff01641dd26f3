import ThermalPrint.Image.Reading

/-
References to images: addresses on the web, which are fetched, and images in base64,
which hold what they name.
-/

namespace ThermalPrint

/-- An answer from the web.  Its body comes in pieces, behind which the answer may break off
for a reason. -/
structure WebAnswer where
  status : Int
  reason : Text
  pieces : List ByteArray
  broken : Option Text := none

/-- Asks for an address and waits for so many seconds at most.  Without an answer, what
went wrong. -/
abbrev Fetch (m : Type → Type) := (url : Text) → (seconds : Float) → m (Except Text WebAnswer)

namespace WebAnswer

/-- Why an answer with a status for errors is of no use. -/
def refusal? (url : Text) (a : WebAnswer) : Option Text :=
  if 400 ≤ a.status ∧ a.status < 500 then
    some (s!"{a.status} Client Error: " ++ a.reason ++ " for url: " ++ url)
  else if 500 ≤ a.status ∧ a.status < 600 then
    some (s!"{a.status} Server Error: " ++ a.reason ++ " for url: " ++ url)
  else none

def gather (limit : Int) (front : ByteArray) : List ByteArray → Option ByteArray
  | [] => some front
  | piece :: rest =>
    if limit < (front ++ piece).size then none else gather limit (front ++ piece) rest

end WebAnswer

namespace Picture

/-- Images from the web are read up to this many bytes. -/
def maxBytes : Int := 20 * 1024 * 1024

def isWebAddress (reference : Text) : Bool :=
  "http://".toText.isPrefixOf reference || "https://".toText.isPrefixOf reference

def ofAnswer (limit : Int) (url : Text) (answer : Except Text WebAnswer) :
    Except Fault Picture :=
  let fail (fault : ReferenceFault) : Except Fault Picture := .error (.print fault.toPrintError)
  match answer with
  | .error reason => fail (.download url reason)
  | .ok a =>
    match a.refusal? url with
    | some reason => fail (.download url reason)
    | none =>
      match WebAnswer.gather limit .empty a.pieces, a.broken with
      | none, _ => fail (.tooLarge url limit)
      | some _, some reason => fail (.download url reason)
      | some body, none => ofFile body

/-- The picture that a reference names. -/
def load {m : Type → Type} [Monad m] (fetch : Fetch m) (limit : Int) (seconds : Float)
    (reference : Text) : m (Except Fault Picture) :=
  if isWebAddress reference then do
    return ofAnswer limit reference (← fetch reference seconds)
  else pure (ofBase64 reference)

end Picture
end ThermalPrint
