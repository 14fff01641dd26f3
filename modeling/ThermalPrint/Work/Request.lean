import ThermalPrint.Json.Basic

/-
Requests to print something later, as callers hand them in.
-/

namespace ThermalPrint

/-- What is to be printed: markup, or a single image.  Images are named by references;
`images` gives the references for the handles in the markup. -/
structure PrintRequest where
  markup : Option Text := none
  image : Option Text := none
  images : List (Text × Text) := []
  imageOptional : Bool := false
  cut : Bool := false
deriving DecidableEq, Repr

namespace PrintRequest

/-- The references that have to be loaded, at most. -/
def imageCount (r : PrintRequest) : Nat :=
  r.images.length + if (r.image.getD []).isEmpty then 0 else 1

def describe (r : PrintRequest) : List (Text × Json) :=
  [("source", .str (if r.markup.isSome then "markup" else "image")),
    ("image_count", .int r.imageCount),
    ("cut", .bool r.cut)]

end PrintRequest
end ThermalPrint
