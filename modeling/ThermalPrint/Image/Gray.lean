import ThermalPrint.Image.Raster.Basic

/-
Gray images, one byte to a pixel from black at 0 to white at 255, and their division
into ink and paper.
-/

namespace ThermalPrint

structure Gray where
  width : Nat
  height : Nat
  pixels : ByteArray
  size_eq : pixels.size = width * height

namespace Gray

def level (g : Gray) (x y : Nat) : UInt8 := Bytes.get g.pixels (y * g.width + x)

def ofLevels (width height : Nat) (level : Nat → Nat → UInt8) : Gray where
  width := width
  height := height
  pixels := Bytes.generate (width * height) fun i => level (i % width) (i / width)
  size_eq := Bytes.generate_size _ _

/-- Levels up to this one are ink, those above it paper. -/
def threshold : UInt8 := 127

def isInk (level : UInt8) : Bool := level ≤ threshold

def rows (g : Gray) (top bottom : Nat) : Gray :=
  ofLevels g.width (bottom - top) fun x y => g.level x (top + y)

def covers (y : Nat) : Nat × Gray → Bool
  | (top, part) => top ≤ y && y < top + part.height

/-- White paper with images of its width put on it one after the other, each from a row
on. -/
def pasted (width height : Nat) (parts : List (Nat × Gray)) : Gray :=
  let latest := parts.reverse
  let shown := Array.ofFn fun y : Fin height => latest.find? (covers y)
  ofLevels width height fun x y =>
    match shown[y]? with
    | some (some (top, part)) => part.level x (y - top)
    | _ => 255

def ink (g : Gray) : ByteArray :=
  Raster.packDots g.width g.height fun x y => isInk (g.level x y)

end Gray

/-- The raster as a gray image of black ink on white paper. -/
def Raster.toGray (r : Raster) : Gray :=
  Gray.ofLevels r.width r.height fun x y => if r.dot x y then 0 else 255

end ThermalPrint
