import ThermalPrint.Image.Gray
import ThermalPrint.Bytes

/-
Resampling by areas.  Along each axis an output pixel averages the source pixels
whose centers lie in its window; the averages are computed in fixed point, first
along the rows and then along the columns.  Which numbers tell the places along an axis is left
open.
-/

namespace ThermalPrint

/-- Numbers that tell where something is along an axis, and what is asked of them when an
image is scaled. -/
class Coordinate (α : Type) extends Add α, Sub α, Mul α, Div α where
  ofNat : Nat → α
  less : α → α → Bool
  /-- The part of a number before its point, and zero for negative ones. -/
  cutOff : α → Nat
  /-- The first whole number that is not below a number, and zero for negative ones. -/
  roundUp : α → Nat
  /-- What is kept of the bounds of a part of an image. -/
  bound : α → α

namespace Coordinate

variable {α : Type} [Coordinate α]

def half : α := ofNat 1 / ofNat 2

/-- Doubles, with bounds in single precision. -/
instance : Coordinate Float where
  ofNat := Nat.toFloat
  less a b := decide (a < b)
  cutOff x := x.toUInt64.toNat
  roundUp x := x.ceil.toUInt64.toNat
  bound x := x.toFloat32.toFloat

end Coordinate

namespace Resample

/-- The fractional bits of a weight. -/
def precision : Nat := 22

/-- The source pixels that one output pixel averages: those from `first` on, with a
fixed-point weight each. -/
structure Window where
  first : Nat
  weights : List Nat

namespace Window

def sum (pixel : Nat → UInt8) : Nat → List Nat → Nat → Nat
  | _, [], total => total
  | place, w :: rest, total => sum pixel (place + 1) rest (total + w * (pixel place).toNat)

def average (w : Window) (pixel : Nat → UInt8) : UInt8 :=
  UInt8.ofNat (min 255 ((2 ^ (precision - 1) + sum pixel w.first w.weights 0) / 2 ^ precision))

end Window

/-- The span of source coordinates that the outputs along an axis divide. -/
structure Span (α : Type) where
  start : α
  stop : α

section Axis

open Coordinate

variable {α : Type} [Coordinate α]

/-- The window of an output, when `outputs` of them divide a span of a row of `inputs`
pixels.  A pixel belongs to a window in full or not at all, and all that belong weigh the
same. -/
def window (inputs : Nat) (span : Span α) (outputs : Nat) (output : Nat) : Window :=
  let start := bound span.start
  let scale := bound (bound span.stop - start) / ofNat outputs
  let reach := if less scale (ofNat 1) then ofNat 1 else scale
  let support := half * reach
  let inverse := ofNat 1 / reach
  let center := start + (ofNat output + half) * scale
  let low := cutOff (center - support + half)
  let high := min inputs (cutOff (center + support + half))
  let inside := (List.range (high - low)).map fun x =>
    let d := (ofNat (x + low) - center + half) * inverse
    less (ofNat 0 - half) d && !less half d
  let count : α := ofNat (inside.countP id)
  ⟨low, inside.map fun member =>
    if member then cutOff (half + ofNat 1 / count * ofNat (2 ^ precision)) else 0⟩

def windows (inputs : Nat) (span : Span α) (outputs : Nat) : Array Window :=
  Array.ofFn fun i : Fin outputs => window inputs span outputs i

/-- The span is all of an axis that keeps its length. -/
def isWhole (length outputs : Nat) (span : Span α) : Bool :=
  let same (a b : α) := !less a b && !less b a
  length == outputs && same (bound span.start) (ofNat 0) &&
    same (bound span.stop) (bound (ofNat length))

end Axis

def acrossRows (g : Gray) (ws : Array Window) : Gray :=
  Gray.ofLevels ws.size g.height fun x y =>
    match ws[x]? with
    | some w => w.average fun i => g.level i y
    | none => 0

def downColumns (g : Gray) (ws : Array Window) : Gray :=
  Gray.ofLevels g.width ws.size fun x y =>
    match ws[y]? with
    | some w => w.average fun i => g.level x i
    | none => 0

/-- The part of an image between two pairs of coordinates at another size.  An axis
that stays as it is is not touched. -/
def resize {α : Type} [Coordinate α] (g : Gray) (width height : Nat)
    (horizontal vertical : Span α) : Gray :=
  let wide :=
    if isWhole g.width width horizontal then g
    else acrossRows g (windows g.width horizontal width)
  if isWhole g.height height vertical then wide
  else downColumns wide (windows g.height vertical height)

end Resample
end ThermalPrint
