import ThermalPrint.Align
import ThermalPrint.Bytes
import ThermalPrint.Image.Fault

/-
Rasters: black and white images packed for the print head, eight dots to a byte with
the leftmost dot in the highest bit, each row filled up to whole bytes.  A raster may stand inside
a wider blank field.
-/

namespace ThermalPrint

def rowBytes (width : Nat) : Nat := (width + 7) / 8

structure Raster where
  width : Nat
  height : Nat
  data : ByteArray
  width_pos : 0 < width
  height_pos : 0 < height
  size_eq : data.size = rowBytes width * height

namespace Raster

theorem eq_iff (r s : Raster) :
    r.width = s.width ∧ r.height = s.height ∧ r.data.data = s.data.data ↔ r = s := by
  constructor
  · obtain ⟨width, height, ⟨data⟩, _, _, _⟩ := r
    obtain ⟨width', height', ⟨data'⟩, _, _, _⟩ := s
    rintro ⟨rfl, rfl, rfl⟩
    rfl
  · rintro rfl
    exact ⟨rfl, rfl, rfl⟩

instance : DecidableEq Raster := fun r s => decidable_of_iff _ (eq_iff r s)

/-- A raster of packed bytes, if its size is positive and the bytes fill it exactly. -/
def ofBytes (width height : Int) (data : ByteArray) : Except ImageFault Raster :=
  if width ≤ 0 ∨ height ≤ 0 then .error (.noSize width height)
  else
    if h : 0 < width.toNat ∧ 0 < height.toNat ∧
        data.size = rowBytes width.toNat * height.toNat then
      .ok ⟨width.toNat, height.toNat, data, h.1, h.2.1, h.2.2⟩
    else .error (.wrongLength data.size (rowBytes width.toNat * height.toNat))

def bytesPerRow (r : Raster) : Nat := rowBytes r.width

/-- The dot in column `x` of row `y` is black. -/
def dot (r : Raster) (x y : Nat) : Bool :=
  (Bytes.get r.data (y * r.bytesPerRow + x / 8)).toNat.testBit (7 - x % 8)

/-- A byte out of eight dots, the first in the highest bit. -/
def packByte (f : Nat → Bool) : UInt8 :=
  UInt8.ofNat ((List.range 8).foldl (fun n k => 2 * n + (f k).toNat) 0)

/-- The packed rows of the dots that a rule makes black; the bits that fill up the rows
are zero. -/
def packDots (width height : Nat) (black : Nat → Nat → Bool) : ByteArray :=
  Bytes.generate (rowBytes width * height) fun i =>
    let x := 8 * (i % rowBytes width)
    let y := i / rowBytes width
    packByte fun k => decide (x + k < width) && black (x + k) y

def ofDots (width height : Nat) (width_pos : 0 < width) (height_pos : 0 < height)
    (black : Nat → Nat → Bool) : Raster where
  width := width
  height := height
  data := packDots width height black
  width_pos := width_pos
  height_pos := height_pos
  size_eq := Bytes.generate_size _ _

/-- The same dots, with the bits that fill up the rows cleared. -/
def repack (r : Raster) : Raster := ofDots r.width r.height r.width_pos r.height_pos r.dot

def inkCount (r : Raster) : Nat :=
  r.height.fold (fun y _ sum => r.width.fold (fun x _ sum => sum + (r.dot x y).toNat) sum) 0

/-- The bytes of a row.  Rows before the first are counted from the end of the data
in bytes, as far as they lie in it; those outside have no bytes. -/
def row (r : Raster) (y : Int) : List UInt8 :=
  let start := y * r.bytesPerRow
  let size : Int := r.data.size
  let clamp (i : Int) : Nat := (if i < 0 then max 0 (i + size) else min i size).toNat
  Bytes.slice r.data (clamp start) (clamp (start + r.bytesPerRow))

/-- How far from the left a raster of `inner` dots stands in a field of `outer`. -/
def offset (align : Align) (inner outer : Nat) : Nat :=
  match align with
  | .left => 0
  | .center => (outer - inner) / 2
  | .right => outer - inner

/-- The raster in a field of a width that has room for it.  A field of its own width
is the raster itself. -/
def padded (r : Raster) (width : Nat) (align : Align) (fits : r.width ≤ width) : Raster :=
  if r.width = width then r
  else
    let start := offset align r.width width
    ofDots width r.height (Nat.lt_of_lt_of_le r.width_pos fits) r.height_pos fun x y =>
      decide (start ≤ x) && decide (x - start < r.width) && r.dot (x - start) y

/-- The raster in a field of any width; a field that is too narrow is refused. -/
def paddedTo (r : Raster) (width : Int) (align : Align) : Except Fault Raster :=
  if h : r.width ≤ width.toNat then .ok (r.padded width.toNat align h)
  else .error (.value .value s!"cannot pad a {r.width}-dot raster into {width} dots")

end Raster
end ThermalPrint
