import ThermalPrint.Decimal.Binary
import ThermalPrint.Image.Picture
import ThermalPrint.Image.Raster.Payload
import ThermalPrint.Image.Resample

/-
Fitting an image to the width of the print head.  An image that is wider is scaled
down to exactly that width; a large one is scaled band by band, so that no gray copy
of all of it is needed.
-/

namespace ThermalPrint

/-- The size of an image that has pixels. -/
structure Size where
  width : Nat
  height : Nat
  width_pos : 0 < width
  height_pos : 0 < height

namespace Size

/-- The double nearest to a number; infinity beyond all of them. -/
def measure (n : Int) : Float := Decimal.nearest (n < 0) n.natAbs 1

def scaledHeight (width height limit : Int) : Float :=
  measure height * (measure limit / measure width)

end Size

/-- The size of an image limited to a width, in proportion; the height is rounded, and at
least one dot.  Numbers beyond the doubles are refused. -/
def targetSize (width height limit : Int) : Except Fault (Int × Int) :=
  if width ≤ limit then .ok (width, height)
  else if (Decimal.ofInt? width).isNone || (Decimal.ofInt? limit).isNone then
    .error (.value .overflow "int too large to convert to float")
  else if width = 0 then .error (.value .division "float division by zero")
  else if (Decimal.ofInt? height).isNone then
    .error (.value .overflow "int too large to convert to float")
  else
    match Decimal.round? (Size.scaledHeight width height limit) with
    | some scaled => .ok (limit, max 1 scaled)
    | none => .error (.value .overflow "cannot convert float infinity to integer")

theorem targetSize_pos {width height limit : Int} {target : Int × Int} (hwidth : 0 < width)
    (hheight : 0 < height) (hlimit : 0 < limit)
    (h : targetSize width height limit = .ok target) : 0 < target.1 ∧ 0 < target.2 := by
  unfold targetSize at h
  split at h
  · cases h
    exact ⟨hwidth, hheight⟩
  · split at h
    · cases h
    · split at h
      · cases h
      · split at h
        · cases h
        · split at h
          · cases h
            exact ⟨hlimit, Int.lt_of_lt_of_le Int.one_pos (Int.le_max_left _ _)⟩
          · cases h

def Size.fitted (s : Size) (limit : Nat) (limit_pos : 0 < limit) : Except Fault Size :=
  match h : targetSize s.width s.height limit with
  | .error fault => .error fault
  | .ok (width, height) =>
    have pos := targetSize_pos (Int.natCast_pos.2 s.width_pos) (Int.natCast_pos.2 s.height_pos)
      (Int.natCast_pos.2 limit_pos) h
    .ok ⟨width.toNat, height.toNat, by omega, by omega⟩

/-- An image as a caller hands it in.  An encoded one has been recognised but not yet
decoded, so it is known how large it is but not that it is whole. -/
inductive Bitmap
  | raster (r : Raster)
  | picture (p : Picture)
  | encoded (mode : PixelMode) (width height : Nat) (decoded : Except Fault Picture)
  | foreign (typeName : String)

namespace Picture

open Coordinate (ofNat less cutOff roundUp)

def size? (p : Picture) : Option Size :=
  if h : 0 < p.width ∧ 0 < p.height then some ⟨p.width, p.height, h.1, h.2⟩ else none

/-- Images with a side longer than this are scaled band by band. -/
def largeSide : Nat := 2000

def bandRows : Nat := 32

/-- The rows of a picture that some output rows are made of, and the part of these rows that
the output rows divide. -/
structure Band (α : Type) where
  top : Nat
  bottom : Nat
  span : Resample.Span α

/-- The band for `rows` output rows from `first` on, when `height` rows become `outputs`. -/
def Band.of (α : Type) [Coordinate α] (height outputs first rows : Nat) : Band α :=
  let rowsPerOutput : α := ofNat height / ofNat outputs
  let start := ofNat first * rowsPerOutput
  let scaled := ofNat (first + rows) * rowsPerOutput
  let stop := if less scaled (ofNat height) then scaled else ofNat height
  let top := cutOff start
  let bottom := max (top + 1) (min height (roundUp stop))
  ⟨top, bottom, start - ofNat top, stop - ofNat top⟩

def scaledBand (α : Type) [Coordinate α] (p : Picture) (s : Size) (first rows : Nat) : Gray :=
  let band := Band.of α p.height s.height first rows
  Resample.resize (p.grayRows band.top band.bottom) s.width rows
    ⟨ofNat 0, ofNat p.width⟩ band.span

def scaledInBands (α : Type) [Coordinate α] (p : Picture) (s : Size) : Gray :=
  Gray.pasted s.width s.height ((Raster.blockRows s.height bandRows).map fun (first, rows) =>
    (first, p.scaledBand α s first rows))

def scaledAtOnce (α : Type) [Coordinate α] (p : Picture) (s : Size) : Gray :=
  Resample.resize (α := α) p.toGray s.width s.height ⟨ofNat 0, ofNat p.width⟩
    ⟨ofNat 0, ofNat p.height⟩

/-- The bands that a picture of a size is scaled in, each with its first row and the number of its
rows.  There are none if it is scaled in one pass, or not at all. -/
def bands (s target : Size) : List (Nat × Nat) :=
  if (s.width = target.width ∧ s.height = target.height) ∨
      (s.width ≤ largeSide ∧ s.height ≤ largeSide) then []
  else Raster.blockRows target.height bandRows

/-- What becomes of a picture of a size if the rows of one of its bands cannot be cut out of it. -/
def bandBomb? (s target : Size) : Option Fault :=
  (bands s target).findSome? fun (first, rows) =>
    let band := Band.of Float s.height target.height first rows
    bomb? s.width (band.bottom - band.top)

def scaled (p : Picture) (s : Size) : Gray :=
  if p.width = s.width ∧ p.height = s.height then p.toGray
  else if p.width > largeSide ∨ p.height > largeSide then p.scaledInBands Float s
  else p.scaledAtOnce Float s

def fit (p : Picture) (limit : Nat) (limit_pos : 0 < limit) : Except Fault Raster :=
  match p.size? with
  | none => .error (ImageFault.zeroArea p.width p.height).toFault
  | some size =>
    match size.fitted limit limit_pos with
    | .error fault => .error fault
    | .ok target =>
      match bandBomb? size target with
      | some fault => .error fault
      | none =>
        let gray := p.scaled target
        .ok (Raster.ofDots target.width target.height target.width_pos target.height_pos fun x y =>
          Gray.isInk (gray.level x y))

end Picture

namespace Bitmap

def fitsAlready (b : Bitmap) (limit : Int) : Bool :=
  match b with
  | raster r => 0 < limit && decide ((r.width : Int) ≤ limit)
  | _ => false

/-- What is wrong with an image of a file that cannot be decoded.  Faults of other
kinds than those of files and values are passed on. -/
def decodeFault (fault : Fault) : Fault :=
  if fault.isSystem || fault.isValue then (ImageFault.undecodable fault.message).toFault
  else fault

/-- The raster of an image no wider than a limit.  A raster that is narrow enough is
left as it is. -/
def fit (b : Bitmap) (limit : Int) : Except Fault Raster :=
  if h : 0 < limit.toNat then
    let ofPicture (p : Picture) : Except Fault Raster := p.fit limit.toNat h
    match b with
    | raster r => if r.width ≤ limit.toNat then .ok r else ofPicture r.toGray.toPicture
    | picture p => ofPicture p
    | encoded _ width height decoded =>
      if width = 0 ∨ height = 0 then .error (ImageFault.zeroArea width height).toFault
      else match decoded with
        | .error fault => .error (decodeFault fault)
        | .ok p => ofPicture p
    | foreign typeName => .error (ImageFault.notAnImage typeName).toFault
  else .error (ImageFault.noRoom limit).toFault

def size? : Bitmap → Option (Nat × Nat)
  | raster r => some (r.width, r.height)
  | picture p => some (p.width, p.height)
  | encoded _ width height _ => some (width, height)
  | foreign _ => none

end Bitmap
end ThermalPrint
