import ThermalPrint.Image.Raster.Basic
import ThermalPrint.Text.Hex

/-
Rasters as raster commands: blocks of a header and packed rows, and their hexadecimal
form, which the element for images takes.
-/

namespace ThermalPrint
namespace Raster

def blockMark : List UInt8 := [0x1D, 0x76, 0x30]

/-- The length of the header: the mark, a mode, and the width in bytes and the
height in rows with two bytes each. -/
def headerLength : Nat := 8

def maxBlockRows : Nat := 256

def block (width rows : Nat) (body : List UInt8) : List UInt8 :=
  blockMark ++ 0 :: Bytes.littleEndian width ++ Bytes.littleEndian rows ++ body

/-- The first rows of blocks, `step` rows apart. -/
def blockTops (height step : Nat) : List Nat :=
  (List.range ((height + step - 1) / step)).map (· * step)

/-- The first row and the number of rows of each block, at most `step` rows to one. -/
def blockRows (height step : Nat) : List (Nat × Nat) :=
  (blockTops height step).map fun top => (top, min step (height - top))

/-- The raster as blocks of at most `step` rows. -/
def blocks (r : Raster) (step : Nat) : List (List UInt8) :=
  (blockRows r.height step).map fun (top, rows) =>
    block r.bytesPerRow rows
      (Bytes.slice r.data (top * r.bytesPerRow) ((top + rows) * r.bytesPerRow))

/-- The raster as blocks of at most `step` rows.  A step of no rows is refused, and so
is a width or a number of rows that two bytes do not hold. -/
def blocksOf (r : Raster) (step : Int) : Except Fault (List (List UInt8)) :=
  if step = 0 then .error (.value .value "range() arg 3 must not be zero")
  else if step < 0 then .ok []
  else if r.bytesPerRow > 65535 || min step.toNat r.height > 65535 then
    .error (.value .overflow "int too big to convert")
  else .ok (r.blocks step.toNat)

def toHex (r : Raster) : Except Fault Text :=
  (r.blocksOf maxBlockRows).map fun blocks =>
    (Text.hexOfBytes blocks.flatten).map CodePoint.toUpper

/-- One block taken off the front of a payload. -/
structure BlockRead where
  width : Nat
  rows : Nat
  body : List UInt8
  rest : List UInt8

/-- Takes a block off the front of a payload, `place` bytes behind its start.  When
blocks stand before it, `width?` is their width. -/
def readBlock (place : Nat) (width? : Option Nat) (bytes : List UInt8) :
    Except ImageFault BlockRead :=
  match bytes with
  | 0x1D :: 0x76 :: 0x30 :: _ :: xl :: xh :: yl :: yh :: rest =>
    let width := Bytes.word xl xh
    let rows := Bytes.word yl yh
    if width = 0 ∨ rows = 0 then .error .emptyBlock
    else if width? ≠ none ∧ width? ≠ some width then .error .unequalBlocks
    else
      let body := rest.take (width * rows)
      if body.length ≠ width * rows then .error .shortBlock
      else .ok ⟨width, rows, body, rest.drop (width * rows)⟩
  | _ => .error (.notRasterBlock place)

theorem readBlock_rest {place : Nat} {width? : Option Nat} {bytes : List UInt8} {b : BlockRead}
    (h : readBlock place width? bytes = .ok b) : b.rest.length < bytes.length := by
  unfold readBlock at h
  split at h
  · dsimp only at h
    split at h
    · simp at h
    · split at h
      · simp at h
      · split at h
        · simp at h
        · cases h
          simp only [List.length_drop, List.length_cons]
          omega
  · simp at h

/-- The blocks of a payload: the width they share, their rows together, and their
bodies, the last first. -/
def readBlocks (place : Nat) (width? : Option Nat) (height : Nat) (bodies : List (List UInt8))
    (bytes : List UInt8) : Except ImageFault (Nat × Nat × List (List UInt8)) :=
  if bytes.isEmpty then .ok (width?.getD 0, height, bodies)
  else
    match _h : readBlock place width? bytes with
    | .error e => .error e
    | .ok b =>
      readBlocks (place + headerLength + b.width * b.rows) (some b.width) (height + b.rows)
        (b.body :: bodies) b.rest
termination_by bytes.length
decreasing_by exact readBlock_rest _h

def ofBlocks (bytes : List UInt8) : Except ImageFault Raster :=
  if bytes.isEmpty then .error .emptyPayload
  else
    match readBlocks 0 none 0 [] bytes with
    | .error e => .error e
    | .ok (width, height, bodies) =>
      ofBytes (8 * width : Nat) height bodies.reverse.flatten.toByteArray

/-- The raster that a payload in hexadecimal digits describes, with white space
anywhere in it. -/
def ofHex (payload : Text) : Except ImageFault Raster :=
  match Text.bytesOfHex payload.withoutBlanks with
  | .error place => .error (.notHex place)
  | .ok bytes => ofBlocks bytes

end Raster
end ThermalPrint
