import ThermalPrint.Image.Png.Chunk

/-
The rows of samples in the data of a PNG image.  The data come in portions, and a row
is taken as soon as it is known; so a file may be refused for the first thing that is
wrong with it, or accepted before something wrong is met.
-/

namespace ThermalPrint
namespace Png

/-- The pixels of a pass: every so many columns and rows from the first ones on. -/
structure Pass where
  column : Nat
  row : Nat
  across : Nat
  down : Nat

namespace Pass

def columns (p : Pass) (width : Nat) : Nat := (width + p.across - 1 - p.column) / p.across

def rows (p : Pass) (width height : Nat) : Nat :=
  if p.columns width = 0 then 0 else (height + p.down - 1 - p.row) / p.down

def covers (p : Pass) (x y : Nat) : Bool :=
  p.column ≤ x && p.row ≤ y && (x - p.column) % p.across = 0 && (y - p.row) % p.down = 0

/-- All pixels in one pass, or in seven of ever finer ones. -/
def all (interlaced : Bool) : List Pass :=
  if interlaced then
    [⟨0, 0, 8, 8⟩, ⟨4, 0, 8, 8⟩, ⟨0, 4, 4, 8⟩, ⟨2, 0, 4, 4⟩, ⟨0, 2, 2, 4⟩, ⟨1, 0, 2, 2⟩,
      ⟨0, 1, 1, 2⟩]
  else [⟨0, 0, 1, 1⟩]

end Pass

namespace Format

def rowLength (f : Format) (columns : Nat) : Nat := (columns * f.samples * f.depth + 7) / 8

/-- The distance between bytes that filters compare. -/
def step (f : Format) : Nat := (f.samples * f.depth + 7) / 8

end Format

/-- Of three neighbours the one nearest to left + above - corner. -/
private def nearestNeighbour (left above corner : Nat) : Nat :=
  let estimate : Int := (left : Int) + above - corner
  let distance (n : Nat) : Nat := (estimate - n).natAbs
  if distance left ≤ distance above && distance left ≤ distance corner then left
  else if distance above ≤ distance corner then above
  else corner

private def prediction (filter left above corner : Nat) : Nat :=
  if filter = 1 then left
  else if filter = 2 then above
  else if filter = 3 then (left + above) / 2
  else if filter = 4 then nearestNeighbour left above corner
  else 0

private def lastFilter : Nat := 4

/-- A row with its filter undone.  It stands in `raw` behind the byte at `start`; above
it is the row `above`. -/
private def unfilter (step length : Nat) (raw : ByteArray) (start : Nat) (above : ByteArray) :
    ByteArray :=
  let filter := (Bytes.get raw start).toNat
  length.fold (fun x _ row =>
    let left := if x < step then 0 else (Bytes.get row (x - step)).toNat
    let corner := if x < step then 0 else (Bytes.get above (x - step)).toNat
    let byte := (Bytes.get raw (start + 1 + x)).toNat
    row.push (UInt8.ofNat (byte + prediction filter left (Bytes.get above x).toNat corner)))
    (ByteArray.emptyWithCapacity length)

/-- A part of the compressed data that is read at once: where it stops in the data, and
where the chunk that holds it stops in the file. -/
structure Portion where
  stop : Nat
  chunkStop : Nat

/-- What is made of the data.  All but data that are too short are left in a portion. -/
inductive Decoded
  | rows (rows : Array ByteArray) (portion : Portion)
  | broken (portion : Portion)
  | badFilter (portion : Portion)
  | tooShort

/-- Rows that are still to come: so many of a length. -/
structure Stretch where
  count : Nat
  length : Nat

def Format.stretches (f : Format) (passes : List Pass) (width height : Nat) : List Stretch :=
  (passes.map fun p => (⟨p.rows width height, f.rowLength (p.columns width)⟩ : Stretch)).filter
    fun s => s.count > 0

/-- Takes rows out of expanded data, portion by portion.  `start` is the place of the
next row, `above` the row above it. -/
private def takeRows (step : Nat) (e : Inflate.Expansion) (ending : Inflate.Ending) :
    Nat → List Portion → List Stretch → Nat → ByteArray → Array ByteArray → Decoded
  | fuel + 1, portion :: more, ⟨count, length⟩ :: stretches, start, above, rows =>
    let stop := start + length + 1
    let met (end_ : Inflate.Ending) : Bool := ending == end_ && e.spent ≤ portion.stop
    if stop ≤ e.out.size && (e.known[stop - 1]?).any (· ≤ portion.stop) then
      let last := e.out.size = stop
      if last && met .broken then .broken portion
      else if (Bytes.get e.out start).toNat > lastFilter then .badFilter portion
      else
        let row := unfilter step length e.out start above
        let rows := rows.push row
        let (above, stretches) :=
          if count > 1 then (row, ⟨count - 1, length⟩ :: stretches)
          else (ByteArray.empty, stretches)
        if stretches.isEmpty || (last && met .finished) then .rows rows portion
        else
          let ahead :=
            (e.ahead[stop]?).getD (if ending == .farBack then e.spent else portion.stop)
          let portions := if ahead < portion.stop then portion :: more else more
          takeRows step e ending fuel portions stretches stop above rows
    else if e.out.size < stop && (met .broken || met .farBack) then .broken portion
    else takeRows step e ending fuel more (⟨count, length⟩ :: stretches) start above rows
  | _, _, _, _, _, _ => .tooShort

def Format.decode (f : Format) (stretches : List Stretch) (data : ByteArray)
    (portions : List Portion) : Decoded :=
  let room := (stretches.map fun s => s.count * (s.length + 1)).sum
  let (e, ending) := Inflate.expand data room
  takeRows f.step e ending (e.out.size + portions.length + 1) portions stretches 0 .empty #[]

namespace Format

private def pixelBytes (f : Format) : Nat :=
  match f.mode .empty with
  | .rgba => 4
  | .gray16 => 2
  | _ => f.samples

/-- The byte `i` of a pixel in a row of samples.  Samples of two bytes lose the lower
one, but gray ones are turned round; smaller samples are stretched to a byte. -/
private def pixelByte (f : Format) (row : ByteArray) (column i : Nat) : UInt8 :=
  if f.depth < 8 then
    let bit := column * f.depth
    let byte := (Bytes.get row (bit / 8)).toNat
    let scale := match f.mode .empty with
      | .gray => 255 / (2 ^ f.depth - 1)
      | _ => 1
    UInt8.ofNat (scale * (byte / 2 ^ (8 - f.depth - bit % 8) % 2 ^ f.depth))
  else if f.depth = 8 then Bytes.get row (column * f.samples + i)
  else match f.mode .empty with
    | .gray16 => Bytes.get row (2 * column + 1 - i)
    | _ =>
      let sample := if f.samples = 2 then i / 3 else i
      Bytes.get row (2 * (column * f.samples + sample))

/-- The row of a pixel among those of all passes, and its column there. -/
private def placeOf (passes : List Pass) (width height x y : Nat) : Nat × Nat :=
  go 0 passes
where
  go (before : Nat) : List Pass → Nat × Nat
    | [] => (before, 0)
    | p :: ps =>
      if p.covers x y then (before + (y - p.row) / p.down, (x - p.column) / p.across)
      else go (before + p.rows width height) ps

/-- The picture of a size whose rows are given for a region of it.  What has no row is
all zero. -/
def picture (f : Format) (mode : PixelMode) (width height : Nat) (passes : List Pass)
    (region : Region) (rows : Array ByteArray) : Picture :=
  let row? (x y : Nat) : Option (ByteArray × Nat) :=
    if region.left ≤ x && region.top ≤ y && x - region.left < region.width
        && y - region.top < region.height then
      let (row, column) :=
        placeOf passes region.width region.height (x - region.left) (y - region.top)
      (rows[row]?).map fun row => (row, column)
    else none
  let byteAt (x y i : Nat) : UInt8 :=
    match row? x y with
    | some (row, column) => f.pixelByte row column i
    | none => 0
  let bytes := f.pixelBytes
  let data := match mode with
    | .bilevel =>
      let length := rowBytes width
      Bytes.generate (length * height) fun i =>
        UInt8.ofNat ((List.range 8).foldl (fun n k =>
          let x := 8 * (i % length) + k
          2 * n + if x < width then (byteAt x (i / length) 0).toNat else 0) 0)
    | _ =>
      Bytes.generate (width * height * bytes) fun i =>
        byteAt (i / bytes % width) (i / bytes / width) (i % bytes)
  ⟨mode, width, height, data⟩

end Format
end Png
end ThermalPrint
