import ThermalPrint.Image.Png.Rows

/-
PNG images.  An image is opened by reading the chunks in front of its pixels, whose
checksums have to be right.  Decoding it reads the pixels and the chunks behind them.
-/

namespace ThermalPrint
namespace Png

def signature : List UInt8 := [0x89, 0x50, 0x4E, 0x47, 0x0D, 0x0A, 0x1A, 0x0A]

/-- An image that has been opened: what is known of it, and the place and the length of
the first of its pixels, if it has any. -/
structure Opened where
  notes : Notes
  pixels? : Option (Nat × Nat)

private def unsound : Fault := .value .malformed "broken PNG file"

private def openFrom (file : ByteArray) : Nat → Notes → Nat → Except Fault Opened
  | 0, _, _ => .error unsound
  | fuel + 1, n, place => do
    let c ← Chunk.headAt file place
    let next (n : Notes) : Except Fault Opened :=
      if c.isSound file then openFrom file fuel n (c.stop + 4) else .error unsound
    match ← c.read file n with
    | .known n => next n
    | .pixels n start length => .ok ⟨n, some (start, length)⟩
    | .ending => .ok ⟨n, none⟩
    | .unknown => do
      let _ ← c.body file
      next n

def open? (file : ByteArray) : Option (Except Fault Opened) :=
  if Bytes.slice file 0 8 = signature then some (openFrom file file.size {} 8) else none

namespace Opened

/-- The picture is the first of several.  Pixels without a region are one picture more
than there are frames. -/
private def isAnimated (o : Opened) : Bool :=
  match o.notes.frames with
  | some count => o.notes.region.isNone || count > 1
  | none => false

private def truncated (detail : String) : Fault :=
  .system .general ("image file is truncated" ++ detail)

private def nothingLeft : Fault := truncated " (0 bytes not processed)"

/-- Data are read in portions of so many bytes at most. -/
private def portionLimit : Nat := 65536

/-- The compressed data of an image in portions, and the fault if they do not suffice. -/
structure Content where
  data : ByteArray := .empty
  portions : Array Portion := #[]
  fault : Fault := nothingLeft

private def readContent (file : ByteArray) : Nat → Notes → Nat → Nat → Content → Content
  | 0, _, _, _, done => done
  | fuel + 1, n, place, left, done =>
    if left > 0 then
      let count := min portionLimit left
      if place ≥ file.size then { done with fault := nothingLeft }
      else
        let data := done.data ++ file.extract place (place + count)
        readContent file fuel n (min file.size (place + count)) (left - count)
          { done with data, portions := done.portions.push ⟨data.size, place + left⟩ }
    else
      match Chunk.headAt file (place + 4) with
      | .error (.value .unpacking _) => { done with fault := truncated "" }
      | .error fault => { done with fault }
      | .ok c =>
        if c.name = "IDAT" || c.name = "DDAT" then readContent file fuel n c.start c.length done
        else if c.name = "fdAT" then
          match c.read file n with
          | .error fault => { done with fault }
          | .ok (.pixels n start length) => readContent file fuel n start length done
          | .ok _ => { done with fault := nothingLeft }
        else { done with fault := nothingLeft }

private def readRest (file : ByteArray) (animated : Bool) : Nat → Notes → Nat → Except Fault Unit
  | 0, _, _ => .ok ()
  | fuel + 1, n, place =>
    match Chunk.headAt file (place + 4) with
    | .error _ => .ok ()
    | .ok c =>
      if c.name = "IEND" || (c.name = "fcTL" && animated) then .ok ()
      else do
        let next (n : Notes) : Except Fault Unit := do
          let _ ← c.body file
          readRest file animated fuel n c.stop
        match ← c.read file n with
        | .known n | .pixels n _ _ => next n
        | _ => next n

private def paletteLimit : Nat := 770

def decode (o : Opened) (file : ByteArray) : Except Fault Picture := do
  let n := o.notes
  let some (start, length) := o.pixels? | .error (.system .general "cannot load this image")
  let some f := n.format | .error (.system .general "cannot load this image")
  let mode := f.mode (n.palette.extract 0 (n.palette.size / 3 * 3))
  match mode with
  | .palette _ =>
    if n.palette.size > paletteLimit then .error (.value .value "invalid palette size")
  | _ => pure ()
  let region := match n.region with
    | some r => if r.left = 0 && r.width = 0 then ⟨0, 0, n.width, n.height⟩ else r
    | none => ⟨0, 0, n.width, n.height⟩
  if region.width = 0 || region.height = 0 || region.left + region.width > n.width
      || region.top + region.height > n.height then
    .error (.value .value "tile cannot extend outside image")
  let passes := Pass.all n.interlaced
  let content := readContent file file.size n start length {}
  let rest (portion : Portion) : Except Fault Unit :=
    readRest file o.isAnimated file.size n portion.chunkStop
  let stretches := f.stretches passes region.width region.height
  match f.decode stretches content.data content.portions.toList with
  | .rows rows portion =>
    rest portion
    return f.picture mode n.width n.height passes region rows
  | .broken portion =>
    rest portion
    .error (.system .general "broken data stream when reading image file")
  | .badFilter portion =>
    rest portion
    .error (.system .general "unrecognized data stream contents when reading image file")
  | .tooShort => .error content.fault

end Opened
end Png
end ThermalPrint
