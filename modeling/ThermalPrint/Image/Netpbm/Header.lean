import ThermalPrint.Bytes
import ThermalPrint.Image.Picture
import ThermalPrint.Text.Digit

/-
Headers of Netpbm images: a magic number that says what the pixels are and whether they are
written as bytes or in words, the size, and the sample that stands for full light.

Words are bytes between white space, which mostly are numbers.  A hash begins a comment that
goes on to the end of its line.
-/

namespace ThermalPrint

namespace Netpbm

def isSpace (b : UInt8) : Bool := b == 0x20 || (0x09 ≤ b && b ≤ 0x0D)

def endsLine (b : UInt8) : Bool := b == 0x0A || b == 0x0D

def beginsComment (b : UInt8) : Bool := b == 0x23

def wordLimit : Nat := 10

/-- The next word of a header from a place on, and the place behind the byte that ends it.
A comment inside of a word does not end it.  `done` is the word so far, reversed. -/
def word (file : ByteArray) : Nat → Nat → Bool → List UInt8 → List UInt8 × Nat
  | 0, place, _, done => (done.reverse, place)
  | fuel + 1, place, inComment, done =>
    let b := Bytes.get file place
    if place ≥ file.size || (!inComment && done.length > wordLimit) then (done.reverse, place)
    else if inComment then word file fuel (place + 1) (!endsLine b) done
    else if isSpace b then
      if done.isEmpty then word file fuel (place + 1) false [] else (done.reverse, place + 1)
    else if beginsComment b then word file fuel (place + 1) true done
    else word file fuel (place + 1) false (b :: done)

/-- Bytes that no number holds, though they pass for blanks elsewhere. -/
private def isStrange (b : UInt8) : Bool := b ≥ 128 || (0x1C ≤ b && b ≤ 0x1F)

def numberOf? (word : List UInt8) : Option Int :=
  if word.any isStrange then none
  else (Text.readInt (word.map fun b => .ofNat b.toNat)).toOption

/-- Bytes without comments.  The end of a comment's line goes with it, so that what stands on
both sides of a comment grows together. -/
def withoutComments (bytes : List UInt8) : List UInt8 :=
  (bytes.foldl step ([], false)).1.reverse
where
  step (state : List UInt8 × Bool) (b : UInt8) : List UInt8 × Bool :=
    let (done, inComment) := state
    if inComment then (done, !endsLine b)
    else if beginsComment b then (done, true)
    else (b :: done, false)

def wordsOf (bytes : List UInt8) : List (List UInt8) :=
  let (done, last) := bytes.foldl step ([], [])
  (if last.isEmpty then done else last.reverse :: done).reverse
where
  step (state : List (List UInt8) × List UInt8) (b : UInt8) : List (List UInt8) × List UInt8 :=
    let (done, last) := state
    if !isSpace b then (done, b :: last)
    else if last.isEmpty then (done, [])
    else (last.reverse :: done, [])

inductive HeaderFault
  | unknown
  | endOfFile
  | longWord (word : List UInt8)
  | badNumber (word : List UInt8)
  | badLimit
deriving DecidableEq, Repr

def HeaderFault.message : HeaderFault → Text
  | unknown => "not a Netpbm image"
  | endOfFile => "Reached EOF while reading header"
  | longWord word => Text.quoteBytes ("Token too long in file header: ".toUTF8.toList ++ word)
  | badNumber word => "invalid literal for int() with base 10: " ++ Text.quoteBytes word
  | badLimit => "maxval must be greater than 0 and less than 65536"

private def number (file : ByteArray) (place : Nat) : Except HeaderFault (Int × Nat) :=
  let (w, place) := word file (file.size + 1) place false []
  if w.isEmpty then .error .endOfFile
  else if w.length > wordLimit then .error (.longWord w)
  else
    match numberOf? w with
    | some n => .ok (n, place)
    | none => .error (.badNumber w)

/-- What a header says.  `plain` images are written in words, `limit` is the sample that
stands for full light, and `start` is the place of the pixels. -/
structure Header where
  plain : Bool
  mode : PixelMode
  width : Nat
  height : Nat
  limit : Nat
  start : Nat

private def grays : ByteArray := Bytes.generate 768 fun i => UInt8.ofNat (i / 3)

private def kinds : List (String × Bool × PixelMode) :=
  [("P1", true, .bilevel), ("P2", true, .gray), ("P3", true, .rgb), ("P4", false, .bilevel),
    ("P5", false, .gray), ("P6", false, .rgb), ("P0CMYK", false, .cmyk),
    ("PyP", false, .palette grays), ("PyRGBA", false, .rgba), ("PyCMYK", false, .cmyk)]

private def magicLimit : Nat := 6

/-- The magic number at the front of a file, and the place behind it and the white space that
ends it. -/
private def magic (file : ByteArray) : List UInt8 × Nat :=
  let found := (Bytes.slice file 0 magicLimit).takeWhile fun b => !isSpace b
  (found, min magicLimit (found.length + 1))

def read (file : ByteArray) : Except HeaderFault Header :=
  let (found, place) := magic file
  match kinds.find? fun kind => kind.1.toUTF8.toList == found with
  | none => .error .unknown
  | some (_, plain, mode) => do
    let (width, place) ← number file place
    let (height, place) ← number file place
    let (limit, place) ← match mode with
      | .bilevel => .ok (255, place)
      | _ => number file place
    if limit ≤ 0 || limit ≥ 65536 then .error .badLimit
    else if width ≤ 0 || height ≤ 0 then .error .unknown
    else
      let mode := match mode with
        | .gray => if limit > 255 then .int32 else .gray
        | mode => mode
      .ok ⟨plain, mode, width.toNat, height.toNat, limit.toNat, place⟩

end Netpbm

end ThermalPrint
