import ThermalPrint.Text.Multibyte.Chinese
import ThermalPrint.Text.Multibyte.Japanese
import ThermalPrint.Text.Multibyte.Korean

/-
Character sets that switch between others.  Sequences of bytes in a text call a set in, and
its codes follow until another one is called; a text begins and ends in ASCII.
-/

namespace ThermalPrint
namespace Text

/-- A set that can be called in.  One that is `shifted` is called once, and is then reached by
a shift and left by another. -/
structure CalledSet where
  call : List UInt8
  code? : Char → Option (List UInt8)
  pair? : Char → Char → Option (List UInt8) := fun _ _ => none
  shifted : Bool := false

/-- The sets of a text in the order in which they are asked for a character, and what calls
ASCII back.  A character that begins calls stands doubled. -/
structure Switched where
  sets : List CalledSet
  home : List UInt8 := [0x1B, 0x28, 0x42]
  doubled : Option Char := none

namespace Switched

/-- The set that is in use, the one that shifts reach, and whether it is reached. -/
structure Setting where
  current : List UInt8
  called : Option (List UInt8) := none
  shifted : Bool := false

def shiftOut : UInt8 := 0x0E
def shiftIn : UInt8 := 0x0F

variable (switched : Switched)

def start : Setting := ⟨switched.home, none, false⟩

/-- What leads back to ASCII, in front of a character of it and at the end. -/
private def toHome (s : Setting) : List UInt8 :=
  (if s.current = switched.home then [] else switched.home) ++ (if s.shifted then [shiftIn] else [])

private def ascii (s : Setting) (c : Char) : List UInt8 × Setting :=
  let b := UInt8.ofNat c.toNat
  (switched.toHome s ++ (if switched.doubled = some c then [b, b] else [b]),
    { s with current := switched.home, shifted := false })

/-- A code of a set, with what leads to the set in front of it. -/
private def inSet (s : Setting) (set : CalledSet) (code : List UInt8) : List UInt8 × Setting :=
  if set.shifted then
    ((if s.called = some set.call then [] else set.call) ++ (if s.shifted then [] else [shiftOut])
      ++ code, { s with called := some set.call, shifted := true })
  else
    ((if s.shifted then [shiftIn] else []) ++ (if s.current = set.call then [] else set.call)
      ++ code, { s with current := set.call, shifted := false })

/-- One character; a question mark stands for one that no set has. -/
private def character (s : Setting) (c : Char) : List UInt8 × Setting :=
  if c.toNat < 128 then switched.ascii s c
  else
    match switched.sets.findSome? fun set => (set.code? c).map (set, ·) with
    | some (set, code) => inSet s set code
    | none => switched.ascii s '?'

private def pair? (s : Setting) (c d : Char) : Option (List UInt8 × Setting) :=
  if c.toNat < 128 then none
  else (switched.sets.findSome? fun set => (set.pair? c d).map (set, ·)).map fun (set, code) =>
    inSet s set code

/-- The bytes of a text behind those of `done`, which are reversed. -/
private def encodeFrom (s : Setting) (done : List UInt8) : List Char → List UInt8
  | [] => ((switched.toHome s).reverse ++ done).reverse
  | [c] =>
    let (bytes, s) := switched.character s c
    ((switched.toHome s).reverse ++ (bytes.reverse ++ done)).reverse
  | c :: d :: rest =>
    match switched.pair? s c d with
    | some (bytes, s) => encodeFrom s (bytes.reverse ++ done) rest
    | none =>
      let (bytes, s) := switched.character s c
      encodeFrom s (bytes.reverse ++ done) (d :: rest)

def encode (t : List Char) : List UInt8 := switched.encodeFrom switched.start [] t

end Switched

namespace CalledSet

open Multibyte

private def ofPlaces (call : List UInt8) (place? : Char → Option (Nat × Nat)) : CalledSet where
  call := 0x1B :: call
  code? c := (place? c).map lowerBytes

private def jis0208 : CalledSet := ofPlaces [0x24, 0x42] jisX0208.place?
private def jis0212 : CalledSet := ofPlaces [0x24, 0x28, 0x44] jisX0212.place?
private def korean : CalledSet := ofPlaces [0x24, 0x28, 0x43] ksX1001.place?
private def chinese : CalledSet := ofPlaces [0x24, 0x28, 0x41] Text.gb2312.place?

private def koreanShifted : CalledSet :=
  { ofPlaces [0x24, 0x29, 0x43] ksX1001.place? with shifted := true }

private def roman : CalledSet where
  call := [0x1B, 0x28, 0x4A]
  code? c := (romanSign? c).map ([·])

private def halfKatakana : CalledSet where
  call := [0x1B, 0x28, 0x49]
  code? c := (katakana? c).map fun b => [b - 0x80]

private def firstPlane (edition : Edition) : CalledSet :=
  ofPlaces [0x24, 0x28, if edition = .of2000 then 0x4F else 0x51] (firstPlane? edition)

private def secondPlane (edition : Edition) : CalledSet :=
  ofPlaces [0x24, 0x28, 0x50] (secondPlane? edition)

private def pairs (edition : Edition) : CalledSet where
  call := (firstPlane edition).call
  code? _ := none
  pair? c d := (pairPlace? edition c d).map lowerBytes

private def tildes : CalledSet where
  call := [0x7E, 0x7B]
  code? c := (Text.gb2312.place? c).map lowerBytes

end CalledSet

namespace Switched

open CalledSet

def iso2022Jp : Switched := { sets := [jis0208, roman] }
def iso2022Jp1 : Switched := { sets := [jis0208, jis0212, roman] }
def iso2022Jp2 : Switched := { sets := [jis0208, jis0212, korean, chinese, roman] }
def iso2022JpExt : Switched := { sets := [jis0208, jis0212, roman, halfKatakana] }
def iso2022Kr : Switched := { sets := [koreanShifted] }

def iso2022Jis (edition : Multibyte.Edition) : Switched :=
  { sets := [pairs edition, jis0208, firstPlane edition, secondPlane edition] }

/-- GB 2312 between tildes with braces. -/
def hz : Switched := { sets := [tildes], home := [0x7E, 0x7D], doubled := some '~' }

end Switched
end Text
end ThermalPrint
