import ThermalPrint.Text.Hex
import ThermalPrint.Text.Utf16

/-
Reading and writing UTF-8.  Bytes that are no text are refused with their place, and so are
the halves of surrogate pairs in a text.
-/

namespace ThermalPrint
namespace Utf8

inductive Cause
  | start
  | continuation
  | endOfData
deriving DecidableEq, Repr

def Cause.text : Cause → Text
  | start => "invalid start byte"
  | continuation => "invalid continuation byte"
  | endOfData => "unexpected end of data"

/-- Bytes that are no text: the first of them, its place, and how many belong to it. -/
structure Fault where
  cause : Cause
  byte : UInt8
  place : Nat
  count : Nat
deriving DecidableEq, Repr

def Fault.message (f : Fault) : Text :=
  if f.count = 1 then
    "'utf-8' codec can't decode byte 0x" ++ Text.hexOfByte f.byte ++ s!" in position {f.place}: "
      ++ f.cause.text
  else
    s!"'utf-8' codec can't decode bytes in position {f.place}-{f.place + f.count - 1}: "
      ++ f.cause.text

private def isContinuation (b : UInt8) : Bool := 0x80 ≤ b && b < 0xC0

/-- The second byte of a sequence is one that its first byte allows.  Halves of surrogate
pairs are written like characters, where they may be. -/
private def isSecond (halves : Bool) (first second : UInt8) : Bool :=
  isContinuation second
    && (if first == 0xE0 then second ≥ 0xA0
      else if first == 0xED then halves || second < 0xA0
      else if first == 0xF0 then second ≥ 0x90
      else if first == 0xF4 then second < 0x90
      else true)

private def sequenceLength? (first : UInt8) : Option Nat :=
  if first < 0x80 then some 1
  else if first < 0xC2 then none
  else if first < 0xE0 then some 2
  else if first < 0xF0 then some 3
  else if first < 0xF5 then some 4
  else none

private def carried (halves : Bool) (first : UInt8) (more : List UInt8) : Nat :=
  match more with
  | [] => 0
  | second :: rest =>
    if isSecond halves first second then 1 + (rest.takeWhile isContinuation).length else 0

private def sequence (halves : Bool) (place : Nat) (first : UInt8) (rest : List UInt8) :
    Except Fault (CodePoint × Nat) :=
  match sequenceLength? first with
  | none => .error ⟨.start, first, place, 1⟩
  | some n =>
    let more := rest.take (n - 1)
    let good := carried halves first more
    if good = n - 1 then
      let lead : Nat := if n = 1 then first.toNat else first.toNat % 2 ^ (7 - n)
      .ok (.ofNat (more.foldl (fun v b => v * 64 + b.toNat % 64) lead), n - 1)
    else if good = more.length then .error ⟨.endOfData, first, place, 1 + good⟩
    else .error ⟨.continuation, first, place, 1 + good⟩

/-- Reads on; `done` holds the characters so far, reversed, and `skip` is how many bytes
belong to the last of them. -/
private def decodeFrom (halves : Bool) : Nat → Nat → Text → List UInt8 → Except Fault Text
  | _, _, done, [] => .ok done.reverse
  | place, skip + 1, done, _ :: rest => decodeFrom halves (place + 1) skip done rest
  | place, 0, done, b :: rest =>
    match sequence halves place b rest with
    | .error fault => .error fault
    | .ok (c, more) => decodeFrom halves (place + 1) more (c :: done) rest

def decode (bytes : List UInt8) : Except Fault Text := decodeFrom false 0 0 [] bytes

/-- Reads bytes in which halves of surrogate pairs are allowed. -/
def decodeWithHalves (bytes : List UInt8) : Except Fault Text := decodeFrom true 0 0 [] bytes

private def decodeAnyFrom : Nat → Text → List UInt8 → Text
  | _, done, [] => done.reverse
  | skip + 1, done, _ :: rest => decodeAnyFrom skip done rest
  | 0, done, b :: rest =>
    match sequence false 0 b rest with
    | .error fault => decodeAnyFrom (fault.count - 1) ('\uFFFD' :: done) rest
    | .ok (c, more) => decodeAnyFrom more (c :: done) rest

/-- The text in any bytes, with U+FFFD for each run of them that is no text. -/
def decodeAny (bytes : List UInt8) : Text := decodeAnyFrom 0 [] bytes

/-- Halves of surrogate pairs in a text: the number of the first, its place, and how many
stand together. -/
structure Unpaired where
  code : Nat
  place : Nat
  count : Nat
deriving DecidableEq, Repr

def Unpaired.message (f : Unpaired) : Text :=
  if f.count = 1 then
    "'utf-8' codec can't encode character '\\u" ++ Text.hexPlaces 4 f.code
      ++ s!"' in position {f.place}: surrogates not allowed"
  else
    s!"'utf-8' codec can't encode characters in position {f.place}-{f.place + f.count - 1}: "
      ++ "surrogates not allowed"

/-- The halves in a text from the first one of some kind on. -/
def halvesFrom? (kind : CodePoint → Bool) (t : Text) : Option Unpaired :=
  match t.dropWhile fun c => !kind c with
  | [] => none
  | c :: rest =>
    some ⟨c.toNat, t.length - (rest.length + 1), 1 + (rest.takeWhile CodePoint.isHalf).length⟩

def unpaired? (t : Text) : Option Unpaired := halvesFrom? CodePoint.isHalf t

/-- A half that stands for a byte which is no text. -/
def isByte (c : CodePoint) : Bool := c.isHalf && 0xDC80 ≤ c.toNat && c.toNat ≤ 0xDCFF

/-- The first halves in a text that stand for no byte. -/
def stray? (t : Text) : Option Unpaired := halvesFrom? (fun c => c.isHalf && !isByte c) t

/-- The bytes of a character; a half has none. -/
def bytesOf : CodePoint → List UInt8
  | .char c => String.utf8EncodeChar c
  | .half _ => []

def encode (t : Text) : Except Unpaired (List UInt8) :=
  match unpaired? t with
  | some fault => .error fault
  | none => .ok (t.flatMap bytesOf)

end Utf8
end ThermalPrint
