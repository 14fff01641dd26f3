import ThermalPrint.Text.Blank

/-
Base64, read strictly: nothing but its digits, and padding only at the end.
-/

namespace ThermalPrint
namespace Base64

inductive Fault
  | notAscii
  | leadingPadding
  | excessData
  | foreignCharacter
  | brokenPadding
  | oneDigitMore (digits : Nat)
  | missingPadding
deriving DecidableEq, Repr

def Fault.message : Fault → Text
  | notAscii => "string argument should contain only ASCII characters"
  | leadingPadding => "Leading padding not allowed"
  | excessData => "Excess data after padding"
  | foreignCharacter => "Only base64 data is allowed"
  | brokenPadding => "Discontinuous padding not allowed"
  | oneDigitMore digits =>
    s!"Invalid base64-encoded string: number of data characters ({digits}) "
      ++ "cannot be 1 more than a multiple of 4"
  | missingPadding => "Incorrect padding"

def digit? (c : CodePoint) : Option Nat :=
  let n := c.toNat
  if 65 ≤ n && n ≤ 90 then some (n - 65)
  else if 97 ≤ n && n ≤ 122 then some (n - 71)
  else if 48 ≤ n && n ≤ 57 then some (n + 4)
  else if n = 43 then some 62
  else if n = 47 then some 63
  else none

/-- Where reading stands: the bits not yet in a byte, how many digits of a group of
four have been read and how many padding marks behind them, and whether padding has
begun at all. -/
structure State where
  bits : Nat := 0
  digits : Nat := 0
  pads : Nat := 0
  padding : Bool := false

/-- Reads on; `done` holds the bytes so far, reversed. -/
private def step : State → List UInt8 → Text → Except Fault (List UInt8)
  | s, done, [] =>
    if s.digits = 0 then .ok done.reverse
    else if s.digits = 1 then .error (.oneDigitMore (done.length / 3 * 4 + 1))
    else .error .missingPadding
  | s, done, c :: rest =>
    if c = '=' then
      if s.digits ≥ 2 then
        let pads := s.pads + 1
        if s.digits + pads ≥ 4 then
          if rest.isEmpty then .ok done.reverse else .error .excessData
        else step { s with pads := pads, padding := true } done rest
      else step { s with padding := true } done rest
    else match digit? c with
      | none => .error .foreignCharacter
      | some d =>
        if s.padding then .error .brokenPadding
        else
          let bits := s.bits * 64 + d
          if s.digits = 0 then step { s with bits := bits, digits := 1, pads := 0 } done rest
          else if s.digits = 1 then
            step { s with bits := bits % 16, digits := 2, pads := 0 }
              (UInt8.ofNat (bits / 16) :: done) rest
          else if s.digits = 2 then
            step { s with bits := bits % 4, digits := 3, pads := 0 }
              (UInt8.ofNat (bits / 4) :: done) rest
          else step { s with bits := 0, digits := 0, pads := 0 } (UInt8.ofNat bits :: done) rest

def decode (t : Text) : Except Fault (List UInt8) :=
  if t.any fun c => c.toNat ≥ 128 then .error .notAscii
  else if t.head? == some (.char '=') then .error .leadingPadding
  else step {} [] t

end Base64
end ThermalPrint
