import ThermalPrint.Text.CodePoint

/-
Punycode: the ASCII characters of a text, and behind them the others as the steps from one to
the next.  A step counts the places of the text at which a character could be put in, for
each number from the last character's on.
-/

namespace ThermalPrint
namespace Punycode

def digit (n : Nat) : CodePoint := if n < 26 then .ofNat (97 + n) else .ofNat (22 + n)

/-- The value from which on the digit at a place is followed by another one. -/
def threshold (place bias : Nat) : Nat :=
  let n := 36 * (place + 1) - bias
  if n < 1 then 1 else if 26 < n then 26 else n

/-- The digits of a step from a place on. -/
def digitsFrom (bias place n : Nat) : Text :=
  let t := threshold place bias
  if n < t then [digit n]
  else digit (t + (n - t) % (36 - t)) :: digitsFrom bias (place + 1) ((n - t) / (36 - t))
termination_by n
decreasing_by
  have low : 1 ≤ threshold place bias := by
    unfold threshold; dsimp only; split <;> (try split) <;> omega
  have := Nat.div_le_self (n - threshold place bias) (36 - threshold place bias)
  omega

/-- Divides by 35 as often as it takes to come below 456, and counts. -/
def shrink (n count : Nat) : Nat × Nat :=
  if 455 < n then shrink (n / 35) (count + 1) else (n, count)
termination_by n
decreasing_by omega

def biasAfter (step placed : Nat) (first : Bool) : Nat :=
  let n := if first then step / 700 else step / 2
  let (n, count) := shrink (n + n / placed) 0
  36 * count + 36 * n / (n + 38)

/-- What has been written, reversed, how many characters are placed, the bias, and the step
so far. -/
structure State where
  written : Text := []
  placed : Nat
  bias : Nat := 72
  step : Nat := 0

/-- Goes past one character of the text, or places it. -/
private def pass (start code : Nat) (s : State) (c : CodePoint) : State :=
  let n := c.toNat
  if n < code then { s with step := s.step + 1 }
  else if n = code then
    { written := (digitsFrom s.bias 0 s.step).reverse ++ s.written
      placed := s.placed + 1
      bias := biasAfter s.step (s.placed + 1) (s.placed == start)
      step := 0 }
  else s

private def round (t : Text) (start : Nat) (s : State) (before code : Nat) : State :=
  t.foldl (pass start code) { s with step := s.step + (code - before) * (s.placed + 1) }

private def rounds (t : Text) (start : Nat) : Nat → List Nat → State → State
  | _, [], s => s
  | before, code :: rest, s =>
    let s := round t start s before code
    rounds t start (code + 1) rest { s with step := s.step + 1 }

def encode (t : Text) : List UInt8 :=
  let plain := t.filter fun c => c.toNat < 128
  let codes := (((t.filter fun c => 128 ≤ c.toNat).map CodePoint.toNat).mergeSort
    (fun a b => decide (a ≤ b))).eraseReps
  let s := rounds t plain.length 128 codes { placed := plain.length }
  let front : Text := if plain.isEmpty then [] else plain ++ "-"
  (front ++ s.written.reverse).map fun c => UInt8.ofNat c.toNat

end Punycode
end ThermalPrint
