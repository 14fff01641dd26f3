import ThermalPrint.Text.Blank

/-
Decimal digits of every script, and the reading of whole numbers written with them.
-/

namespace ThermalPrint
namespace Text

/-- The zeros of Unicode's decimal digits (`Nd`); the nine other digits of the same
script follow each of them. -/
def digitZeros : Array Nat :=
  #[
    0x30, 0x660, 0x6F0, 0x7C0, 0x966, 0x9E6, 0xA66, 0xAE6, 0xB66, 0xBE6, 0xC66, 0xCE6, 0xD66,
    0xDE6, 0xE50, 0xED0, 0xF20, 0x1040, 0x1090, 0x17E0, 0x1810, 0x1946, 0x19D0, 0x1A80, 0x1A90,
    0x1B50, 0x1BB0, 0x1C40, 0x1C50, 0xA620, 0xA8D0, 0xA900, 0xA9D0, 0xA9F0, 0xAA50, 0xABF0,
    0xFF10, 0x104A0, 0x10D30, 0x11066, 0x110F0, 0x11136, 0x111D0, 0x112F0, 0x11450, 0x114D0,
    0x11650, 0x116C0, 0x11730, 0x118E0, 0x11950, 0x11C50, 0x11D50, 0x11DA0, 0x16A60, 0x16AC0,
    0x16B50, 0x1D7CE, 0x1D7D8, 0x1D7E2, 0x1D7EC, 0x1D7F6, 0x1E140, 0x1E2F0, 0x1E950, 0x1FBF0
  ]

def digitValue? (c : CodePoint) : Option Nat :=
  let n := c.toNat
  if n < 128 then if 48 ≤ n && n ≤ 57 then some (n - 48) else none
  else (digitZeros.find? fun z => z ≤ n && n ≤ z + 9).map (n - ·)

def isDigitChar (c : CodePoint) : Bool := (digitValue? c).isSome

/-- Why a text is no whole number. -/
inductive NumberFault
  | malformed
  | tooLong (digits : Nat)
deriving DecidableEq, Repr

/-- Whole numbers are read up to this many digits. -/
def digitLimit : Nat := 4300

/-- White space around a number: that of ASCII short of the separators U+001C to
U+001F, and all of it beyond. -/
def isNumberSpace (c : CodePoint) : Bool :=
  isBlankChar c && !(28 ≤ c.toNat && c.toNat ≤ 31)

/-- A run of digits in which single underscores may stand between two digits: its
value, the count of its digits, and the text behind it. -/
def digitRun (t : Text) : Option (Nat × Nat × Text) :=
  go 0 0 false t
where
  /-- `open_` says that a digit has just been read. -/
  go (value count : Nat) (open_ : Bool) : Text → Option (Nat × Nat × Text)
    | [] => if open_ then some (value, count, []) else none
    | c :: rest =>
      match digitValue? c with
      | some d => go (10 * value + d) (count + 1) true rest
      | none =>
        if c = '_' then if open_ then go value count false rest else none
        else if open_ then some (value, count, c :: rest) else none

def signed : Text → Bool × Text
  | '-' :: rest => (true, rest)
  | '+' :: rest => (false, rest)
  | t => (false, t)

def readInt (t : Text) : Except NumberFault Int :=
  let (negative, body) := signed (t.dropWhile isNumberSpace)
  match digitRun body with
  | none => .error .malformed
  | some (value, count, rest) =>
    if count > digitLimit then .error (.tooLong count)
    else if !rest.all isNumberSpace then .error .malformed
    else .ok (if negative then -(value : Int) else value)

end Text
end ThermalPrint
