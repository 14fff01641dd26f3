import ThermalPrint.Text.CodePoint

/-
White space, and the operations on text that are defined by it: trimming, the
test for a blank text, and the division into lines.
-/

namespace ThermalPrint

namespace Text

/-- White space: the characters of Unicode's property `White_Space` together with
the four information separators U+001C to U+001F. -/
def isBlankChar (c : CodePoint) : Bool :=
  let n := c.toNat
  if n < 128 then (9 ≤ n && n ≤ 13) || (28 ≤ n && n ≤ 32)
  else n == 0x85 || n == 0xA0 || n == 0x1680 || (0x2000 ≤ n && n ≤ 0x200A)
    || n == 0x2028 || n == 0x2029 || n == 0x202F || n == 0x205F || n == 0x3000

/-- No character of the text shows on paper. -/
def isBlank (t : Text) : Bool := t.all isBlankChar

def trimLeft (t : Text) : Text := t.dropWhile isBlankChar

def trimRight (t : Text) : Text := (t.reverse.dropWhile isBlankChar).reverse

def trim (t : Text) : Text := trimRight (trimLeft t)

def withoutBlanks (t : Text) : Text := t.filter (fun c => !isBlankChar c)

/-- The characters that end a line of running text. -/
def isLineBreak (c : CodePoint) : Bool :=
  let n := c.toNat
  (10 ≤ n && n ≤ 13) || (0x1C ≤ n && n ≤ 0x1E) || n == 0x85 || n == 0x2028 || n == 0x2029

/-- The lines of a running text.  A carriage return with a line feed behind it is
one break, and a break at the very end begins no further line. -/
def breakLines (t : Text) : List Text :=
  go [] [] t
where
  /-- `line` holds the line so far and `done` the lines before it, both reversed. -/
  go (line : Text) (done : List Text) : Text → List Text
    | [] => if line.isEmpty then done.reverse else (line.reverse :: done).reverse
    | '\r' :: '\n' :: rest => go [] (line.reverse :: done) rest
    | c :: rest =>
      if isLineBreak c then go [] (line.reverse :: done) rest else go (c :: line) done rest

/-- The parts between the occurrences of a separator; one more than there are
separators. -/
def splitOn (separator : CodePoint) (t : Text) : List Text :=
  go [] [] t
where
  /-- `part` holds the part so far and `done` the parts before it, both reversed. -/
  go (part : Text) (done : List Text) : Text → List Text
    | [] => (part.reverse :: done).reverse
    | c :: rest =>
      if c = separator then go [] (part.reverse :: done) rest else go (c :: part) done rest

def find? (sought t : Text) : Option Nat :=
  go 0 t
where
  go (place : Nat) : Text → Option Nat
    | [] => if sought.isEmpty then some place else none
    | c :: rest => if sought.isPrefixOf (c :: rest) then some place else go (place + 1) rest

/-- The most parts that a text or a list made by repetition has room for in memory. -/
def room : Nat := 2 ^ 30

def padRight (width : Nat) (t : Text) : Text := t ++ List.replicate (width - t.length) (.char ' ')

theorem padRight_length (width : Nat) (t : Text) :
    (padRight width t).length = max width t.length := by
  simp [padRight]; omega

end Text
end ThermalPrint
