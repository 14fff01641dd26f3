import ThermalPrint.Text.CodePoint

/-
Where a line stands on the paper.
-/

namespace ThermalPrint

inductive Align
  | left
  | center
  | right
deriving DecidableEq, Repr, Inhabited

namespace Align

def word : Align → String
  | left => "left"
  | center => "center"
  | right => "right"

def ofWord? (w : Text) : Option Align := [left, center, right].find? fun a => a.word.toText == w

/-- The alignment that a letter in brackets stands for. -/
def ofLetter? (c : CodePoint) : Option Align :=
  if c = 'L' then some left
  else if c = 'C' then some center
  else if c = 'R' then some right
  else none

end Align
end ThermalPrint
