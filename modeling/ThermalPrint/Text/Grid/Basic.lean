/-
Characters arranged in rows, as the standards for large character sets arrange them.  A set
is a table of such rows, and the row and the cell of a character are its number in the set.
-/

namespace ThermalPrint
namespace Text

/-- Characters that stand next to each other in a row, from a cell on.  Cells are counted
from zero, and U+FFFD stands in those that are empty. -/
structure GridRun where
  row : Nat
  cell : Nat
  characters : String

/-- Runs of characters, each with its row and its first cell. -/
structure Grid where
  runs : List (Nat × Nat × Array Char)

namespace Grid

/-- What stands in empty cells. -/
def gap : Char := '\uFFFD'

def ofRuns (runs : List GridRun) : Grid :=
  ⟨runs.map fun run => (run.row, run.cell, run.characters.toList.toArray)⟩

def place? (grid : Grid) (c : Char) : Option (Nat × Nat) :=
  if c = gap then none
  else grid.runs.findSome? fun (row, cell, characters) =>
    (characters.idxOf? c).map fun i => (row, cell + i)

end Grid
end Text
end ThermalPrint
