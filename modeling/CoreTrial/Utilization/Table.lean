import CoreTrial.Text.Search
import CoreTrial.Text.Lines
import CoreTrial.Text.Blank
import CoreTrial.Number.Binary64.Reader

/-!
# Utilization tables

A tool reports utilization as a table with cells between bars. The first cell of a row names a
resource and the last one gives its percentage. The summary has one line for each resource, from
the first row whose percentage can be read; percentages are rounded up, so that a design that
uses any of a resource never uses none.
-/

set_option autoImplicit false

namespace CoreTrial.Utilization

/-- How rows begin, and the resources they are about. -/
def rowLabels : List (String × String) := [
  ("Slice LUTs", "LUT"),
  ("CLB LUTs", "LUT"),
  ("Slice Registers", "FF"),
  ("CLB Registers", "FF"),
  ("Block RAM Tile", "BRAM"),
  ("DSPs", "DSP")]

/-- The cells of a row that are not blank, without the blanks around them. -/
def cells (row : String) : List (List Char) :=
  ((Text.splitOn '|' row.toList).map Text.trim).filter (!·.isEmpty)

/-- The resource that a first cell names. -/
def resourceOf? (cell : List Char) : Option String :=
  (rowLabels.find? fun l => l.1.toList.isPrefixOf cell).map (·.2)

/-- A percentage, rounded up and held within 32 bits. -/
def percentCell? (cell : List Char) : Option Nat :=
  (Number.Binary64.read? (String.ofList cell)).map fun x => x.ceilWithin (UInt32.size - 1)

/-- The resource and the percentage of a row. -/
def rowOf? (row : String) : Option (String × Nat) := do
  let cs := cells row
  let resource ← resourceOf? (← cs.head?)
  let percent ← percentCell? (← cs.getLast?)
  return (resource, percent)

/-- The rows of a table, the first of each resource. -/
def rows (table : String) : List (String × Nat) :=
  ((Text.lines table).filterMap rowOf?).foldl
    (fun found row => if found.any (·.1 == row.1) then found else found ++ [row]) []

/-- The line of a resource in a summary. -/
def summaryLine (row : String × Nat) : String :=
  row.1 ++ ": " ++ toString row.2 ++ "%"

/-- The summary of a table. -/
def summarize (table : String) : String :=
  String.intercalate "\n" ((rows table).map summaryLine)

end CoreTrial.Utilization
