import CoreTrial.Text.Width

/-!
# Grids

A table of texts drawn with lines between all rows and columns. Every column is as wide as its
widest cell, with one space on each side.
-/

set_option autoImplicit false

namespace CoreTrial.Text

/-- The widths of columns that hold the cells of all rows. -/
def columnWidths (rows : List (List String)) : List Nat :=
  let columns := rows.foldl (fun n r => max n r.length) 0
  (List.range columns).map fun i => rows.foldl (fun n r => max n (width (r.getD i ""))) 0

/-- A line between rows. -/
def ruleLine (widths : List Nat) : String :=
  widths.foldl (fun s w => s ++ String.ofList (List.replicate (w + 2) '-') ++ "+") "+"

/-- A row of cells. -/
def cellLine (widths : List Nat) (row : List String) : String :=
  (widths.zip row).foldl (fun s (w, cell) =>
    s ++ " " ++ cell ++ String.ofList (List.replicate (w - width cell) ' ') ++ " |") "|"

/-- The lines of a grid. -/
def gridLines (rows : List (List String)) : List String :=
  let widths := columnWidths rows
  ruleLine widths :: rows.flatMap fun row => [cellLine widths row, ruleLine widths]

end CoreTrial.Text
